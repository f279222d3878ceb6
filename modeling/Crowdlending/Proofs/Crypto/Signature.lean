import Mathlib.FieldTheory.Finite.Basic
import Mathlib.NumberTheory.LucasPrimality
import Crowdlending.Proofs.Crypto.PublicKey

/-!
# What a key signs and what it accepts

A signature is a power of the block that is signed, and it is checked by another power, which has
to bring the block back. Signing makes this check as well, so the public half of a key accepts
whatever its private half signs. That everything can be signed is the theorem of the scheme:
where the modulus is made of two primes and the exponents undo each other, every number below the
modulus comes back.
-/
namespace Crowdlending.Crypto

namespace Sha256

theorem size_absorb {state : Array UInt32} (h : state.size = 8) (fuel : ℕ) (ws : List UInt32) :
    (absorb fuel state ws).size = 8 := by
  induction fuel generalizing state ws with
  | zero => exact h
  | succ fuel ih =>
      unfold absorb
      split
      · exact h
      · exact ih rfl _

theorem length_hash (message : List UInt8) : (hash message).length = 32 := by
  have hsize := size_absorb (by decide : initial.size = 8) (words (pad message)).length
    (words (pad message))
  simp [hash, List.length_flatMap, wordBytes, hsize]

end Sha256

namespace Rsa

/-! ## Powers -/

theorem powMod_eq (n base exponent : ℕ) : powMod n base exponent = base ^ exponent % n := by
  fun_induction powMod n base exponent with
  | case1 base => rw [pow_zero]
  | case2 base exponent hpos half hodd ih =>
      have hexponent : exponent = 2 * (exponent / 2) + 1 := by omega
      conv_rhs => rw [hexponent, pow_succ, pow_mul, sq]
      simp only [half, ih, Nat.pow_mod, Nat.mod_mod, Nat.mul_mod]
  | case3 base exponent hpos half heven ih =>
      have hexponent : exponent = 2 * (exponent / 2) := by omega
      conv_rhs => rw [hexponent, pow_mul, sq]
      simp only [half, ih, Nat.pow_mod, Nat.mod_mod]

/-- The modulus is made of these primes, and the exponents undo each other. -/
structure PrivateKey.IsMadeOf (k : PrivateKey) (p q : ℕ) : Prop where
  left : p.Prime
  right : q.Prime
  distinct : p ≠ q
  modulus : k.modulus = p * q
  exponents : ∃ turns, k.publicExponent * k.privateExponent = turns * ((p - 1) * (q - 1)) + 1

/-- A number comes back after every full turn through its powers. -/
theorem pow_turns_modEq {p : ℕ} (hp : p.Prime) (turns x : ℕ) :
    x ^ (turns * (p - 1) + 1) ≡ x [MOD p] := by
  by_cases hdvd : p ∣ x
  · have hpow : p ∣ x ^ (turns * (p - 1) + 1) := dvd_pow hdvd (Nat.succ_ne_zero _)
    exact (Nat.modEq_zero_iff_dvd.mpr hpow).trans (Nat.modEq_zero_iff_dvd.mpr hdvd).symm
  · have hcoprime : x.Coprime p := ((hp.coprime_iff_not_dvd).mpr hdvd).symm
    have hturn : x ^ (p - 1) ≡ 1 [MOD p] := by
      rw [← Nat.totient_prime hp]
      exact Nat.ModEq.pow_totient hcoprime
    calc x ^ (turns * (p - 1) + 1)
      _ = (x ^ (p - 1)) ^ turns * x := by rw [pow_succ, mul_comm turns, pow_mul]
      _ ≡ 1 ^ turns * x [MOD p] := (hturn.pow turns).mul_right x
      _ = x := by rw [one_pow, one_mul]

namespace PrivateKey.IsMadeOf
variable {k : PrivateKey} {p q : ℕ}

theorem pow_modEq (h : k.IsMadeOf p q) (x : ℕ) :
    x ^ (k.publicExponent * k.privateExponent) ≡ x [MOD k.modulus] := by
  obtain ⟨turns, hturns⟩ := h.exponents
  have hcoprime : p.Coprime q := (Nat.coprime_primes h.left h.right).mpr h.distinct
  rw [h.modulus, hturns]
  refine (Nat.modEq_and_modEq_iff_modEq_mul hcoprime).mp ⟨?_, ?_⟩
  · rw [mul_comm (p - 1), ← mul_assoc]
    exact pow_turns_modEq h.left _ x
  · rw [← mul_assoc]
    exact pow_turns_modEq h.right _ x

theorem powMod_powMod (h : k.IsMadeOf p q) {x : ℕ} (hx : x < k.modulus) :
    powMod k.modulus (powMod k.modulus x k.privateExponent) k.publicExponent = x := by
  have hback : x ^ (k.publicExponent * k.privateExponent) % k.modulus = x % k.modulus :=
    h.pow_modEq x
  rw [powMod_eq, powMod_eq, ← Nat.pow_mod, ← pow_mul, mul_comm, hback, Nat.mod_eq_of_lt hx]

end PrivateKey.IsMadeOf

/-! ## Blocks -/

section Block
variable {length n : ℕ}

theorem length_bytesOfNat (length n : ℕ) : (bytesOfNat length n).length = length := by
  simp [bytesOfNat]

theorem natOfBytes_bytesOfNat (h : n < 256 ^ length) : natOfBytes (bytesOfNat length n) = n := by
  induction length generalizing n with
  | zero =>
      rw [pow_zero, Nat.lt_one_iff] at h
      rw [h]
      rfl
  | succ length ih =>
      have hhigh : n / 256 < 256 ^ length := Nat.div_lt_of_lt_mul (by rwa [pow_succ'] at h)
      rw [bytesOfNat_succ]
      refine (Der.natOfBytes_append ..).trans ?_
      rw [show Der.natOfBytes (bytesOfNat length (n / 256)) = n / 256 from ih hhigh,
        Nat.toUInt8_eq, UInt8.toNat_ofNat']
      omega

theorem pow_byteLength_le (h : n ≠ 0) : 256 ^ (byteLength n - 1) ≤ n := by
  have hexponent : 8 * (byteLength n - 1) ≤ n.log2 := by
    rw [byteLength, bitLength, if_neg h]
    omega
  calc 256 ^ (byteLength n - 1)
    _ = 2 ^ (8 * (byteLength n - 1)) := (pow_mul 2 8 _).symm
    _ ≤ 2 ^ n.log2 := Nat.pow_le_pow_right (by decide) hexponent
    _ ≤ n := Nat.log2_self_le h

/-- With room for the digest, the block is as long as the modulus. -/
theorem length_encodeDigest (h : 54 ≤ length) (message : List UInt8) :
    (encodeDigest length message).length = length := by
  simp only [encodeDigest, digestHeader, List.length_cons, List.length_append, List.length_nil,
    List.length_replicate, Sha256.length_hash]
  omega

/-- The block begins with zero, so its number is below the modulus. -/
theorem natOfBytes_encodeDigest_lt (h : 54 ≤ byteLength n) (message : List UInt8) :
    natOfBytes (encodeDigest (byteLength n) message) < n := by
  have hpos : n ≠ 0 := by
    rintro rfl
    exact absurd h (by decide)
  obtain ⟨rest, hrest⟩ : ∃ rest, encodeDigest (byteLength n) message = 0 :: rest := ⟨_, rfl⟩
  have hlength := length_encodeDigest h message
  rw [hrest, List.length_cons] at hlength
  have hvalue : natOfBytes (0 :: rest) = Der.natOfBytes rest := by
    refine (Der.natOfBytes_cons 0 rest).trans ?_
    rw [UInt8.toNat_zero, zero_mul, zero_add]
  rw [hrest, hvalue]
  refine (Der.natOfBytes_lt rest).trans_le ?_
  rw [show rest.length = byteLength n - 1 by omega]
  exact pow_byteLength_le hpos

end Block

/-! ## Signatures -/

section Signature
variable {der modulus exponent message signature : List UInt8} {k : PrivateKey} {p q : ℕ}

theorem signingKey_of_loadPem? {pem : String} (h : loadPem? pem = some der) :
    signingKey pem = .ok der := by
  rw [signingKey, h]

theorem byteLength_of_forSigning? (h : PrivateKey.forSigning? der = some k) :
    256 ≤ byteLength k.modulus := by
  unfold PrivateKey.forSigning? at h
  split at h
  · simp only [Option.bind_eq_bind, Option.bind_eq_some_iff, Option.ite_none_right_eq_some] at h
    obtain ⟨-, -, n, -, e, -, d, -, -, -, -, -, -, -, -, -, -, -, ⟨-, hbits, -⟩, h⟩ := h
    cases h
    change 256 ≤ (bitLength n + 7) / 8
    omega
  · cases h

/-- The number of the block that is signed. -/
def PrivateKey.block (k : PrivateKey) (message : List UInt8) : ℕ :=
  natOfBytes (encodeDigest (byteLength k.modulus) message)

/-- The number of the signature. -/
def PrivateKey.power (k : PrivateKey) (message : List UInt8) : ℕ :=
  powMod k.modulus (k.block message) k.privateExponent

/-- A signature is given out if its power brings the block back. -/
theorem sign_eq_some_iff (h : PrivateKey.forSigning? der = some k) :
    sign der message = some signature ↔
      powMod k.modulus (k.power message) k.publicExponent = k.block message ∧
        bytesOfNat (byteLength k.modulus) (k.power message) = signature := by
  simp only [sign, h, Option.bind_eq_bind, Option.bind_some, Option.ite_none_right_eq_some,
    Option.some.injEq, PrivateKey.power, PrivateKey.block]

/-- With a key of two primes, everything can be signed. -/
theorem exists_signature (h : PrivateKey.forSigning? der = some k) (hprimes : k.IsMadeOf p q)
    (message : List UInt8) : ∃ signature, sign der message = some signature := by
  have hlength := byteLength_of_forSigning? h
  have hblock : k.block message < k.modulus := natOfBytes_encodeDigest_lt (by omega) message
  exact ⟨_, (sign_eq_some_iff h).mpr ⟨hprimes.powMod_powMod hblock, rfl⟩⟩

theorem length_of_sign (h : PrivateKey.forSigning? der = some k)
    (hsign : sign der message = some signature) : signature.length = byteLength k.modulus := by
  obtain ⟨-, rfl⟩ := (sign_eq_some_iff h).mp hsign
  exact length_bytesOfNat ..

/-- Whatever is signed is accepted by the public half of the key. -/
theorem check_of_sign (h : PrivateKey.forSigning? der = some k)
    (hpublic : PublicKey.forChecking? modulus exponent = some ⟨k.modulus, k.publicExponent⟩)
    (hsign : sign der message = some signature) :
    check modulus exponent message signature = true := by
  have hlong := byteLength_of_forSigning? h
  have hlength := length_of_sign h hsign
  obtain ⟨hback, rfl⟩ := (sign_eq_some_iff h).mp hsign
  have hpos : 0 < k.modulus := by
    rw [Nat.pos_iff_ne_zero]
    intro hzero
    rw [hzero] at hlong
    exact absurd hlong (by decide)
  have hbelow : k.power message < k.modulus := by
    rw [PrivateKey.power, powMod_eq]
    exact Nat.mod_lt _ hpos
  have hvalue := natOfBytes_bytesOfNat (hbelow.trans (lt_pow_byteLength k.modulus))
  have hblock : bytesOfNat (byteLength k.modulus) (k.block message) =
      encodeDigest (byteLength k.modulus) message := by
    have hbytes := bytesOfNat_natOfBytes (encodeDigest (byteLength k.modulus) message)
    rwa [length_encodeDigest (by omega)] at hbytes
  simp only [check, hpublic, hlength, hvalue, hback, hblock, beq_self_eq_true, hbelow, decide_true,
    Bool.and_true]

/-- The public half of a key of two primes accepts a signature of everything. -/
theorem signs_and_checks (h : PrivateKey.forSigning? der = some k) (hprimes : k.IsMadeOf p q)
    (hpublic : PublicKey.forChecking? modulus exponent = some ⟨k.modulus, k.publicExponent⟩)
    (message : List UInt8) :
    ∃ signature, scheme.sign der message = some signature ∧
      scheme.check modulus exponent message signature = true := by
  obtain ⟨signature, hsign⟩ := exists_signature h hprimes message
  exact ⟨signature, hsign, check_of_sign h hpublic hsign⟩

end Signature

/-! ## Primes that are easily told -/

/-- Lucas's test, where the number before is a power of two times a prime. -/
theorem prime_of_powMod {n k bits : ℕ} (base : ℕ) (hk : k.Prime) (hn : n = k * 2 ^ bits + 1)
    (hfull : powMod n base (n - 1) = 1) (htwo : powMod n base ((n - 1) / 2) ≠ 1)
    (hrest : powMod n base ((n - 1) / k) ≠ 1) : n.Prime := by
  have hpow {exponent : ℕ} : (base : ZMod n) ^ exponent = 1 ↔ powMod n base exponent = 1 := by
    have hone : 1 < n := by
      have := Nat.mul_pos hk.pos (Nat.two_pow_pos bits)
      omega
    rw [powMod_eq, ← Nat.cast_pow, ← Nat.cast_one, ZMod.natCast_eq_natCast_iff',
      Nat.mod_eq_of_lt hone]
  refine lucas_primality n base (hpow.mpr hfull) fun q hq hdvd => ?_
  rw [Ne, hpow]
  rw [hn, Nat.add_sub_cancel] at hdvd
  rcases (Nat.Prime.dvd_mul hq).mp hdvd with hdvd | hdvd
  · rwa [(Nat.prime_dvd_prime_iff_eq hq hk).mp hdvd]
  · rwa [(Nat.prime_dvd_prime_iff_eq hq Nat.prime_two).mp (hq.dvd_of_dvd_pow hdvd)]

end Rsa

end Crowdlending.Crypto
