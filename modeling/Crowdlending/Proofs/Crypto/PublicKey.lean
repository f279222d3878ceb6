import Mathlib.Data.List.Induction
import Mathlib.Tactic.Positivity
import Mathlib.Tactic.Ring
import Crowdlending.Crypto.Rsa

/-!
# The numbers of a public key and their bytes

A number of a key stands in the key's file as bytes, highest first and none of them superfluous,
with a zero byte before a first byte that would make the number negative. Without that zero byte,
these are the shortest bytes of the number: what is published of a key are the bytes of its file.
-/
namespace Crowdlending.Crypto

namespace Der

theorem natOfBytes_append (bs : List UInt8) (b : UInt8) :
    natOfBytes (bs ++ [b]) = natOfBytes bs * 256 + b.toNat := by
  simp [natOfBytes, List.foldl_append]

theorem natOfBytes_lt (bs : List UInt8) : natOfBytes bs < 256 ^ bs.length := by
  induction bs using List.reverseRecOn with
  | nil => decide
  | append_singleton bs b ih =>
      have hb : b.toNat < 256 := b.toNat_lt
      rw [natOfBytes_append, List.length_append, List.length_singleton, pow_succ]
      omega

theorem natOfBytes_cons (b : UInt8) (bs : List UInt8) :
    natOfBytes (b :: bs) = b.toNat * 256 ^ bs.length + natOfBytes bs := by
  induction bs using List.reverseRecOn with
  | nil => simp [natOfBytes]
  | append_singleton bs c ih =>
      rw [← List.cons_append, natOfBytes_append, natOfBytes_append, ih, List.length_append,
        List.length_singleton, pow_succ]
      ring

/-- The value is an integer with these bytes, none of them superfluous, after a zero byte if the
first one would make it negative. -/
def HasBytes (d : Der) (bytes : List UInt8) : Prop :=
  bytes.head? ≠ some 0 ∧ d = .integer (if bytes.head?.all (· < 0x80) then bytes else 0 :: bytes)

/-- A positive number has bytes of its own. -/
theorem hasBytes_of_toNat? {d : Der} {n : ℕ} (h : d.toNat? = some n) (hn : n ≠ 0) :
    ∃ bytes, d.HasBytes bytes ∧ n = natOfBytes bytes := by
  unfold toNat? at h
  split at h
  · cases h
  · next b =>
      split at h
      · next hb =>
          cases h
          refine ⟨[b], ⟨?_, by simp [hb]⟩, by simp [natOfBytes]⟩
          rintro ⟨⟩
          exact hn rfl
      · cases h
  · next b r =>
      split at h
      · cases h
      · next hb =>
          cases h
          refine ⟨b :: r, ⟨?_, by simp [hb]⟩, rfl⟩
          rintro ⟨⟩
          exact hb (by decide)
  · next b r hsingle hzero =>
      split at h
      · next hb =>
          cases h
          refine ⟨b :: r, ⟨?_, by simp [hb]⟩, rfl⟩
          rintro ⟨⟩
          cases r with
          | nil => exact hsingle rfl
          | cons c r => exact hzero c r rfl rfl
      · cases h
  · cases h

end Der

namespace Rsa

/-- The last byte is the remainder, and the bytes before it are those of the quotient. -/
theorem bytesOfNat_succ (length n : ℕ) :
    bytesOfNat (length + 1) n = bytesOfNat length (n / 256) ++ [n.toUInt8] := by
  rw [bytesOfNat, bytesOfNat, List.range_succ, List.map_append, List.map_singleton]
  congr 1
  · refine List.map_congr_left fun i hi => ?_
    rw [List.mem_range] at hi
    have hshift : 8 * (length + 1 - 1 - i) = 8 + 8 * (length - 1 - i) := by omega
    rw [hshift, Nat.shiftRight_add, Nat.shiftRight_eq_div_pow n 8]
  · have hlast : 8 * (length + 1 - 1 - length) = 0 := by omega
    rw [hlast, Nat.shiftRight_zero]

theorem bytesOfNat_natOfBytes (bs : List UInt8) : bytesOfNat bs.length (natOfBytes bs) = bs := by
  induction bs using List.reverseRecOn with
  | nil => rfl
  | append_singleton bs b ih =>
      have hb : b.toNat < 256 := b.toNat_lt
      have hvalue : natOfBytes (bs ++ [b]) = natOfBytes bs * 256 + b.toNat :=
        Der.natOfBytes_append bs b
      have hhigh : (natOfBytes bs * 256 + b.toNat) / 256 = natOfBytes bs := by omega
      have hlow : (natOfBytes bs * 256 + b.toNat).toUInt8 = b := by
        apply UInt8.toNat_inj.mp
        simp only [Nat.toUInt8_eq, UInt8.toNat_ofNat']
        omega
      rw [hvalue, List.length_append, List.length_singleton, bytesOfNat_succ, hhigh, hlow, ih]

theorem lt_pow_byteLength (n : ℕ) : n < 256 ^ byteLength n := by
  have hexponent : bitLength n ≤ 8 * byteLength n := by unfold byteLength; omega
  have hbits : n < 2 ^ bitLength n := by
    unfold bitLength
    split
    · next hzero => rw [hzero]; decide
    · exact Nat.lt_log2_self
  calc n
    _ < 2 ^ bitLength n := hbits
    _ ≤ 2 ^ (8 * byteLength n) := Nat.pow_le_pow_right (by decide) hexponent
    _ = 256 ^ byteLength n := pow_mul 2 8 _

/-- Without a zero in front, the number needs all the bytes. -/
theorem byteLength_natOfBytes {bs : List UInt8} (h : bs.head? ≠ some 0) :
    byteLength (natOfBytes bs) = bs.length := by
  cases bs with
  | nil => rfl
  | cons b bs =>
      have hb : 0 < b.toNat := by
        rw [Nat.pos_iff_ne_zero]
        intro hzero
        exact h (congrArg some (UInt8.toNat_inj.mp hzero))
      have hvalue : natOfBytes (b :: bs) = b.toNat * 256 ^ bs.length + natOfBytes bs :=
        Der.natOfBytes_cons b bs
      have hlow : 2 ^ (8 * bs.length) ≤ natOfBytes (b :: bs) := by
        rw [pow_mul, hvalue]
        exact (Nat.le_mul_of_pos_left _ hb).trans (Nat.le_add_right _ _)
      have hhigh : natOfBytes (b :: bs) < 2 ^ (8 * (bs.length + 1)) := by
        rw [pow_mul]
        exact Der.natOfBytes_lt (b :: bs)
      have hpos : natOfBytes (b :: bs) ≠ 0 := (Nat.lt_of_lt_of_le (by positivity) hlow).ne'
      have hle : 8 * bs.length ≤ (natOfBytes (b :: bs)).log2 := (Nat.le_log2 hpos).mpr hlow
      have hlt : (natOfBytes (b :: bs)).log2 < 8 * (bs.length + 1) := (Nat.log2_lt hpos).mpr hhigh
      rw [byteLength, bitLength, if_neg hpos, List.length_cons]
      omega

theorem bytes_natOfBytes {bs : List UInt8} (h : bs.head? ≠ some 0) :
    bytes (natOfBytes bs) = bs := by
  rw [bytes, byteLength_natOfBytes h, bytesOfNat_natOfBytes]

/-- The file of a public key, bare or with the name of its algorithm around it, in which modulus and
exponent stand as these bytes. -/
def IsPublicKeyFile (text : String) (modulus exponent : List UInt8) : Prop :=
  ∃ block der n e, Pem.readStrict text = some block ∧ Der.read? block.bytes = some der ∧
    n.HasBytes modulus ∧ e.HasBytes exponent ∧
    (block.label = "RSA PUBLIC KEY" ∧ der = .sequence [n, e] ∨
      block.label = "PUBLIC KEY" ∧ ∃ inner,
        der = .sequence [.sequence [.objectId Der.rsaId, .null], .bitString inner] ∧
          Der.read? inner = some (.sequence [n, e]))

theorem hasBytes_of_ofSequence? {d : Der} {k : PublicKey} (h : ofSequence? d = some k) :
    ∃ n e, d = .sequence [n, e] ∧ n.HasBytes (bytes k.modulus) ∧ e.HasBytes (bytes k.exponent) := by
  unfold ofSequence? at h
  split at h
  · next n e =>
      obtain ⟨modulus, hmodulus, h⟩ := Option.bind_eq_some_iff.mp h
      obtain ⟨exponent, hexponent, h⟩ := Option.bind_eq_some_iff.mp h
      unfold ofNumbers? at h
      split at h
      · next hbounds =>
          cases h
          obtain ⟨-, hless, -, -, htwo, -⟩ := hbounds
          obtain ⟨ms, hms, rfl⟩ := Der.hasBytes_of_toNat? hmodulus (by omega)
          obtain ⟨es, hes, rfl⟩ := Der.hasBytes_of_toNat? hexponent (by omega)
          refine ⟨n, e, rfl, ?_, ?_⟩
          · exact (bytes_natOfBytes hms.1).symm ▸ hms
          · exact (bytes_natOfBytes hes.1).symm ▸ hes
      · cases h
  · cases h

/-- The shortest bytes of the numbers of a public key are those that stand in its file. -/
theorem isPublicKeyFile_of_ofPem? {text : String} {k : PublicKey}
    (h : PublicKey.ofPem? text = some k) :
    IsPublicKeyFile text (bytes k.modulus) (bytes k.exponent) := by
  obtain ⟨block, hblock, h⟩ := Option.bind_eq_some_iff.mp h
  obtain ⟨der, hder, h⟩ := Option.bind_eq_some_iff.mp h
  split at h
  · next hlabel =>
      obtain ⟨n, e, hsequence, hn, he⟩ := hasBytes_of_ofSequence? h
      exact ⟨block, der, n, e, hblock, hder, hn, he, .inl ⟨hlabel, hsequence⟩⟩
  · split at h
    · next hlabel =>
        split at h
        · next id inner =>
            split at h
            · next hid =>
                obtain ⟨d, hd, h⟩ := Option.bind_eq_some_iff.mp h
                obtain ⟨n, e, rfl, hn, he⟩ := hasBytes_of_ofSequence? h
                exact ⟨block, _, n, e, hblock, hder, hn, he,
                  .inr ⟨hlabel, inner, by rw [hid], hd⟩⟩
            · cases h
        · cases h
    · cases h

end Rsa

end Crowdlending.Crypto
