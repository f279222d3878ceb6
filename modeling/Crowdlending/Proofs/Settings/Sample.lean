import Mathlib.Tactic.NormNum.Prime
import Crowdlending.Proofs.Crypto.Signature
import Crowdlending.Settings.Sample

/-!
# Sample keys

What stands in the files of the sample keys. The factors of the third key are primes that are easily
told, so it is a key with which everything can be signed.
-/
namespace Crowdlending.Settings.Sample
open Crypto

/-! ## The third key -/

def thirdLeft : ℕ := 13098157 * 2 ^ 1000 + 1
def thirdRight : ℕ := 12087433 * 2 ^ 1000 + 1

/-- The numbers of the third key. -/
def thirdPair : Rsa.PrivateKey where
  modulus := thirdLeft * thirdRight
  publicExponent := 65537
  privateExponent := (53037 * ((thirdLeft - 1) * (thirdRight - 1)) + 1) / 65537

theorem prime_thirdLeft : thirdLeft.Prime :=
  Rsa.prime_of_powMod 3 (by norm_num : Nat.Prime 13098157) rfl (by decide +kernel)
    (by decide +kernel) (by decide +kernel)

theorem prime_thirdRight : thirdRight.Prime :=
  Rsa.prime_of_powMod 3 (by norm_num : Nat.Prime 12087433) rfl (by decide +kernel)
    (by decide +kernel) (by decide +kernel)

theorem isMadeOf_thirdPair : thirdPair.IsMadeOf thirdLeft thirdRight where
  left := prime_thirdLeft
  right := prime_thirdRight
  distinct := by decide +kernel
  modulus := rfl
  exponents := ⟨53037, by decide +kernel⟩

/-- The private half of the third key in DER. -/
def thirdDer : List UInt8 := (Rsa.loadPem? thirdPrivate).getD []

set_option maxRecDepth 20000 in
theorem read_thirdPrivate : Rsa.loadPem? thirdPrivate = some thirdDer ∧
    Rsa.PrivateKey.forSigning? thirdDer = some thirdPair := by
  have hchars : thirdPrivate.toList = _ := String.toList_ofList
  have hread : (Rsa.loadPem? thirdPrivate).bind Rsa.PrivateKey.forSigning? = some thirdPair := by
    rw [Rsa.loadPem?, Pem.readLoose, hchars]
    decide +kernel
  obtain ⟨der, hder, hpair⟩ := Option.bind_eq_some_iff.mp hread
  rw [thirdDer, hder]
  exact ⟨rfl, hpair⟩

theorem signingKey_third : Rsa.signingKey thirdPrivate = .ok thirdDer :=
  Rsa.signingKey_of_loadPem? read_thirdPrivate.1

set_option maxRecDepth 20000 in
theorem ofPem?_thirdPublic :
    Rsa.PublicKey.ofPem? thirdPublic = some ⟨thirdPair.modulus, thirdPair.publicExponent⟩ := by
  have hchars : thirdPublic.toList = _ := String.toList_ofList
  rw [Rsa.PublicKey.ofPem?, Pem.readStrict, hchars]
  decide +kernel

/-- The public half of the third key accepts a signature of everything. -/
theorem signs_and_checks_third (message : List UInt8) :
    ∃ signature, Rsa.scheme.sign thirdDer message = some signature ∧
      Rsa.scheme.check (Rsa.bytes thirdPair.modulus) (Rsa.bytes thirdPair.publicExponent) message
        signature = true :=
  Rsa.signs_and_checks read_thirdPrivate.2 isMadeOf_thirdPair (by decide +kernel) message

/-! ## The other keys -/

set_option maxRecDepth 20000 in
theorem isSome_firstPublic : (Rsa.PublicKey.ofPem? firstPublic).isSome = true := by
  have hchars : firstPublic.toList = _ := String.toList_ofList
  rw [Rsa.PublicKey.ofPem?, Pem.readStrict, hchars]
  decide +kernel

set_option maxRecDepth 20000 in
theorem isSome_secondPublic : (Rsa.PublicKey.ofPem? secondPublic).isSome = true := by
  have hchars : secondPublic.toList = _ := String.toList_ofList
  rw [Rsa.PublicKey.ofPem?, Pem.readStrict, hchars]
  decide +kernel

set_option maxRecDepth 20000 in
/-- A key that is too short can be read like any other, and is told from a strong one. -/
example : ((Rsa.components weakPublic).toOption.map Rsa.Components.isWeak) = some true := by
  have hchars : weakPublic.toList = _ := String.toList_ofList
  rw [Rsa.components, Rsa.PublicKey.ofPem?, Pem.readStrict, hchars]
  decide +kernel

-- Nothing more is to be known of the files, and what is known is not to be computed again.
attribute [irreducible] thirdDer thirdPair

end Crowdlending.Settings.Sample
