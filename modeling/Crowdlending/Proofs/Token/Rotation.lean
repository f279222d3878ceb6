import Crowdlending.Proofs.Platform.Credential

/-!
# Tokens while keys change

Keys are found by their kid alone. So a token verifies with every key set in which its kid still
stands for the key that was signed with, whatever other keys are there and in whatever order; the
settings may put another key first, and add keys or take others away. As the other kind of token it
is refused all the while. That the numbers of a public key accept what its private half signs is
assumed of a scheme of signatures here; of RSA it is proved, for keys that are made of two primes.
-/
namespace Crowdlending.Token
open Json Codec Crypto Settings

/-! ## Key pairs -/

/-- The private key can sign every message, and its signature is accepted by these numbers. -/
def Fits (scheme : SignatureScheme) (key modulus exponent : List UInt8) : Prop :=
  ∀ message, ∃ signature, scheme.sign key message = some signature ∧
    scheme.check modulus exponent message signature = true

/-- The public half of a private key, published for the algorithm in use. -/
structure PublicKey.Matches (scheme : SignatureScheme) (key : List UInt8) (k : PublicKey) :
    Prop where
  keyType : k.keyType = "RSA"
  keyAlgorithm : k.algorithm = "RS256"
  fits : ∃ modulus exponent,
    Rsa.decodeComponents k.modulus k.exponent = .ok (modulus, exponent) ∧
      Fits scheme key modulus exponent

/-- Both halves of a key in the settings can be read, and they belong together. -/
def IsPaired (scheme : SignatureScheme) (k : SigningKey) : Prop :=
  ∃ key numbers, Rsa.signingKey k.privatePem = .ok key ∧
    Rsa.PublicKey.ofPem? k.publicPem = some numbers ∧
    Fits scheme key (Rsa.bytes numbers.modulus) (Rsa.bytes numbers.exponent)

section Pair
variable {scheme : SignatureScheme} {i : Issuer} {key : PublicKey} {k : SigningKey}

theorem PublicKey.Matches.signsFor (h : key.Matches scheme i.key) : i.SignsFor scheme key := by
  obtain ⟨modulus, exponent, hcomponents, hfits⟩ := h.fits
  refine ⟨h.keyType, h.keyAlgorithm, modulus, exponent, hcomponents,
    fun message signature hsign => ?_⟩
  obtain ⟨signature', hsign', hcheck⟩ := hfits message
  obtain rfl : signature = signature' := Option.some.inj (hsign.symm.trans hsign')
  exact hcheck

/-- With a private key that has a public half, every token can be signed. -/
theorem PublicKey.Matches.exists_token (h : key.Matches scheme i.key) (c : Claims) :
    ∃ token, i.sign scheme c = .ok token := by
  obtain ⟨modulus, exponent, -, hfits⟩ := h.fits
  obtain ⟨signature, hsign, -⟩ := hfits (Text.utf8 (i.signingInput c))
  exact ⟨_, Issuer.sign_of_signature hsign⟩

theorem Issuer.ofSettings_of_signingKey {t : TokenSettings} {others : List SigningKey}
    {key : List UInt8} (hkeys : t.keys = k :: others)
    (hkey : Rsa.signingKey k.privatePem = .ok key) :
    Issuer.ofSettings t = .ok ⟨k.kid, key, ⟨t.accessIssuer, t.refreshIssuer⟩, t.accessTtl,
      t.refreshTtl, t.extendedTtl⟩ := by
  simp only [Issuer.ofSettings, hkeys, hkey, bind, Except.bind]
  rfl

/-- The first key of the settings signs. -/
theorem Issuer.ofSettings_eq_ok {t : TokenSettings} {others : List SigningKey}
    (hkeys : t.keys = k :: others) (h : Issuer.ofSettings t = .ok i) :
    i.kid = k.kid ∧ Rsa.signingKey k.privatePem = .ok i.key ∧
      i.issuers = ⟨t.accessIssuer, t.refreshIssuer⟩ ∧ i.accessTtl = t.accessTtl ∧
      i.refreshTtl = t.refreshTtl ∧ i.extendedTtl = t.extendedTtl := by
  simp only [Issuer.ofSettings, hkeys] at h
  obtain ⟨key, hkey, h⟩ := Result.bind_eq_ok.mp h
  cases h
  exact ⟨rfl, hkey, rfl, rfl, rfl, rfl⟩

end Pair

/-! ## Key sets -/

/-- The published form of a key of the settings. -/
def publishedKey (k : SigningKey) (c : Rsa.Components) : PublicKey :=
  ⟨"RSA", k.kid, "sig", algorithm, c.modulus, c.exponent⟩

namespace KeySet
variable {keys : List SigningKey} {s : KeySet} {k : SigningKey}

theorem find?_eq_some_iff {kid : String} {key : PublicKey} :
    s.find? kid = some key ↔ s.find kid = .ok key := by
  unfold find
  cases s.find? kid <;> simp

theorem ofKeys_cons_eq_ok (h : ofKeys (k :: keys) = .ok s) :
    ∃ c rest, Rsa.components k.publicPem = .ok c ∧ ofKeys keys = .ok rest ∧
      s = ⟨publishedKey k c :: rest.keys⟩ := by
  obtain ⟨c, hc, h⟩ := Result.bind_eq_ok.mp h
  obtain ⟨rest, hrest, h⟩ := Result.bind_eq_ok.mp h
  cases h
  exact ⟨c, rest, hc, hrest, rfl⟩

theorem ofKeys_cons {numbers : Rsa.PublicKey}
    (hnumbers : Rsa.PublicKey.ofPem? k.publicPem = some numbers) (h : ofKeys keys = .ok s) :
    ofKeys (k :: keys) = .ok ⟨publishedKey k ⟨Rsa.encodeComponent (Rsa.bytes numbers.modulus),
      Rsa.encodeComponent (Rsa.bytes numbers.exponent), Rsa.bitLength numbers.modulus⟩
      :: s.keys⟩ := by
  simp only [ofKeys, Rsa.components, hnumbers, h, bind, Except.bind]
  rfl

theorem kids_ofKeys (h : ofKeys keys = .ok s) :
    s.keys.map PublicKey.kid = keys.map SigningKey.kid := by
  induction keys generalizing s with
  | nil => cases h; rfl
  | cons k keys ih =>
      obtain ⟨c, rest, -, hrest, rfl⟩ := ofKeys_cons_eq_ok h
      rw [List.map_cons, List.map_cons, ih hrest]
      rfl

theorem mem_ofKeys (h : ofKeys keys = .ok s) (hk : k ∈ keys) :
    ∃ c, Rsa.components k.publicPem = .ok c ∧ publishedKey k c ∈ s.keys := by
  induction keys generalizing s with
  | nil => cases hk
  | cons k' keys ih =>
      obtain ⟨c, rest, hc, hrest, rfl⟩ := ofKeys_cons_eq_ok h
      rcases List.mem_cons.mp hk with rfl | hk
      · exact ⟨c, hc, List.mem_cons_self ..⟩
      · obtain ⟨c', hc', hmem⟩ := ih hrest hk
        exact ⟨c', hc', List.mem_cons_of_mem _ hmem⟩

/-- Where no two keys have the same kid, each key is found by its own. -/
theorem find?_of_mem {key : PublicKey} (hkids : (s.keys.map PublicKey.kid).Nodup)
    (hkey : key ∈ s.keys) : s.find? key.kid = some key := by
  cases hfind : s.find? key.kid with
  | none =>
      have hnone := List.find?_eq_none.mp hfind key (List.mem_reverse.mpr hkey)
      exact absurd (beq_self_eq_true key.kid) hnone
  | some found =>
      obtain ⟨hkid, hmem⟩ := kid_of_find? hfind
      rw [List.inj_on_of_nodup_map hkids hmem hkey hkid]

end KeySet

/-- Among the keys of the settings, each is published under its own kid. -/
theorem matches_of_ofKeys {scheme : SignatureScheme} {keys : List SigningKey} {s : KeySet}
    {k : SigningKey} (h : KeySet.ofKeys keys = .ok s) (hk : k ∈ keys)
    (hkids : (keys.map SigningKey.kid).Nodup) (hpaired : IsPaired scheme k) {key : List UInt8}
    (hkey : Rsa.signingKey k.privatePem = .ok key) :
    ∃ found : PublicKey, s.find? k.kid = some found ∧ found.Matches scheme key := by
  obtain ⟨c, hc, hmem⟩ := KeySet.mem_ofKeys h hk
  obtain ⟨key', numbers, hkey', hnumbers, hfits⟩ := hpaired
  obtain rfl : key = key' := Except.ok.inj (hkey.symm.trans hkey')
  rw [← KeySet.kids_ofKeys h] at hkids
  refine ⟨_, KeySet.find?_of_mem hkids hmem, rfl, rfl, _, _, ?_, hfits⟩
  rw [Rsa.components, hnumbers] at hc
  cases hc
  exact decodeComponents_encode _ _

/-! ## Rotation -/

/-- With these keys the token verifies as what it is, with its claims, and is an invalid token as
anything else. -/
def VerifiesAs (scheme : SignatureScheme) (s : KeySet) (issuers : Issuers) (now : Int) (c : Claims)
    (token : String) : Prop :=
  verify scheme s.find issuers now c.kind token = .ok c ∧
    ∀ other, other ≠ c.kind →
      ∃ fault, verify scheme s.find issuers now other token = .error (.token fault)

theorem verifiesAs_of_found {scheme : SignatureScheme} {i : Issuer} {c : Claims} {token : String}
    (h : i.sign scheme c = .ok token) (hkid : i.kid ≠ "")
    (hsize : token.utf8ByteSize ≤ mostTokenBytes) {s : KeySet} {key : PublicKey}
    (hfind : s.find? i.kid = some key) (hkey : i.SignsFor scheme key) (hid : IsInt64 c.userId)
    (hexpiry : IsInt64 c.expiry) {issuers : Issuers} {now : Int} (hnonneg : 0 ≤ c.expiry)
    (hnow : Counts now c.expiry) (hissuer : c.issuer = issuers.of c.kind) :
    VerifiesAs scheme s issuers now c token := by
  rw [KeySet.find?_eq_some_iff] at hfind
  refine ⟨verify_of_sign h hkid hsize hfind hkey hid hexpiry hnonneg hnow hissuer,
    fun other hother => ?_⟩
  rw [verify_eq_judge h hkid hsize hfind hkey, judge_toDoc hid hexpiry hnonneg hnow]
  by_cases hnamed : c.issuer = issuers.of other
  · rw [if_neg (not_not.mpr hnamed), if_pos hother.symm]
    exact ⟨_, rfl⟩
  · rw [if_pos hnamed]
    exact ⟨_, rfl⟩

/-- Whatever claims are signed, with whatever texts in them: the token, unless it is too large,
names its key and the algorithm, and verifies as what it is alone, with every key set in which its
kid stands for a matching key; so with the set of any later keys among which is the one that
signed. -/
theorem verify_of_rotation {scheme : SignatureScheme} {t : TokenSettings} {k : SigningKey}
    {others : List SigningKey} (hkeys : t.keys = k :: others) (hkid : k.kid ≠ "") {i : Issuer}
    (hissuer : Issuer.ofSettings t = .ok i) {key : PublicKey} (hkey : key.Matches scheme i.key)
    {c : Claims} (hid : IsInt64 c.userId) (hexpiry : IsInt64 c.expiry)
    (hnamed : c.issuer = i.issuers.of c.kind) {now : ℕ} (hpast : 60 ≤ now) (hnow : now < c.expiry) :
    ∃ token, i.sign scheme c = .ok token ∧ (token.utf8ByteSize ≤ 8192 →
      Header.peek token = .ok ⟨k.kid, "RS256"⟩ ∧
      (∀ s : KeySet, s.find? k.kid = some key → VerifiesAs scheme s i.issuers now c token) ∧
      ∀ (later : List SigningKey) (s : KeySet), KeySet.ofKeys later = .ok s → k ∈ later →
        (later.map SigningKey.kid).Nodup → IsPaired scheme k →
          VerifiesAs scheme s i.issuers now c token) := by
  obtain ⟨token, hsign⟩ := hkey.exists_token c
  obtain ⟨hsame, hprivate, -⟩ := Issuer.ofSettings_eq_ok hkeys hissuer
  rw [← hsame] at hkid ⊢
  have hcounts : Counts now c.expiry := by unfold Counts leeway; omega
  refine ⟨token, hsign, fun hsize => ⟨peek_of_sign hsign hkid hsize, fun s hfind => ?_,
    fun later s hlater hmem hkids hpaired => ?_⟩⟩
  · exact verifiesAs_of_found hsign hkid hsize hfind hkey.signsFor hid hexpiry (by omega) hcounts
      hnamed
  · obtain ⟨found, hfind, hmatches⟩ := matches_of_ofKeys hlater hmem hkids hpaired hprivate
    rw [← hsame] at hfind
    exact verifiesAs_of_found hsign hkid hsize hfind hmatches.signsFor hid hexpiry (by omega)
      hcounts hnamed

/-! ## Behind another key -/

section Sealed
open Platform Settings.Sample

theorem matches_sealedKey : sealedKey.Matches Rsa.scheme sealedIssuer.key :=
  ⟨rfl, rfl, _, _, decodeComponents_encode _ _, signs_and_checks_third⟩

theorem isPaired_thirdKey : IsPaired Rsa.scheme thirdKey :=
  ⟨_, _, signingKey_third, ofPem?_thirdPublic, signs_and_checks_third⟩

/-- Where the third key comes first, it signs. -/
theorem ofSettings_third (others : List SigningKey) :
    Issuer.ofSettings (Sample.tokens (thirdKey :: others)) = .ok sealedIssuer := by
  have hkey : Rsa.signingKey thirdKey.privatePem = .ok thirdDer := signingKey_third
  have hkeys : (Sample.tokens (thirdKey :: others)).keys = thirdKey :: others := rfl
  exact Issuer.ofSettings_of_signingKey hkeys hkey

theorem ofKeys_third {keys : List SigningKey} {s : KeySet} (h : KeySet.ofKeys keys = .ok s) :
    KeySet.ofKeys (thirdKey :: keys) = .ok ⟨sealedKey :: s.keys⟩ := by
  have hnumbers : Rsa.PublicKey.ofPem? thirdKey.publicPem =
      some ⟨thirdPair.modulus, thirdPair.publicExponent⟩ := ofPem?_thirdPublic
  exact KeySet.ofKeys_cons (k := thirdKey) hnumbers h

/-- What the third key signed is verified after the first one was put before it. -/
theorem verify_of_second_place :
    ∃ token s, sealedIssuer.sign Rsa.scheme (sampleUser 1 .borrower) = .ok token ∧
      KeySet.ofKeys (Sample.tokens [firstKey, thirdKey]).keys = .ok s ∧
      VerifiesAs Rsa.scheme s sampleIssuers 1700000001 (sampleUser 1 .borrower) token := by
  have hid : IsInt64 (sampleUser 1 .borrower).userId := by unfold IsInt64; decide
  have hexpiry : IsInt64 (sampleUser 1 .borrower).expiry := by unfold IsInt64; decide
  have hnow : ((1700000001 : ℕ) : Int) < (sampleUser 1 .borrower).expiry := by decide
  have hclaims : (sampleUser 1 .borrower).toDoc.print.utf8ByteSize ≤ 400 := by decide +kernel
  obtain ⟨numbers, hnumbers⟩ := Option.isSome_iff_exists.mp isSome_firstPublic
  have hnone : KeySet.ofKeys [] = .ok ⟨[]⟩ := rfl
  have hs := KeySet.ofKeys_cons (k := firstKey) hnumbers (ofKeys_third hnone)
  obtain ⟨token, hsign, hkept⟩ := verify_of_rotation (t := Sample.tokens [thirdKey]) rfl (by decide)
    (ofSettings_third []) matches_sealedKey hid hexpiry rfl (by decide) hnow
  obtain rfl : token = sealedText (sampleUser 1 .borrower) :=
    Except.ok.inj (hsign.symm.trans (sign_sealedText _))
  exact ⟨_, _, hsign, hs, (hkept (utf8ByteSize_sealedText_le hclaims)).2.2 _ _ hs (by simp)
    (by decide) isPaired_thirdKey⟩

end Sealed

end Crowdlending.Token
