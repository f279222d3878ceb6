import Crowdlending.Proofs.Crypto.PublicKey
import Crowdlending.Proofs.Token.Rotation
import Crowdlending.Token.KeyCache

/-!
# Published keys

A key set can be looked into where it was made, or it can be written out, served by an endpoint,
read again and kept for a while. Both ways find the same key for each kid: the last one in the
document. In the set that is published for the keys of the settings, this is the configured key
itself, with the bytes of its file. Times are numbers without a bound.
-/
namespace Crowdlending.Token
open Json Text Crypto Settings

/-! ## Written out and read again -/

theorem eachOf_map {α : Type} {read : Doc → Except Fault α} {write : α → Doc}
    (h : ∀ a, read (write a) = .ok a) (as : List α) : Doc.eachOf read (as.map write) = .ok as := by
  induction as with
  | nil => rfl
  | cons a as ih => simp [Doc.eachOf, h, ih, bind, Except.bind]

namespace PublicKey

theorem isPlain_toDoc (k : PublicKey) : k.toDoc.IsPlain := by
  refine .record fun m hm => ?_
  simp only [List.mem_cons, List.not_mem_nil, or_false] at hm
  rcases hm with rfl | rfl | rfl | rfl | rfl | rfl <;> exact .text _

theorem ofDoc_toDoc (k : PublicKey) : ofDoc k.toDoc = .ok k := by
  simp [ofDoc, toDoc, fields, Doc.ofMembers, Field.collect, Field.byName, Field.required,
    Found.value, Doc.ofText, Doc.asText, List.lookup, Except.map, bind, Except.bind]

end PublicKey

namespace KeySet

theorem isPlain_toDoc (s : KeySet) : s.toDoc.IsPlain := by
  refine .record fun m hm => ?_
  rw [List.mem_singleton.mp hm]
  refine .list fun d hd => ?_
  obtain ⟨k, -, rfl⟩ := List.mem_map.mp hd
  exact k.isPlain_toDoc

theorem ofDoc_toDoc (s : KeySet) : ofDoc s.toDoc = .ok s := by
  have hkeys : Doc.asList PublicKey.ofDoc (.list (s.keys.map PublicKey.toDoc)) = .ok s.keys :=
    eachOf_map PublicKey.ofDoc_toDoc s.keys
  simp [ofDoc, toDoc, Doc.ofMembers, Field.collect, Field.byName, Field.required, Found.value,
    List.lookup, hkeys, Except.map, bind, Except.bind]

/-- What the set has to say about a kid: the last key that has it, or that no key has it. -/
def Answers (s : KeySet) (kid : String) (answer : Except Failure PublicKey) : Prop :=
  (∃ before key after, s.keys = before ++ key :: after ∧ key.kid = kid ∧
      (∀ k ∈ after, k.kid ≠ kid) ∧ answer = .ok key) ∨
    (∀ k ∈ s.keys, k.kid ≠ kid) ∧ answer = .error (.token .unknownKey)

theorem answers_find (s : KeySet) (kid : String) : s.Answers kid (s.find kid) := by
  unfold find find?
  cases h : s.keys.reverse.find? fun k => k.kid == kid with
  | none =>
      refine .inr ⟨fun k hk => ?_, rfl⟩
      simpa using List.find?_eq_none.mp h k (List.mem_reverse.mpr hk)
  | some key =>
      obtain ⟨hkid, after, before, hkeys, hafter⟩ := List.find?_eq_some_iff_append.mp h
      refine .inl ⟨before.reverse, key, after.reverse, ?_, by simpa using hkid, fun k hk => ?_, rfl⟩
      · rw [← List.reverse_reverse s.keys, hkeys]
        simp
      · simpa using hafter k (List.mem_reverse.mp hk)

end KeySet

/-! ## Served and kept -/

theorem Reply.keySet_response {status : ℕ} (h : 200 ≤ status ∧ status ≤ 299) (doc : KeySet) :
    (Reply.response status (utf8 doc.toDoc.print)).keySet = .ok doc := by
  have hfine : ¬(status < 200 ∨ 299 < status) := by omega
  simp only [Reply.keySet, if_neg hfine, readWhole_print doc.isPlain_toDoc, KeySet.ofDoc_toDoc]

namespace KeyCache

/-- A look-up at some time, and the status of the reply if the endpoint is asked. -/
structure Request where
  now : ℕ
  status : ℕ
  kid : String

/-- The results of look-ups one after the other; whenever it is asked, the endpoint sends this
body. -/
def findAll (body : List UInt8) (c : KeyCache) : List Request → List (Except Failure PublicKey)
  | [] => []
  | r :: requests =>
      let l := c.find r.now (.response r.status body) r.kid
      l.result :: l.cache.findAll body requests

/-- Nothing is kept but this set. -/
def Keeps (c : KeyCache) (doc : KeySet) : Prop := ∀ k ∈ c.cached, k.keys = doc

section Served
variable {c : KeyCache} {doc : KeySet}

theorem find_of_keeps (h : c.Keeps doc) (now : ℕ) {status : ℕ}
    (hstatus : 200 ≤ status ∧ status ≤ 299) (kid : String) :
    (c.find now (.response status (utf8 doc.toDoc.print)) kid).result = doc.find kid ∧
      (c.find now (.response status (utf8 doc.toDoc.print)) kid).cache.Keeps doc := by
  unfold find
  cases hfresh : c.fresh? now with
  | none =>
      simp only [Reply.keySet_response hstatus, true_and]
      rintro k ⟨⟩
      rfl
  | some keys =>
      have hkeys : keys = doc := by
        unfold fresh? at hfresh
        split at hfresh
        · next k hk =>
            split at hfresh
            · cases hfresh
              exact h k hk
            · cases hfresh
        · cases hfresh
      subst hkeys
      exact ⟨rfl, h⟩

theorem findAll_of_keeps (h : c.Keeps doc) {requests : List Request}
    (hstatus : ∀ r ∈ requests, 200 ≤ r.status ∧ r.status ≤ 299) :
    c.findAll (utf8 doc.toDoc.print) requests = requests.map fun r => doc.find r.kid := by
  induction requests generalizing c with
  | nil => rfl
  | cons r requests ih =>
      obtain ⟨hresult, hkeeps⟩ := find_of_keeps h r.now (hstatus r List.mem_cons_self) r.kid
      rw [findAll, hresult, ih hkeeps fun r' hr' => hstatus r' (List.mem_cons_of_mem r hr'),
        List.map_cons]

end Served

end KeyCache

/-! ## The keys of the settings -/

section Configured
variable {keys : List SigningKey} {s : KeySet}

/-- Under its kid stands what is in the key's file. -/
theorem find_of_ofKeys (h : KeySet.ofKeys keys = .ok s) (hkids : (keys.map SigningKey.kid).Nodup)
    {k : SigningKey} (hk : k ∈ keys) :
    ∃ found modulus exponent, s.find k.kid = .ok found ∧
      Rsa.IsPublicKeyFile k.publicPem modulus exponent ∧
      Rsa.decodeComponents found.modulus found.exponent = .ok (modulus, exponent) := by
  obtain ⟨c, hc, hmem⟩ := KeySet.mem_ofKeys h hk
  rw [← KeySet.kids_ofKeys h] at hkids
  refine ⟨publishedKey k c, ?_⟩
  unfold Rsa.components at hc
  split at hc
  · cases hc
  · next numbers hnumbers =>
      cases hc
      exact ⟨_, _, KeySet.find?_eq_some_iff.mp (KeySet.find?_of_mem hkids hmem),
        Rsa.isPublicKeyFile_of_ofPem? hnumbers, decodeComponents_encode _ _⟩

/-- The published set has one entry for each configured key, in the same order and with the same
kid. Whatever set is served as a document, and however many look-ups came before, a cache of it and
the set itself give one answer to every kid: the last key that has it, or that there is none. And
if no two configured keys have the same kid, the key found for each decodes to the bytes of its
file. -/
theorem published_keys_found (h : KeySet.ofKeys keys = .ok s) :
    s.keys.map PublicKey.kid = keys.map SigningKey.kid ∧
      (∀ (doc : KeySet) (ttl : ℕ) (requests : List KeyCache.Request),
        (∀ r ∈ requests, 200 ≤ r.status ∧ r.status ≤ 299) →
          (KeyCache.mk ttl none).findAll (utf8 doc.toDoc.print) requests =
            requests.map fun r => doc.find r.kid) ∧
      (∀ (doc : KeySet) (kid : String), doc.Answers kid (doc.find kid)) ∧
      ((keys.map SigningKey.kid).Nodup → ∀ k ∈ keys,
        ∃ found modulus exponent, s.find k.kid = .ok found ∧
          Rsa.IsPublicKeyFile k.publicPem modulus exponent ∧
          Rsa.decodeComponents found.modulus found.exponent = .ok (modulus, exponent)) := by
  refine ⟨KeySet.kids_ofKeys h, fun doc ttl requests hstatus => ?_, KeySet.answers_find,
    fun hkids k hk => find_of_ofKeys h hkids hk⟩
  exact KeyCache.findAll_of_keeps (by rintro k ⟨⟩) hstatus

open Platform (sealedKey) in
/-- Two configured keys, found under their kids; the set of a document with one kid twice is served,
and the second of the two keys is found, from the endpoint and from the cache. -/
theorem published_keys_found_of_sample :
    (∃ s, KeySet.ofKeys [Sample.firstKey, Sample.secondKey] = .ok s ∧
      ∀ k ∈ [Sample.firstKey, Sample.secondKey], ∃ found modulus exponent,
        s.find k.kid = .ok found ∧ Rsa.IsPublicKeyFile k.publicPem modulus exponent ∧
        Rsa.decodeComponents found.modulus found.exponent = .ok (modulus, exponent)) ∧
      (KeyCache.mk 300000 none).findAll
        (utf8 (KeySet.toDoc ⟨[sealedKey, { sealedKey with modulus := "other" }]⟩).print)
        [⟨0, 200, "test-key-03"⟩, ⟨1000, 203, "test-key-03"⟩] =
      [.ok { sealedKey with modulus := "other" }, .ok { sealedKey with modulus := "other" }] := by
  obtain ⟨first, hfirst⟩ := Option.isSome_iff_exists.mp Sample.isSome_firstPublic
  obtain ⟨second, hsecond⟩ := Option.isSome_iff_exists.mp Sample.isSome_secondPublic
  have hnone : KeySet.ofKeys [] = .ok ⟨[]⟩ := rfl
  have hs := KeySet.ofKeys_cons (k := Sample.firstKey) hfirst
    (KeySet.ofKeys_cons (k := Sample.secondKey) hsecond hnone)
  obtain ⟨-, hserved, -, hfound⟩ := published_keys_found hs
  refine ⟨⟨_, hs, hfound (by decide)⟩, ?_⟩
  rw [hserved _ 300000 _ (by decide)]
  rfl

end Configured

end Crowdlending.Token
