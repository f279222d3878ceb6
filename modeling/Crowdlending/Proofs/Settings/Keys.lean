import Mathlib.Data.List.Forall2
import Mathlib.Data.List.Nodup
import Crowdlending.Proofs.Codec.Base64
import Crowdlending.Proofs.Result
import Crowdlending.Proofs.Text.Blank
import Crowdlending.Proofs.Text.Utf8
import Crowdlending.Settings.Basic

/-!
# Which lists of keys are accepted

A list of keys is accepted just if there is a key in it, every key has a name, no two have the same,
and every half is a text in base 64. The keys are then those of the list, one for one and in its
order.
-/
namespace Crowdlending.Settings
open Json Text Codec.Base64

/-- There is a key, every key has a name, and no two have the same. -/
structure KeysInOrder (keys : List SigningKey) : Prop where
  some : keys ≠ []
  named : ∀ k ∈ keys, k.kid ≠ ""
  distinct : (keys.map SigningKey.kid).Nodup

/-- The text is the base 64 of the other one, white space around it apart. -/
def EncodesText (encoded plain : String) : Prop :=
  trimChars encoded.toList = padded .standard (utf8 plain)

/-- The text in base 64, with no white space around it. -/
def encodedText (plain : String) : String := String.ofList (padded .standard (utf8 plain))

theorem encodesText_encodedText (plain : String) : EncodesText (encodedText plain) plain := by
  have hall : ((Alphabet.standard.symbols ++ ['=']).all fun c => !isBlank c) = true := by
    decide +kernel
  rw [EncodesText, encodedText, String.toList_ofList]
  refine trimChars_of_not_blank fun c hc => ?_
  suffices hmem : c ∈ Alphabet.standard.symbols ++ ['='] by
    simpa using List.all_eq_true.mp hall c hmem
  rcases List.mem_append.mp hc with hc | hc
  · exact List.mem_append_left _ (mem_symbols_of_mem_encode hc)
  · exact List.mem_append_right _ (List.mem_singleton.mpr (List.eq_of_mem_replicate hc))

/-- The one key is the other with its halves in base 64. -/
structure Encodes (written k : SigningKey) : Prop where
  kid : written.kid = k.kid
  privatePem : EncodesText written.privatePem k.privatePem
  publicPem : EncodesText written.publicPem k.publicPem

theorem readPem_eq_ok_iff {kid field encoded plain : String} :
    readPem kid field encoded = .ok plain ↔ EncodesText encoded plain := by
  unfold readPem EncodesText
  split
  · next hnone =>
      refine iff_of_false (by simp) fun h => ?_
      rw [h, decodePadded_padded] at hnone
      cases hnone
  · next bytes hbytes =>
      rw [padded_of_decodePadded hbytes]
      split
      · next hnone =>
          refine iff_of_false (by simp) fun h => ?_
          rw [padded_injective h, fromUTF8?_utf8] at hnone
          cases hnone
      · next s hs =>
          rw [fromUTF8?_eq_some_iff] at hs
          rw [hs, Except.ok.injEq]
          exact ⟨fun h => h ▸ rfl, fun h => utf8_injective (padded_injective h)⟩

section Keys
variable {seen : List String} {written keys : List SigningKey}

/-- The names seen so far are out of use, and each key read adds its own to them. -/
theorem decodeKeys_eq_ok_iff :
    decodeKeys seen written = .ok keys ↔
      (∀ k ∈ written, k.kid ≠ "" ∧ k.kid ∉ seen) ∧ (written.map SigningKey.kid).Nodup ∧
        List.Forall₂ Encodes written keys := by
  induction written generalizing seen keys with
  | nil =>
      rw [decodeKeys, Except.ok.injEq, List.forall₂_nil_left_iff, eq_comm]
      simp
  | cons k written ih =>
      simp only [decodeKeys, Result.throw_if_eq_ok, Result.bind_eq_ok, readPem_eq_ok_iff, ih,
        List.forall₂_cons_left_iff, List.forall_mem_cons, List.map_cons, List.nodup_cons]
      constructor
      · rintro ⟨hnamed, hnew, privatePem, hprivate, publicPem, hpublic, rest,
          ⟨hrest, hdistinct, hall⟩, h⟩
        cases h
        have hfresh : k.kid ∉ written.map SigningKey.kid := by
          rintro hmem
          obtain ⟨k', hk', hsame⟩ := List.mem_map.mp hmem
          exact (hrest k' hk').2 (hsame ▸ List.mem_cons_self)
        exact ⟨⟨⟨by simpa using hnamed, by simpa using hnew⟩, fun k' hk' =>
            ⟨(hrest k' hk').1, fun hmem => (hrest k' hk').2 (List.mem_cons_of_mem _ hmem)⟩⟩,
          ⟨hfresh, hdistinct⟩, ⟨k.kid, privatePem, publicPem⟩, rest, ⟨rfl, hprivate, hpublic⟩, hall,
          rfl⟩
      · rintro ⟨⟨⟨hnamed, hnew⟩, hrest⟩, ⟨hfresh, hdistinct⟩, k', rest,
          ⟨hkid, hprivate, hpublic⟩, hall, rfl⟩
        refine ⟨by simpa using hnamed, by simpa using hnew, _, hprivate, _, hpublic, rest,
          ⟨fun a ha => ⟨(hrest a ha).1, ?_⟩, hdistinct, hall⟩, by rw [hkid]; rfl⟩
        rw [List.mem_cons, not_or]
        exact ⟨fun hsame => hfresh (List.mem_map.mpr ⟨a, ha, hsame⟩), (hrest a ha).2⟩

theorem readKeys_eq_ok_iff {text : String} :
    readKeys text = .ok keys ↔ ∃ written, (readText text).asList SigningKey.ofDoc = .ok written ∧
      KeysInOrder written ∧ List.Forall₂ Encodes written keys := by
  unfold readKeys
  split
  · next hfault => simp [hfault]
  · next hnone =>
      refine iff_of_false (by simp) ?_
      rintro ⟨written, hwritten, hkeys, -⟩
      cases hnone.symm.trans hwritten
      exact hkeys.some rfl
  · next found hsome hfound =>
      rw [decodeKeys_eq_ok_iff]
      constructor
      · rintro ⟨hnamed, hdistinct, hall⟩
        exact ⟨found, hfound, ⟨hsome, fun k hk => (hnamed k hk).1, hdistinct⟩, hall⟩
      · rintro ⟨written, hwritten, ⟨-, hnamed, hdistinct⟩, hall⟩
        cases hfound.symm.trans hwritten
        exact ⟨fun k hk => ⟨hnamed k hk, List.not_mem_nil⟩, hdistinct, hall⟩

theorem exists_encodes_iff :
    (∃ keys, List.Forall₂ Encodes written keys) ↔ ∀ k ∈ written,
      (∃ plain, EncodesText k.privatePem plain) ∧ ∃ plain, EncodesText k.publicPem plain := by
  induction written with
  | nil => simp
  | cons k written ih =>
      rw [List.forall_mem_cons, ← ih]
      constructor
      · rintro ⟨_, hall⟩
        obtain ⟨k', keys, hk, hkeys, -⟩ := List.forall₂_cons_left_iff.mp hall
        exact ⟨⟨⟨_, hk.privatePem⟩, _, hk.publicPem⟩, keys, hkeys⟩
      · rintro ⟨⟨⟨privatePem, hprivate⟩, publicPem, hpublic⟩, keys, hkeys⟩
        exact ⟨⟨k.kid, privatePem, publicPem⟩ :: keys, .cons ⟨rfl, hprivate, hpublic⟩ hkeys⟩

theorem kids_of_encodes (h : List.Forall₂ Encodes written keys) :
    written.map SigningKey.kid = keys.map SigningKey.kid := by
  induction h with
  | nil => rfl
  | cons hk _ ih => rw [List.map_cons, List.map_cons, hk.kid, ih]

theorem KeysInOrder.of_kids (h : KeysInOrder written)
    (hkids : written.map SigningKey.kid = keys.map SigningKey.kid) : KeysInOrder keys := by
  refine ⟨?_, fun k hk hnone => ?_, hkids ▸ h.distinct⟩
  · rintro rfl
    exact h.some (List.map_eq_nil_iff.mp hkids)
  · have hmem : k.kid ∈ written.map SigningKey.kid := hkids ▸ List.mem_map_of_mem hk
    obtain ⟨k', hk', hsame⟩ := List.mem_map.mp hmem
    exact h.named k' hk' (hsame.trans hnone)

theorem keysInOrder_of_readKeys {text : String} (h : readKeys text = .ok keys) :
    KeysInOrder keys := by
  obtain ⟨written, -, hwritten, hall⟩ := readKeys_eq_ok_iff.mp h
  exact hwritten.of_kids (kids_of_encodes hall)

end Keys

end Crowdlending.Settings
