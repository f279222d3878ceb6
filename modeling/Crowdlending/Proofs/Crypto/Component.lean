import Crowdlending.Proofs.Codec.Bits
import Crowdlending.Proofs.Crypto.PublicKey

/-!
# The texts of key components

Modulus and exponent of a published key are bytes, written in the URL-safe alphabet and not filled
up. Texts that are read and lists of bytes correspond to each other one to one. A number may have
several texts all the same, for zero bytes may stand in front of it; it has one text alone whose
bytes do not begin with zero, the one that is published.
-/
namespace Crowdlending.Crypto.Rsa
open Codec

section Component
variable {text text' : String} {bs bs' : List UInt8}

theorem encodeComponent_of_decodeComponent (h : decodeComponent text = some bs) :
    encodeComponent bs = text := by
  rw [encodeComponent, Base64.encodeText, Base64.encode_of_decode h, String.ofList_toList]

/-- Two texts that are read differ in their bytes as well. -/
theorem bytes_ne_of_decodeComponent (h : decodeComponent text = some bs)
    (h' : decodeComponent text' = some bs') (hne : text ≠ text') : bs ≠ bs' := fun hsame => by
  apply hne
  rw [← encodeComponent_of_decodeComponent h, hsame, encodeComponent_of_decodeComponent h']

theorem natOfBytes_ne (h : bs.head? ≠ some 0) (h' : bs'.head? ≠ some 0) (hne : bs ≠ bs') :
    natOfBytes bs ≠ natOfBytes bs' := fun hsame => by
  apply hne
  rw [← bytes_natOfBytes h, hsame, bytes_natOfBytes h']

end Component

/-- Reading and writing components undo each other: what is written is read back, and what is read
is written so again. A text is read as the bytes that its symbols spell, and it is refused if and
only if its symbols are flawed; so it is when a sign fills it up. Different texts that are read have
different bytes, and if these do not begin with zero, they are the bytes of different numbers. -/
theorem component_codec :
    (∀ bs, decodeComponent (encodeComponent bs) = some bs) ∧
      (∀ text bs, decodeComponent text = some bs → encodeComponent bs = text) ∧
      (∀ text bs, decodeComponent text = some bs ↔ Base64.Spells .urlSafe text.toList bs) ∧
      (∀ text, decodeComponent text = none ↔ Base64.Flawed .urlSafe text.toList) ∧
      (∀ text, '=' ∈ text.toList → decodeComponent text = none) ∧
      ∀ text text' bs bs', decodeComponent text = some bs → decodeComponent text' = some bs' →
        text ≠ text' → bs ≠ bs' ∧
          (bs.head? ≠ some 0 → bs'.head? ≠ some 0 → natOfBytes bs ≠ natOfBytes bs') := by
  refine ⟨Base64.decodeText_encodeText _, fun text bs => encodeComponent_of_decodeComponent,
    fun text bs => Base64.decode_eq_some_iff, fun text => Base64.decode_eq_none_iff,
    fun text hfilled => ?_, fun text text' bs bs' h h' hne => ?_⟩
  · exact Base64.decode_eq_none_iff.mpr (.sign '=' hfilled (by decide +kernel))
  · have hbytes := bytes_ne_of_decodeComponent h h' hne
    exact ⟨hbytes, fun hzero hzero' => natOfBytes_ne hzero hzero' hbytes⟩

/-- The usual exponent and another one; the first filled up, and a text whose last bits belong to no
byte. -/
theorem component_codec_of_exponent :
    decodeComponent "AQAB" = some [1, 0, 1] ∧ encodeComponent [1, 0, 1] = "AQAB" ∧
      decodeComponent "AQAB==" = none ∧ decodeComponent "_x" = none ∧
      natOfBytes [1, 0, 1] ≠ natOfBytes [3] := by
  obtain ⟨-, hwritten, -, hflawed, hfilled, hdistinct⟩ := component_codec
  have hread : decodeComponent "AQAB" = some [1, 0, 1] := by decide +kernel
  have hother : decodeComponent "Aw" = some [3] := by decide +kernel
  refine ⟨hread, hwritten _ _ hread, hfilled _ (by decide +kernel), ?_, ?_⟩
  · exact (hflawed _).mpr (.spare ['_'] 'x' (by decide +kernel) (by decide +kernel))
  · exact (hdistinct _ _ _ _ hread hother (by decide)).2 (by decide) (by decide)

/-! With a zero in front, another text has the same number. -/

example : decodeComponent "Aw" = some [3] ∧ decodeComponent "AAM" = some [0, 3] ∧
    natOfBytes [3] = natOfBytes [0, 3] := by decide +kernel

end Crowdlending.Crypto.Rsa
