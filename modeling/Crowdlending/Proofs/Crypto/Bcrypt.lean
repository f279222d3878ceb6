import Crowdlending.Crypto.Bcrypt
import Crowdlending.Proofs.Codec.Base64
import Crowdlending.Proofs.Result
import Crowdlending.Proofs.Text.Cut
import Crowdlending.Proofs.Text.Utf8

/-!
# What a password hash tells of its password

A written hash is read back as the cost, the salt and the digest that it was made of. So to check a
password is to compare two digests, its own and that of the password which was hashed.

The digest does not know the whole password. The cipher is keyed with 72 bytes: those of the
password and a zero byte after them, repeated if they are fewer and cut off if they are more. Two
passwords that key it alike cannot be told apart, whatever the cost and the salt. Without the
character NUL they key it alike just if they have the same first 72 bytes.
-/
namespace Crowdlending.Crypto.Bcrypt
open Text Number Codec

/-! ## Reading a written hash -/

section Written
variable {f : Core} {cost : ℕ} {salt : List UInt8} {password written : String}

theorem plain_of_mem_encode {bytes : List UInt8} {c : Char} (h : c ∈ Base64.encode .crypt bytes) :
    c ≠ '$' ∧ c.toNat < 128 := by
  have hall : (Base64.Alphabet.crypt.symbols.all fun c => c != '$' && decide (c.toNat < 128)) =
      true := by
    decide +kernel
  simpa using List.all_eq_true.mp hall c (Base64.mem_symbols_of_mem_encode h)

theorem readNat_twoDigits (hleast : leastCost ≤ cost) (hmost : cost ≤ mostCost) :
    readNat maxU32 (twoDigits cost).toList = .ok cost ∧ '$' ∉ (twoDigits cost).toList ∧
      (twoDigits cost).toList ≠ [] := by
  have hall : ∀ n ≤ mostCost, leastCost ≤ n → readNat maxU32 (twoDigits n).toList = .ok n ∧
      '$' ∉ (twoDigits n).toList ∧ (twoDigits n).toList ≠ [] := by
    decide +kernel
  exact hall cost hmost hleast

theorem byteLength_of_ascii {s : List Char} (h : ∀ c ∈ s, c.toNat < 128) :
    byteLength s = s.length :=
  utf8ByteSize_of_ascii h

/-- Among ASCII characters the cut after 22 bytes is the one after 22 characters. -/
theorem splitSalt_append {a b : List Char} (ha : a.length = 22) (hb : b.length = 31)
    (hascii : ∀ c ∈ a ++ b, c.toNat < 128) : splitSalt (a ++ b) = some (a, b) := by
  have hlength : (a ++ b).length = 53 := by rw [List.length_append, ha, hb]
  have htake (n : ℕ) : byteLength ((a ++ b).take n) = min n 53 := by
    rw [byteLength_of_ascii fun c hc => hascii c (List.mem_of_mem_take hc), List.length_take,
      hlength]
  have hfind : (List.range 54).find? (fun n => byteLength ((a ++ b).take n) == 22) = some 22 := by
    simp only [List.find?_range_eq_some, htake]
    exact ⟨by decide, by decide, fun n hn => by simp; omega⟩
  rw [splitSalt, byteLength_of_ascii hascii, hlength, if_pos rfl, hfind, Option.map_some, ← ha,
    List.take_left', List.drop_left'] <;> rfl

theorem hash_eq_ok (h : hash f salt password cost = .ok written) :
    leastCost ≤ cost ∧ cost ≤ mostCost ∧
      written.toList = '$' :: ['2', 'b'] ++ '$' :: ((twoDigits cost).toList ++ '$' ::
        (Base64.encode .crypt salt ++ Base64.encode .crypt (digest f cost salt password))) := by
  unfold hash at h
  split at h
  · next hcost =>
      have hversion : "$2b$".toList = ['$', '2', 'b', '$'] := by decide +kernel
      have hmark : "$".toList = ['$'] := by decide +kernel
      cases h
      refine ⟨hcost.1, hcost.2, ?_⟩
      simp only [String.toList_append, hversion, hmark, Base64.encodeText, String.toList_ofList,
        List.append_assoc]
      rfl
  · cases h

/-- The salt and the digest have the lengths that they are written with. -/
structure IsSized (f : Core) (cost : ℕ) (salt : List UInt8) (password : String) : Prop where
  length_salt : salt.length = 16
  le_length_core : 23 ≤ (f cost salt (keyOf password)).length

theorem IsSized.length_digest (h : IsSized f cost salt password) :
    (Bcrypt.digest f cost salt password).length = digestLength := by
  rw [Bcrypt.digest, List.length_take]
  exact Nat.min_eq_left h.le_length_core

/-- A written hash is made of its cost, its salt and its digest. -/
theorem readParts_of_hash (h : hash f salt password cost = .ok written)
    (hsized : IsSized f cost salt password) :
    readParts written = .ok ⟨cost, Base64.encode .crypt salt,
      Base64.encode .crypt (digest f cost salt password)⟩ := by
  obtain ⟨hleast, hmost, hform⟩ := hash_eq_ok h
  obtain ⟨hread, hfree, hsome⟩ := readNat_twoDigits hleast hmost
  have hrest : '$' ∉ Base64.encode .crypt salt ++
      Base64.encode .crypt (digest f cost salt password) := by
    intro hmem
    rcases List.mem_append.mp hmem with hmem | hmem <;> exact (plain_of_mem_encode hmem).1 rfl
  have hsplit : splitSalt (Base64.encode .crypt salt ++
      Base64.encode .crypt (digest f cost salt password)) =
        some (Base64.encode .crypt salt, Base64.encode .crypt (digest f cost salt password)) := by
    refine splitSalt_append ?_ ?_ fun c hc => ?_
    · rw [Base64.length_encode, hsized.length_salt]
    · rw [Base64.length_encode, hsized.length_digest]
      rfl
    · rcases List.mem_append.mp hc with hc | hc <;> exact (plain_of_mem_encode hc).2
  have hne : Base64.encode .crypt salt ++
      Base64.encode .crypt (digest f cost salt password) ≠ [] := by
    intro hnil
    rw [hnil] at hsplit
    cases hsplit
  have hpieces : cut '$' written.toList = [[], ['2', 'b'], (twoDigits cost).toList,
      Base64.encode .crypt salt ++ Base64.encode .crypt (digest f cost salt password)] := by
    rw [hform, List.cons_append, cut, if_pos rfl, cut_append (by decide), cut_append hfree,
      cut_of_not_mem hrest]
  have hkept : (cut '$' written.toList).filter (fun p => !p.isEmpty) =
      [['2', 'b'], (twoDigits cost).toList,
        Base64.encode .crypt salt ++ Base64.encode .crypt (digest f cost salt password)] := by
    rw [hpieces]
    simp [hsome, hne]
  have hversion : versions.contains (String.ofList ['2', 'b']) = true := by decide +kernel
  simp only [readParts, hkept, hversion, hread, hsplit, not_true_eq_false, if_false]

/-- To check a password is to compare its digest with that of the password which was hashed. -/
theorem verify_of_hash (h : hash f salt password cost = .ok written)
    (hsized : IsSized f cost salt password) (other : String) :
    verify f other written = .ok (digest f cost salt other == digest f cost salt password) := by
  obtain ⟨hleast, hmost, -⟩ := hash_eq_ok h
  have hcost : ¬(cost < leastCost ∨ mostCost < cost) := by omega
  simp only [verify, check, readParts_of_hash h hsized, Base64.decode_encode, bind,
    Except.bind, if_neg hcost]
  rfl

end Written

/-! ## Keys -/

/-- The bytes that the cipher is keyed with: those of the key, repeated. -/
def keyStream (password : String) : List UInt8 :=
  (List.range keyLength).map fun i => (keyOf password).getD (i % (keyOf password).length) 0

/-- The passwords have one digest just if they key the cipher alike. That they have if they do is a
law of the real digest; that they have not if they do not says that these two do not collide. No
digest tells all keys apart, for there are more keys than digests. -/
def TellsApart (f : Core) (cost : ℕ) (salt : List UInt8) (password other : String) : Prop :=
  digest f cost salt password = digest f cost salt other ↔ keyStream password = keyStream other

section Key
variable {password other : String}

theorem keyOf_eq (password : String) :
    keyOf password = ((utf8 password).take keyLength ++ [0]).take keyLength := by
  have hsame : keyLength - ((utf8 password).take keyLength).length =
      keyLength - (utf8 password).length := by
    rw [List.length_take]
    omega
  change (utf8 password ++ [0]).take keyLength = _
  rw [List.take_append, List.take_append, List.take_take, Nat.min_self, hsame]

theorem length_keyOf_le (password : String) : (keyOf password).length ≤ keyLength := by
  rw [keyOf, List.length_take]
  exact Nat.min_le_left ..

theorem keyStream_of_keyOf (h : keyOf password = keyOf other) :
    keyStream password = keyStream other := by
  rw [keyStream, keyStream, h]

/-- The key comes first, and then as much of its repetition as there is room for. -/
theorem exists_keyStream_eq_append (password : String) :
    ∃ rest, keyStream password = keyOf password ++ rest := by
  refine ⟨(keyStream password).drop (keyOf password).length, ?_⟩
  have htake : (keyStream password).take (keyOf password).length = keyOf password := by
    have hle := length_keyOf_le password
    refine List.ext_getElem ?_ fun i _ hi => ?_
    · simp [keyStream, hle]
    · simp [keyStream, Nat.mod_eq_of_lt hi, hi]
  conv_lhs => rw [← List.take_append_drop (keyOf password).length (keyStream password), htake]

/-! ## Keys without a zero byte -/

def NulFree (s : String) : Prop := '\x00' ∉ s.toList

theorem zero_not_mem_utf8 {s : String} (h : NulFree s) : 0 ∉ utf8 s := by
  rw [utf8_eq, List.mem_flatMap]
  rintro ⟨c, hc, hzero⟩
  by_cases hascii : c.toNat < 128
  · rw [utf8EncodeChar_of_lt hascii, List.mem_singleton] at hzero
    have hnul : c = '\x00' := by
      have := congrArg UInt8.toNat hzero
      simp at this
      exact Char.toNat_inj.mp (by simp; omega)
    exact h (hnul ▸ hc)
  · exact absurd (le_of_mem_utf8EncodeChar (Nat.not_lt.mp hascii) hzero) (by decide)

/-- The stream up to its first zero byte is what counts of the password. -/
theorem takeWhile_keyStream (h : NulFree password) :
    (keyStream password).takeWhile (· != 0) = (utf8 password).take keyLength := by
  obtain ⟨rest, hrest⟩ := exists_keyStream_eq_append password
  have hlength : (keyStream password).length = keyLength := by simp [keyStream]
  have hnone : ∀ b ∈ (utf8 password).take keyLength, (b != 0) = true := by
    intro b hb
    rw [bne_iff_ne]
    rintro rfl
    exact zero_not_mem_utf8 h (List.mem_of_mem_take hb)
  have hkey : keyOf password = (utf8 password).take keyLength ++
      [0].take (keyLength - ((utf8 password).take keyLength).length) := by
    rw [keyOf_eq, List.take_append, List.take_take, Nat.min_self]
  rw [hrest, hkey, List.append_assoc, List.takeWhile_append_of_pos hnone]
  -- What follows is nothing at all, or begins with the zero byte.
  cases hroom : keyLength - ((utf8 password).take keyLength).length with
  | zero =>
      rw [hroom] at hkey
      rw [hrest, hkey] at hlength
      have hnil : rest = [] := by
        refine List.eq_nil_of_length_eq_zero ?_
        simp only [List.length_append, List.take_zero, List.length_nil] at hlength
        omega
      simp [hnil]
  | succ n => simp

theorem keyStream_eq_iff (hpassword : NulFree password) (hother : NulFree other) :
    keyStream password = keyStream other ↔
      (utf8 password).take keyLength = (utf8 other).take keyLength := by
  constructor
  · intro h
    rw [← takeWhile_keyStream hpassword, ← takeWhile_keyStream hother, h]
  · intro h
    refine keyStream_of_keyOf ?_
    rw [keyOf_eq, keyOf_eq, h]

theorem utf8_inj {s t : String} (h : utf8 s = utf8 t) : s = t := by
  have hs := fromUTF8?_utf8 s
  rw [h, fromUTF8?_utf8 t] at hs
  exact (Option.some.inj hs).symm

/-- Nothing is cut off from passwords of at most 72 bytes. -/
theorem keyStream_ne_of_short (hpassword : NulFree password) (hother : NulFree other)
    (hshort : (utf8 password).length ≤ keyLength) (hshort' : (utf8 other).length ≤ keyLength)
    (hne : password ≠ other) : keyStream password ≠ keyStream other := by
  rw [ne_eq, keyStream_eq_iff hpassword hother, List.take_of_length_le hshort,
    List.take_of_length_le hshort']
  exact fun h => hne (utf8_inj h)

end Key

/-! ## The digest itself -/

theorem length_core (cost : ℕ) (salt key : List UInt8) : (core cost salt key).length = 24 := by
  simp [core, magic, wordBytes]

/-- The words that the cipher is keyed with are those of the stream. -/
theorem cyclicWord_keyOf (password : String) {i : ℕ} (hi : i < Blowfish.keyCount) :
    Blowfish.cyclicWord (keyOf password).toArray i =
      Blowfish.cyclicWord (keyStream password).toArray i := by
  have hbyte : ∀ j < 4, (keyOf password).toArray.getD
      ((4 * i + j) % (keyOf password).toArray.size) 0 =
        (keyStream password).toArray.getD ((4 * i + j) % (keyStream password).toArray.size) 0 := by
    intro j hj
    have hlt : 4 * i + j < keyLength := by
      unfold Blowfish.keyCount at hi
      unfold keyLength
      omega
    have hlength : (keyStream password).toArray.size = keyLength := by simp [keyStream]
    rw [hlength, Nat.mod_eq_of_lt hlt]
    simp [keyStream, hlt]
  unfold Blowfish.cyclicWord
  dsimp only
  rw [hbyte 0 (by decide), hbyte 1 (by decide), hbyte 2 (by decide), hbyte 3 (by decide)]

theorem keyWords_keyOf (password : String) :
    Blowfish.keyWords (keyOf password).toArray = Blowfish.keyWords (keyStream password).toArray :=
  congrArg List.toArray <| List.map_congr_left fun _ hi =>
    cyclicWord_keyOf password (List.mem_range.mp hi)

/-- Passwords that key the cipher alike have one digest. -/
theorem digest_core_of_keyStream {password other : String}
    (h : keyStream password = keyStream other) (cost : ℕ) (salt : List UInt8) :
    digest core cost salt password = digest core cost salt other := by
  simp only [digest, core, keyWords_keyOf, h]

end Crowdlending.Crypto.Bcrypt
