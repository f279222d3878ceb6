import Crowdlending.Codec.Base64

/-!
# Bytes and their symbols

What is written is read back: each symbol has its value, and the values of the two,
three or four symbols that were written for some bytes give the bytes again. And nothing else is
read: the symbols are those that are written for the bytes they give.
-/
namespace Crowdlending.Codec.Base64

namespace Alphabet

theorem symbol_mem (a : Alphabet) (n : Nat) : a.symbol n ∈ a.symbols := by
  rw [symbol, List.getD_eq_getElem?_getD]
  cases h : a.symbols[n]? with
  | none => cases a <;> decide +kernel
  | some c => exact List.mem_of_getElem? h

theorem value?_symbol (a : Alphabet) : ∀ n < 64, a.value? (a.symbol n) = some n := by
  cases a <;> decide +kernel

theorem symbol_of_value? {a : Alphabet} {c : Char} {n : Nat} (h : a.value? c = some n) :
    n < 64 ∧ a.symbol n = c := by
  have hlength : a.symbols.length = 64 := by cases a <;> decide +kernel
  obtain ⟨hn, hc, -⟩ := List.findIdx?_eq_some_iff_getElem.mp h
  refine ⟨hlength ▸ hn, ?_⟩
  rw [symbol, List.getD_eq_getElem?_getD, List.getElem?_eq_getElem hn, Option.getD_some]
  exact beq_iff_eq.mp hc

end Alphabet

variable {a : Alphabet}

theorem mem_symbols_of_mem_encode {bytes : List UInt8} {c : Char} (h : c ∈ encode a bytes) :
    c ∈ a.symbols := by
  fun_induction encode a bytes with
  | case1 => cases h
  | case2 x n =>
      simp only [List.mem_cons, List.not_mem_nil, or_false] at h
      rcases h with rfl | rfl <;> exact a.symbol_mem _
  | case3 x y n =>
      simp only [List.mem_cons, List.not_mem_nil, or_false] at h
      rcases h with rfl | rfl | rfl <;> exact a.symbol_mem _
  | case4 x y z r n ih =>
      simp only [List.mem_cons] at h
      rcases h with rfl | rfl | rfl | rfl | h
      · exact a.symbol_mem _
      · exact a.symbol_mem _
      · exact a.symbol_mem _
      · exact a.symbol_mem _
      · exact ih h

theorem length_encode (a : Alphabet) (bytes : List UInt8) :
    (encode a bytes).length = (4 * bytes.length + 2) / 3 := by
  fun_induction encode a bytes with
  | case1 => rfl
  | case2 x n => simp
  | case3 x y n => simp
  | case4 x y z r n ih =>
      simp only [List.length_cons, ih]
      omega

theorem toUInt8_eq {x : UInt8} {n : Nat} (h : n % 256 = x.toNat) : n.toUInt8 = x :=
  UInt8.toNat_inj.mp (by simpa using h)

theorem decode_encode (a : Alphabet) (bytes : List UInt8) :
    decode a (encode a bytes) = some bytes := by
  fun_induction encode a bytes with
  | case1 => rfl
  | case2 x n =>
      have hx := x.toNat_lt
      simp only [decode, a.value?_symbol (n / 4) (by omega),
        a.value?_symbol (n % 4 * 16) (by omega), Option.bind_eq_bind, Option.bind_some]
      rw [if_pos (by omega), toUInt8_eq (x := x) (by omega)]
  | case3 x y n =>
      have hx := x.toNat_lt
      have hy := y.toNat_lt
      simp only [decode, a.value?_symbol (n / 1024) (by omega),
        a.value?_symbol (n / 16 % 64) (by omega), a.value?_symbol (n % 16 * 4) (by omega),
        Option.bind_eq_bind, Option.bind_some]
      rw [if_pos (by omega), toUInt8_eq (x := x) (by omega), toUInt8_eq (x := y) (by omega)]
  | case4 x y z r n ih =>
      have hx := x.toNat_lt
      have hy := y.toNat_lt
      have hz := z.toNat_lt
      simp only [decode, a.value?_symbol (n / 262144) (by omega),
        a.value?_symbol (n / 4096 % 64) (by omega), a.value?_symbol (n / 64 % 64) (by omega),
        a.value?_symbol (n % 64) (by omega), Option.bind_eq_bind, Option.bind_some, ih]
      rw [toUInt8_eq (x := x) (by omega), toUInt8_eq (x := y) (by omega),
        toUInt8_eq (x := z) (by omega)]

theorem toNat_toUInt8 (n : Nat) : n.toUInt8.toNat = n % 256 := UInt8.toNat_ofNat'

/-- Three bytes are the digits of a word of 24 bits. -/
theorem word_of_bytes {n : Nat} (h : n < 16777216) :
    n / 65536 % 256 * 65536 + n / 256 % 256 * 256 + n % 256 = n := by
  have hhigh : n / 65536 % 256 = n / 65536 := Nat.mod_eq_of_lt (by omega)
  have hmiddle : n / 65536 = n / 256 / 256 := (Nat.div_div_eq_div_mul n 256 256).symm
  rw [hhigh, hmiddle]
  omega

/-- Bits that stand for no byte must be zero, so the bytes give all the symbols again. -/
theorem encode_of_decode {s : List Char} {bytes : List UInt8} (h : decode a s = some bytes) :
    encode a bytes = s := by
  fun_induction decode a s generalizing bytes with
  | case1 =>
      cases h
      rfl
  | case2 => cases h
  | case3 p q =>
      simp only [Option.bind_eq_bind, Option.bind_eq_some_iff] at h
      obtain ⟨i, hi, j, hj, h⟩ := h
      obtain ⟨hi, rfl⟩ := Alphabet.symbol_of_value? hi
      obtain ⟨hj, rfl⟩ := Alphabet.symbol_of_value? hj
      split at h
      · cases h
        simp only [encode, toNat_toUInt8]
        rw [show (i * 64 + j) / 16 % 256 / 4 = i by omega,
          show (i * 64 + j) / 16 % 256 % 4 * 16 = j by omega]
      · cases h
  | case4 p q r =>
      simp only [Option.bind_eq_bind, Option.bind_eq_some_iff] at h
      obtain ⟨i, hi, j, hj, k, hk, h⟩ := h
      obtain ⟨hi, rfl⟩ := Alphabet.symbol_of_value? hi
      obtain ⟨hj, rfl⟩ := Alphabet.symbol_of_value? hj
      obtain ⟨hk, rfl⟩ := Alphabet.symbol_of_value? hk
      split at h
      · cases h
        have hword : (i * 4096 + j * 64 + k) / 1024 % 256 * 256 +
            (i * 4096 + j * 64 + k) / 4 % 256 = (i * 4096 + j * 64 + k) / 4 := by omega
        simp only [encode, toNat_toUInt8, hword]
        rw [show (i * 4096 + j * 64 + k) / 4 / 1024 = i by omega,
          show (i * 4096 + j * 64 + k) / 4 / 16 % 64 = j by omega,
          show (i * 4096 + j * 64 + k) / 4 % 16 * 4 = k by omega]
      · cases h
  | case5 p q r s rest ih =>
      simp only [Option.bind_eq_bind, Option.bind_eq_some_iff] at h
      obtain ⟨i, hi, j, hj, k, hk, l, hl, others, hrest, h⟩ := h
      obtain ⟨hi, rfl⟩ := Alphabet.symbol_of_value? hi
      obtain ⟨hj, rfl⟩ := Alphabet.symbol_of_value? hj
      obtain ⟨hk, rfl⟩ := Alphabet.symbol_of_value? hk
      obtain ⟨hl, rfl⟩ := Alphabet.symbol_of_value? hl
      cases h
      generalize hn : i * 262144 + j * 4096 + k * 64 + l = n
      simp only [encode, toNat_toUInt8, word_of_bytes (n := n) (by omega), ih hrest]
      rw [show n / 262144 = i by omega, show n / 4096 % 64 = j by omega,
        show n / 64 % 64 = k by omega, show n % 64 = l by omega]

/-! ## Filled up -/

/-- How many signs fill up the symbols of that many bytes. -/
def fill (length : Nat) : Nat := (3 - length % 3) % 3

theorem filled_iff {length n : Nat} (hn : n < 3) :
    ((4 * length + 2) / 3 + n) % 4 = 0 ↔ n = fill length := by
  rw [fill]
  obtain h | h | h : length % 3 = 0 ∨ length % 3 = 1 ∨ length % 3 = 2 := by omega
  all_goals
    rw [h]
    omega

/-- The symbols filled up to a multiple of four. -/
def padded (a : Alphabet) (bytes : List UInt8) : List Char :=
  encode a bytes ++ List.replicate (fill bytes.length) '='

theorem length_padded (a : Alphabet) (bytes : List UInt8) :
    (padded a bytes).length % 4 = 0 := by
  rw [padded, List.length_append, length_encode, List.length_replicate]
  exact (filled_iff (Nat.mod_lt _ (by decide))).mpr rfl

theorem equals_not_mem_encode (bytes : List UInt8) : '=' ∉ encode a bytes := fun h => by
  have hmem := mem_symbols_of_mem_encode h
  revert hmem
  cases a <;> decide +kernel

/-- Reading takes off the signs at the end before it looks at the symbols. -/
theorem decodePadded_append {s : List Char} {n : Nat} (hn : n < 3) (hfree : '=' ∉ s)
    (hlength : (s ++ List.replicate n '=').length % 4 = 0) :
    decodePadded a (s ++ List.replicate n '=') = decode a s := by
  have hrev : ∀ r, s.reverse ≠ '=' :: r := fun r h =>
    hfree (List.mem_reverse.mp (h ▸ List.mem_cons_self))
  rw [decodePadded, if_neg (fun h => h hlength), List.reverse_append, List.reverse_replicate]
  obtain rfl | rfl | rfl : n = 0 ∨ n = 1 ∨ n = 2 := by omega
  · rw [List.replicate_zero, List.nil_append]
    split
    · next h => exact absurd h (hrev _)
    · next h => exact absurd h (hrev _)
    · rw [List.reverse_reverse]
  · rw [List.replicate_one, List.singleton_append]
    split
    · next h => exact absurd (List.cons.inj h).2 (hrev _)
    · next h => rw [← (List.cons.inj h).2, List.reverse_reverse]
    · next h => exact absurd rfl (h _)
  · simp only [List.replicate_succ, List.replicate_zero, List.cons_append, List.nil_append,
      List.reverse_reverse]

theorem decodePadded_padded (a : Alphabet) (bytes : List UInt8) :
    decodePadded a (padded a bytes) = some bytes := by
  rw [padded, decodePadded_append (n := fill bytes.length) (Nat.mod_lt _ (by decide))
    (equals_not_mem_encode bytes) (length_padded a bytes), decode_encode]

theorem padded_of_decodePadded {s : List Char} {bytes : List UInt8}
    (h : decodePadded a s = some bytes) : s = padded a bytes := by
  unfold decodePadded at h
  split at h
  · cases h
  · next hfour =>
      have hfill : ∀ (r : List Char) (n : Nat), n < 3 → s = r ++ List.replicate n '=' →
          decode a r = some bytes → s = padded a bytes := by
        intro r n hn hs hr
        have hsum : s.length = (4 * bytes.length + 2) / 3 + n := by
          rw [hs, List.length_append, ← encode_of_decode hr, length_encode,
            List.length_replicate]
        have hn' := (filled_iff hn).mp (hsum ▸ Decidable.not_not.mp hfour)
        rw [padded, encode_of_decode hr, hs, hn']
      split at h
      · next r hs =>
          refine hfill _ 2 (by decide) ?_ h
          rw [← List.reverse_reverse s, hs]
          simp
      · next r _ hs =>
          refine hfill _ 1 (by decide) ?_ h
          rw [← List.reverse_reverse s, hs]
          simp
      · exact hfill _ 0 (by decide) (by simp) h

theorem padded_injective {bytes bytes' : List UInt8} (h : padded a bytes = padded a bytes') :
    bytes = bytes' := by
  have hread := decodePadded_padded a bytes
  rw [h, decodePadded_padded] at hread
  exact (Option.some.inj hread).symm

theorem decodeText_encodeText (a : Alphabet) (bytes : List UInt8) :
    decodeText a (encodeText a bytes) = some bytes := by
  rw [decodeText, encodeText, String.toList_ofList, decode_encode]

end Crowdlending.Codec.Base64
