import Mathlib.Data.List.Basic
import Mathlib.Data.Nat.Bitwise
import Crowdlending.Proofs.Codec.Base64

/-!
# Symbols as bits

What symbols mean, apart from how they are written and read: each stands for six bits, its place in
the alphabet, and together they are the bits of the bytes, eight for each, filled up with zeros to
the end of the last symbol. Symbols that spell bytes are read as these bytes, and every list of
bytes is spelled in one way. Symbols that spell nothing have a flaw of one of three kinds.
-/
namespace Crowdlending.Codec.Base64

/-! ## Numbers as bits -/

/-- The lowest bits of a number, highest first. -/
def bits : (width n : ℕ) → List Bool
  | 0, _ => []
  | width + 1, n => n.testBit width :: bits width n

theorem length_bits (width n : ℕ) : (bits width n).length = width := by
  induction width with
  | zero => rfl
  | succ width ih => rw [bits, List.length_cons, ih]

theorem bits_zero (width : ℕ) : bits width 0 = List.replicate width false := by
  induction width with
  | zero => rfl
  | succ width ih => rw [bits, ih, Nat.zero_testBit, List.replicate_succ]

theorem bits_add (high low n : ℕ) :
    bits (high + low) n = bits high (n / 2 ^ low) ++ bits low n := by
  induction high with
  | zero => rw [Nat.zero_add, bits, List.nil_append]
  | succ high ih =>
      rw [Nat.succ_add, bits, bits, ih, Nat.testBit_div_two_pow, List.cons_append,
        Nat.add_comm high low]

theorem bits_eq_iff {width m n : ℕ} :
    bits width m = bits width n ↔ m % 2 ^ width = n % 2 ^ width := by
  have htest : bits width m = bits width n ↔ ∀ i < width, m.testBit i = n.testBit i := by
    induction width with
    | zero => simp [bits]
    | succ width ih =>
        rw [bits, bits, List.cons.injEq, ih, Nat.forall_lt_succ_right, and_comm]
  refine htest.trans ⟨fun h => Nat.eq_of_testBit_eq fun i => ?_, fun h i hi => ?_⟩
  · rw [Nat.testBit_mod_two_pow, Nat.testBit_mod_two_pow]
    by_cases hi : i < width
    · rw [h i hi]
    · simp only [hi, decide_false, Bool.false_and]
  · have hbit := congrArg (Nat.testBit · i) h
    simpa only [Nat.testBit_mod_two_pow, hi, decide_true, Bool.true_and] using hbit

theorem bits_append {low n : ℕ} (h : n < 2 ^ low) (high m : ℕ) :
    bits high m ++ bits low n = bits (high + low) (m * 2 ^ low + n) := by
  have hdiv : (m * 2 ^ low + n) / 2 ^ low = m := by
    rw [Nat.add_comm, Nat.add_mul_div_right _ _ (Nat.two_pow_pos low), Nat.div_eq_of_lt h,
      Nat.zero_add]
  have hmod : (m * 2 ^ low + n) % 2 ^ low = n % 2 ^ low := Nat.mul_add_mod_self_right ..
  rw [bits_add, hdiv, bits_eq_iff.mpr hmod]

/-- Numbers of one width, one after the other. -/
def stream (width : ℕ) (ns : List ℕ) : List Bool := ns.flatMap (bits width)

theorem length_stream (width : ℕ) (ns : List ℕ) :
    (stream width ns).length = width * ns.length := by
  induction ns with
  | nil => rfl
  | cons n ns ih =>
      rw [stream, List.flatMap_cons, List.length_append, length_bits, ← stream, ih,
        List.length_cons, Nat.mul_succ, Nat.add_comm]

theorem stream_append (width : ℕ) (ms ns : List ℕ) :
    stream width (ms ++ ns) = stream width ms ++ stream width ns := List.flatMap_append

theorem eq_of_stream {width : ℕ} {ms ns : List ℕ} (hms : ∀ m ∈ ms, m < 2 ^ width)
    (hns : ∀ n ∈ ns, n < 2 ^ width) (hlength : ms.length = ns.length)
    (h : stream width ms = stream width ns) : ms = ns := by
  induction ms generalizing ns with
  | nil => exact (List.length_eq_zero_iff.mp hlength.symm).symm
  | cons m ms ih =>
      obtain ⟨n, ns, rfl⟩ := List.exists_cons_of_length_eq_add_one hlength.symm
      rw [stream, stream, List.flatMap_cons, List.flatMap_cons] at h
      obtain ⟨hhead, htail⟩ := List.append_inj h (by rw [length_bits, length_bits])
      have hmod := bits_eq_iff.mp hhead
      rw [Nat.mod_eq_of_lt (hms m List.mem_cons_self),
        Nat.mod_eq_of_lt (hns n List.mem_cons_self)] at hmod
      rw [hmod, ih (fun k hk => hms k (List.mem_cons_of_mem m hk))
        (fun k hk => hns k (List.mem_cons_of_mem n hk)) (Nat.succ.inj hlength) htail]

/-- The number with these digits in base `2 ^ width`, highest first. -/
def number (width : ℕ) (ns : List ℕ) : ℕ := ns.foldl (fun m n => m * 2 ^ width + n) 0

theorem bits_append_stream {width : ℕ} {ns : List ℕ} (h : ∀ n ∈ ns, n < 2 ^ width) (high m : ℕ) :
    bits high m ++ stream width ns =
      bits (high + width * ns.length) (ns.foldl (fun m n => m * 2 ^ width + n) m) := by
  -- What has been read so far is a number too, so it goes along in the induction.
  induction ns generalizing high m with
  | nil => simp [stream]
  | cons n ns ih =>
      have hwidth : high + width + width * ns.length = high + width * (n :: ns).length := by
        rw [List.length_cons, Nat.mul_succ, Nat.add_assoc, Nat.add_comm width]
      rw [stream, List.flatMap_cons, ← List.append_assoc, bits_append (h n List.mem_cons_self),
        ← stream, ih fun k hk => h k (List.mem_cons_of_mem n hk), hwidth, List.foldl_cons]

theorem stream_eq_bits {width : ℕ} {ns : List ℕ} (h : ∀ n ∈ ns, n < 2 ^ width) :
    stream width ns = bits (width * ns.length) (number width ns) := by
  have hbits := bits_append_stream h 0 0
  rwa [bits, List.nil_append, Nat.zero_add] at hbits

/-! ## Places in the alphabet -/

theorem map_map_of_cancel {α β : Type} {f : α → β} {g : β → α} {xs : List α}
    (h : ∀ x ∈ xs, g (f x) = x) : (xs.map f).map g = xs := by
  rw [List.map_map]
  exact (List.map_congr_left h).trans (List.map_id xs)

namespace Alphabet
variable {a : Alphabet} {c : Char}

/-- The number that a symbol stands for. -/
def place (a : Alphabet) (c : Char) : ℕ := a.symbols.idxOf c

theorem place_symbol {n : ℕ} (h : n < 64) : a.place (a.symbol n) = n :=
  (List.findIdx?_eq_some_iff_findIdx_eq.mp (a.value?_symbol n h)).2

theorem value?_of_mem (h : c ∈ a.symbols) : a.value? c = some (a.place c) :=
  List.findIdx?_eq_some_of_exists ⟨c, h, beq_self_eq_true c⟩

theorem symbol_place (h : c ∈ a.symbols) : a.place c < 64 ∧ a.symbol (a.place c) = c :=
  symbol_of_value? (value?_of_mem h)

end Alphabet

/-! ## Spelling -/

variable {a : Alphabet} {s s' : List Char} {bytes : List UInt8}

/-- The bits of the symbols are those of the bytes and no more zeros than the last symbol needs. -/
structure Spells (a : Alphabet) (s : List Char) (bytes : List UInt8) : Prop where
  symbols : ∀ c ∈ s, c ∈ a.symbols
  filled : ∃ n < 6,
    stream 6 (s.map a.place) = stream 8 (bytes.map UInt8.toNat) ++ List.replicate n false

namespace Spells

theorem length_of_bits {n : ℕ}
    (h : stream 6 (s.map a.place) = stream 8 (bytes.map UInt8.toNat) ++ List.replicate n false) :
    6 * s.length = 8 * bytes.length + n := by
  have hlength := congrArg List.length h
  rwa [List.length_append, length_stream, length_stream, List.length_map, List.length_map,
    List.length_replicate] at hlength

theorem place_lt (h : Spells a s bytes) : ∀ m ∈ s.map a.place, m < 2 ^ 6 := fun m hm => by
  obtain ⟨c, hc, rfl⟩ := List.mem_map.mp hm
  exact (Alphabet.symbol_place (h.symbols c hc)).1

theorem map_symbol (h : Spells a s bytes) : (s.map a.place).map a.symbol = s :=
  map_map_of_cancel fun c hc => (Alphabet.symbol_place (h.symbols c hc)).2

theorem unique (h : Spells a s bytes) (h' : Spells a s' bytes) : s = s' := by
  obtain ⟨n, hn, hbits⟩ := h.filled
  obtain ⟨n', hn', hbits'⟩ := h'.filled
  have hlength := length_of_bits hbits
  have hlength' := length_of_bits hbits'
  -- Fewer than six zeros: the number of bytes alone says how many.
  obtain rfl : n = n' := by omega
  have hsame : s.map a.place = s'.map a.place := by
    refine eq_of_stream h.place_lt h'.place_lt ?_ (hbits.trans hbits'.symm)
    rw [List.length_map, List.length_map]
    omega
  rw [← h.map_symbol, hsame, h'.map_symbol]

end Spells

/-! ## What is written -/

/-- The symbols of digits of a number that is the bytes' number, filled up with zero bits. -/
theorem stream_symbols (a : Alphabet) (digits : List ℕ) (bytes : List UInt8) (n : ℕ)
    (hdigits : ∀ d ∈ digits, d < 2 ^ 6) (hlength : 6 * digits.length = 8 * bytes.length + n)
    (hvalue : number 6 digits = number 8 (bytes.map UInt8.toNat) * 2 ^ n) :
    stream 6 ((digits.map a.symbol).map a.place) =
      stream 8 (bytes.map UInt8.toNat) ++ List.replicate n false := by
  have hplaces : (digits.map a.symbol).map a.place = digits :=
    map_map_of_cancel fun d hd => Alphabet.place_symbol (hdigits d hd)
  have hbytes : ∀ b ∈ bytes.map UInt8.toNat, b < 2 ^ 8 := fun m hm => by
    obtain ⟨b, -, rfl⟩ := List.mem_map.mp hm
    exact b.toNat_lt
  have hmod : number 6 digits % 2 ^ n = 0 % 2 ^ n := by rw [hvalue, Nat.mul_mod_left, Nat.zero_mod]
  calc stream 6 ((digits.map a.symbol).map a.place)
      = bits (8 * bytes.length + n) (number 6 digits) := by
        rw [hplaces, stream_eq_bits hdigits, hlength]
    _ = bits (8 * bytes.length) (number 8 (bytes.map UInt8.toNat)) ++ bits n 0 := by
        rw [bits_add, bits_eq_iff.mpr hmod, hvalue, Nat.mul_div_cancel _ (Nat.two_pow_pos n)]
    _ = stream 8 (bytes.map UInt8.toNat) ++ List.replicate n false := by
        rw [stream_eq_bits hbytes, List.length_map, bits_zero]

theorem spells_encode (a : Alphabet) (bytes : List UInt8) : Spells a (encode a bytes) bytes := by
  refine ⟨fun c => mem_symbols_of_mem_encode, ?_⟩
  fun_induction encode a bytes with
  | case1 => exact ⟨0, by decide, rfl⟩
  | case2 x n =>
      have hx := x.toNat_lt
      refine ⟨4, by decide, stream_symbols a [n / 4, n % 4 * 16] [x] 4 ?_ rfl ?_⟩
      · simp only [List.forall_mem_cons, List.not_mem_nil, false_imp_iff, implies_true, and_true]
        omega
      · simp only [number, List.map_cons, List.map_nil, List.foldl_cons, List.foldl_nil]
        omega
  | case3 x y n =>
      have hx := x.toNat_lt
      have hy := y.toNat_lt
      refine ⟨2, by decide,
        stream_symbols a [n / 1024, n / 16 % 64, n % 16 * 4] [x, y] 2 ?_ rfl ?_⟩
      · simp only [List.forall_mem_cons, List.not_mem_nil, false_imp_iff, implies_true, and_true]
        omega
      · simp only [number, List.map_cons, List.map_nil, List.foldl_cons, List.foldl_nil]
        omega
  | case4 x y z r n ih =>
      have hx := x.toNat_lt
      have hy := y.toNat_lt
      have hz := z.toNat_lt
      have hgroup := stream_symbols a [n / 262144, n / 4096 % 64, n / 64 % 64, n % 64] [x, y, z] 0
        (by
          simp only [List.forall_mem_cons, List.not_mem_nil, false_imp_iff, implies_true, and_true]
          omega)
        rfl
        (by
          simp only [number, List.map_cons, List.map_nil, List.foldl_cons, List.foldl_nil]
          omega)
      obtain ⟨k, hk, hrest⟩ := ih
      refine ⟨k, hk, ?_⟩
      calc stream 6 (([n / 262144, n / 4096 % 64, n / 64 % 64, n % 64].map a.symbol ++
              encode a r).map a.place)
          = stream 8 ([x, y, z].map UInt8.toNat) ++ stream 6 ((encode a r).map a.place) := by
            rw [List.map_append, stream_append, hgroup, List.replicate_zero, List.append_nil]
        _ = stream 8 (([x, y, z] ++ r).map UInt8.toNat) ++ List.replicate k false := by
            rw [hrest, List.map_append, stream_append, List.append_assoc]

theorem decode_eq_some_iff : decode a s = some bytes ↔ Spells a s bytes := by
  refine ⟨fun h => encode_of_decode h ▸ spells_encode a bytes, fun h => ?_⟩
  rw [h.unique (spells_encode a bytes), decode_encode]

/-! ## What spells nothing -/

/-- Why symbols spell no bytes: one of them is not in the alphabet, like the sign that other forms
are filled up with; a single one is left over; or in the last one a bit is set that belongs to no
byte. -/
inductive Flawed (a : Alphabet) (s : List Char) : Prop where
  | sign (c : Char) : c ∈ s → c ∉ a.symbols → Flawed a s
  | single : s.length % 4 = 1 → Flawed a s
  | spare (before : List Char) (c : Char) : s = before ++ [c] →
      a.place c % 2 ^ (6 * s.length % 8) ≠ 0 → Flawed a s

theorem Spells.not_flawed (h : Spells a s bytes) : ¬Flawed a s := by
  obtain ⟨n, hn, hbits⟩ := h.filled
  have hlength := length_of_bits hbits
  rintro (⟨c, hc, hother⟩ | hsingle | ⟨before, c, rfl, hspare⟩)
  · exact hother (h.symbols c hc)
  · omega
  · have hzeros : 6 * (before ++ [c]).length % 8 = n := by omega
    rw [hzeros] at hspare
    -- The zeros are the last bits of the last symbol.
    have hlast : bits 6 (a.place c) = bits (6 - n) (a.place c / 2 ^ n) ++ bits n (a.place c) := by
      rw [← bits_add, Nat.sub_add_cancel hn.le]
    rw [List.map_append, stream_append, List.map_singleton, stream, stream, List.flatMap_singleton,
      hlast, ← List.append_assoc] at hbits
    have hend := (List.append_inj' hbits (by rw [length_bits, List.length_replicate])).2
    rw [← bits_zero, bits_eq_iff, Nat.zero_mod] at hend
    exact hspare hend

theorem Flawed.append {first : List Char} (hfour : first.length = 4) (h : Flawed a s) :
    Flawed a (first ++ s) := by
  have hlength : (first ++ s).length = 4 + s.length := by rw [List.length_append, hfour]
  rcases h with ⟨c, hc, hother⟩ | hsingle | ⟨before, c, rfl, hspare⟩
  · exact .sign c (List.mem_append_right first hc) hother
  · exact .single (by omega)
  · have hsame : 6 * (first ++ (before ++ [c])).length % 8 = 6 * (before ++ [c]).length % 8 := by
      omega
    exact .spare (first ++ before) c (List.append_assoc ..).symm (hsame ▸ hspare)

theorem exists_decode (h : ¬Flawed a s) : ∃ bytes, decode a s = some bytes := by
  have hvalue : ∀ c ∈ s, a.value? c = some (a.place c) := fun c hc =>
    Alphabet.value?_of_mem (by_contra fun hother => h (.sign c hc hother))
  fun_induction decode a s with
  | case1 => exact ⟨[], rfl⟩
  | case2 => exact absurd (.single rfl) h
  | case3 p q =>
      have hspare : a.place q % 16 = 0 := by_contra fun hspare =>
        h (.spare [p] q rfl (by simpa using hspare))
      simp only [hvalue p (by simp), hvalue q (by simp), Option.bind_eq_bind, Option.bind_some]
      rw [if_pos (by omega)]
      exact ⟨_, rfl⟩
  | case4 p q r =>
      have hspare : a.place r % 4 = 0 := by_contra fun hspare =>
        h (.spare [p, q] r rfl (by simpa using hspare))
      simp only [hvalue p (by simp), hvalue q (by simp), hvalue r (by simp), Option.bind_eq_bind,
        Option.bind_some]
      rw [if_pos (by omega)]
      exact ⟨_, rfl⟩
  | case5 p q r t rest ih =>
      have hfour : [p, q, r, t].length = 4 := rfl
      obtain ⟨bytes, hrest⟩ := ih (fun hflaw => h (hflaw.append hfour))
        fun c hc => hvalue c (List.mem_append_right [p, q, r, t] hc)
      simp only [hvalue p (by simp), hvalue q (by simp), hvalue r (by simp), hvalue t (by simp),
        hrest, Option.bind_eq_bind, Option.bind_some]
      exact ⟨_, rfl⟩

theorem decode_eq_none_iff : decode a s = none ↔ Flawed a s := by
  refine ⟨fun h => by_contra fun hflaw => ?_, fun h => ?_⟩
  · obtain ⟨bytes, hbytes⟩ := exists_decode hflaw
    exact nomatch h.symm.trans hbytes
  · cases hread : decode a s with
    | none => rfl
    | some bytes => exact absurd h (decode_eq_some_iff.mp hread).not_flawed

end Crowdlending.Codec.Base64
