/-!
# White space, trimming and cutting

White space is the Unicode property `White_Space`. Texts are cut and trimmed as
lists of characters, so that each law is an induction on the list.
-/
namespace Crowdlending.Text

/-- The code points with the property `White_Space`. -/
def isBlank (c : Char) : Bool :=
  let n := c.toNat
  (9 ≤ n && n ≤ 13) || n == 0x20 || n == 0x85 || n == 0xA0 || n == 0x1680 ||
    (0x2000 ≤ n && n ≤ 0x200A) || n == 0x2028 || n == 0x2029 || n == 0x202F ||
    n == 0x205F || n == 0x3000

def trimChars (s : List Char) : List Char :=
  ((s.dropWhile isBlank).reverse.dropWhile isBlank).reverse

/-- The text without white space at its ends. -/
def trim (s : String) : String := String.ofList (trimChars s.toList)

/-- The pieces between the separators: one more than there are separators. -/
def cut (sep : Char) : List Char → List (List Char)
  | [] => [[]]
  | c :: r =>
      if c = sep then [] :: cut sep r
      else match cut sep r with
        | [] => [[c]]
        | p :: ps => (c :: p) :: ps

/-- The parts before and after the first separator. -/
def cutFirst (sep : Char) : List Char → Option (List Char × List Char)
  | [] => none
  | c :: r =>
      if c = sep then some ([], r)
      else (cutFirst sep r).map fun p => (c :: p.1, p.2)

/-- The parts before and after the last separator. -/
def cutLast (sep : Char) (s : List Char) : Option (List Char × List Char) :=
  (cutFirst sep s.reverse).map fun p => (p.2.reverse, p.1.reverse)

/-- What follows the given beginning, if the text begins so. -/
def after? : List Char → List Char → Option (List Char)
  | [], s => some s
  | _ :: _, [] => none
  | a :: as, c :: s => if a = c then after? as s else none

def lowerAscii (s : String) : String := String.ofList (s.toList.map Char.toLower)

theorem cut_ne_nil (sep : Char) (s : List Char) : cut sep s ≠ [] := by
  cases s with
  | nil => simp [cut]
  | cons c r =>
      simp only [cut]
      split
      · simp
      · split <;> simp

theorem cutFirst_eq_some {sep : Char} {s a b : List Char} (h : cutFirst sep s = some (a, b)) :
    s = a ++ sep :: b ∧ sep ∉ a := by
  induction s generalizing a with
  | nil => simp [cutFirst] at h
  | cons c r ih =>
      simp only [cutFirst] at h
      split at h
      · next hc => cases h; exact ⟨by simp [hc], by simp⟩
      · next hc =>
          obtain ⟨p, hp, he⟩ := Option.map_eq_some_iff.1 h
          cases he
          obtain ⟨hr, hn⟩ := ih hp
          refine ⟨by simp [← hr], ?_⟩
          simp only [List.mem_cons, not_or]
          exact ⟨fun e => hc e.symm, hn⟩

/-- The number of bytes of a text in UTF-8. -/
def byteLength (s : List Char) : Nat := (String.ofList s).utf8ByteSize

end Crowdlending.Text
