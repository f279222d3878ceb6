/-!
# Percent signs in addresses

A percent sign and two digits to base sixteen stand for a byte. A percent sign that is not
followed by two such digits stands for itself.
-/
namespace Crowdlending.Text

def hexValue? (b : UInt8) : Option UInt8 :=
  if 48 ≤ b ∧ b ≤ 57 then some (b - 48)
  else if 65 ≤ b ∧ b ≤ 70 then some (b - 55)
  else if 97 ≤ b ∧ b ≤ 102 then some (b - 87)
  else none

def percentDecode : List UInt8 → List UInt8
  | [] => []
  | 0x25 :: a :: b :: r =>
      match hexValue? a, hexValue? b with
      | some x, some y => (x * 16 + y) :: percentDecode r
      | _, _ => 0x25 :: percentDecode (a :: b :: r)
  | b :: r => b :: percentDecode r

/-- The text that is left when every percent sign is resolved, if the bytes are one. -/
def percentDecodeText? (s : String) : Option String :=
  String.fromUTF8? ⟨(percentDecode s.toUTF8.toList).toArray⟩

end Crowdlending.Text
