/-!
# The binary digits of the circle number

Machin's formula in integers: 16 arctan (1/5) - 4 arctan (1/239), with guard
bits that absorb what the divisions drop.
-/
namespace Crowdlending.Crypto.Circle

/-- The terms of the series of arctan (1/q), each divided by its odd number. -/
def arctanFrom (square : Nat) : Nat → Nat → Nat → Bool → Int → Int
  | 0, _, _, _, sum => sum
  | fuel + 1, power, odd, negative, sum =>
      if power = 0 then sum
      else
        let term : Int := (power / odd : Nat)
        arctanFrom square fuel (power / square) (odd + 2) (!negative)
          (if negative then sum - term else sum + term)

/-- arctan (1/q) times `unit`. -/
def arctan (unit q : Nat) : Int := arctanFrom (q * q) unit.log2 (unit / q) 1 false 0

def guardBits : Nat := 128

/-- The first `bits` binary digits after the point. -/
def fraction (bits : Nat) : Nat :=
  let unit := 1 <<< (bits + guardBits)
  let whole := (16 * arctan unit 5 - 4 * arctan unit 239).toNat
  (whole >>> guardBits) % (1 <<< bits)

/-- The first words of 32 digits each. -/
def words (count : Nat) : Array UInt32 :=
  let f := fraction (32 * count)
  ((List.range count).map fun i => (f >>> (32 * (count - 1 - i))).toUInt32).toArray

end Crowdlending.Crypto.Circle
