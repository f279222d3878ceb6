import Crowdlending.Text.Blank
import Crowdlending.Text.Quoted
import Crowdlending.Number.Numeral

/-!
# Durations

A duration is a sequence of groups, each a number and a unit: `15m`, `1h30m`.
Its length in seconds is the sum of its groups and lies between 1 and the
largest number of 64 bits.
-/
namespace Crowdlending.Settings
open Text Number

inductive DurationFault where
  | empty
  | unknownUnit (unit : Char) (text : String)
  | missingNumber (unit : Char) (text : String)
  | overflow (text : String)
  | missingUnit (text : String)
  | notPositive
deriving Repr, DecidableEq

def DurationFault.message : DurationFault → String
  | .empty => "empty duration"
  | .unknownUnit c text => "unknown unit '" ++ c.toString ++ "' in " ++ quoted text
  | .missingNumber c text => "missing number before '" ++ c.toString ++ "' in " ++ quoted text
  | .overflow text => "duration " ++ quoted text ++ " overflows"
  | .missingUnit text => "missing unit in " ++ quoted text
  | .notPositive => "duration must be positive"

def unitSeconds? : Char → Option Nat
  | 's' => some 1
  | 'm' => some 60
  | 'h' => some 3600
  | _ => none

/-- Reads the rest of the text; `digits` are those of the group begun, newest first. -/
def readGroups (text : String) (total : Nat) (digits : List Char) :
    List Char → Except DurationFault Nat
  | [] =>
      if ¬digits.isEmpty then .error (.missingUnit text)
      else if total = 0 then .error .notPositive
      else .ok total
  | c :: r =>
      if (digit? c).isSome then readGroups text total (c :: digits) r
      else match unitSeconds? c with
        | none => .error (.unknownUnit c text)
        | some unit =>
            match readNat maxU64 digits.reverse with
            | .error _ => .error (.missingNumber c text)
            | .ok n =>
                if n * unit ≤ maxU64 ∧ total + n * unit ≤ maxU64 then
                  readGroups text (total + n * unit) [] r
                else .error (.overflow text)

/-- The length in seconds. -/
def readDuration (s : String) : Except DurationFault Nat :=
  let text := trim s
  if text.isEmpty then .error .empty else readGroups text 0 [] text.toList

end Crowdlending.Settings
