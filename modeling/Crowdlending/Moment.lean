/-!
# Moments

Seconds since the beginning of 1970, and their written form.
-/
namespace Crowdlending

structure Moment where
  seconds : Int
deriving Repr, DecidableEq

namespace Moment

/-- The time as a cache counts it. -/
def milliseconds (m : Moment) : Nat := 1000 * m.seconds.toNat

/-- Year, month and day of a number of days since 1970-01-01. -/
def civil (days : Int) : Int × Int × Int :=
  let z := days + 719468
  let era := z.fdiv 146097
  let doe := z - era * 146097
  let yoe := (doe - doe / 1460 + doe / 36524 - doe / 146096) / 365
  let doy := doe - (365 * yoe + yoe / 4 - yoe / 100)
  let mp := (5 * doy + 2) / 153
  let day := doy - (153 * mp + 2) / 5 + 1
  let month := if mp < 10 then mp + 3 else mp - 9
  (yoe + era * 400 + (if month ≤ 2 then 1 else 0), month, day)

def padded (width : Nat) (n : Int) : String :=
  let s := toString n.natAbs
  String.ofList (List.replicate (width - s.length) '0') ++ s

/-- The date and the time of day, in universal time. -/
def text (m : Moment) : String :=
  let (year, month, day) := civil (m.seconds.fdiv 86400)
  let s := m.seconds.fmod 86400
  let years := if 0 ≤ year ∧ year ≤ 9999 then padded 4 year
    else (if year < 0 then "-" else "+") ++ padded 4 year
  years ++ "-" ++ padded 2 month ++ "-" ++ padded 2 day ++ "T" ++ padded 2 (s / 3600) ++ ":" ++
    padded 2 (s / 60 % 60) ++ ":" ++ padded 2 (s % 60) ++ "Z"

end Moment

end Crowdlending
