import Crowdlending.Decimal.Basic
import Crowdlending.Failure
import Crowdlending.Token.Claims

/-!
# Metrics

Counters with few labels, and a histogram of invested amounts. The text of a
counter's key names the counter and its labels.
-/
namespace Crowdlending

namespace Metrics

inductive Transition where
  | create
  | approve
  | invest
  | disburse
deriving Repr, DecidableEq

def Transition.label : Transition → String
  | create => "create"
  | approve => "approve"
  | invest => "invest"
  | disburse => "disburse"

inductive Notice where
  | sent
  | error
  | dropped
deriving Repr, DecidableEq

def Notice.label : Notice → String
  | sent => "sent"
  | error => "error"
  | dropped => "dropped"

inductive Counter where
  | transition (kind : Transition) (success : Bool)
  | issuance (kind : Token.Kind) (success : Bool)
  | validation (success : Bool)
  | notification (outcome : Notice)
  | rpcError (code : RpcCode)
deriving Repr, DecidableEq

def statusLabel (success : Bool) : String := if success then "success" else "error"

def labelled (name : String) (labels : List (String × String)) : String :=
  name ++ "\x7b" ++ ",".intercalate (labels.map fun l => l.1 ++ "=\"" ++ l.2 ++ "\"") ++ "\x7d"

def Counter.key : Counter → String
  | transition kind success => labelled "lending_loan_transitions_total"
      [("transition", kind.label), ("status", statusLabel success)]
  | issuance kind success => labelled "lending_token_issuance_total"
      [("token_type", kind.name), ("status", statusLabel success)]
  | validation success => labelled "lending_token_validations_total"
      [("status", statusLabel success)]
  | notification outcome => labelled "lending_notifications_total" [("status", outcome.label)]
  | rpcError code => labelled "lending_grpc_errors_total" [("code", code.label)]

end Metrics

open Metrics in
structure Metrics where
  counts : List (Counter × Nat)
  /-- The invested amounts, newest first. -/
  amounts : List Decimal

namespace Metrics

def zero : Metrics := ⟨[], []⟩

def bump (c : Counter) : List (Counter × Nat) → List (Counter × Nat)
  | [] => [(c, 1)]
  | (d, n) :: r => if d = c then (d, n + 1) :: r else (d, n) :: bump c r

def add (m : Metrics) (c : Counter) : Metrics := { m with counts := bump c m.counts }

def addAmount (m : Metrics) (d : Decimal) : Metrics := { m with amounts := d :: m.amounts }

def count (m : Metrics) (c : Counter) : Nat := (m.counts.lookup c).getD 0

/-- The upper bounds of the histogram's buckets. -/
def bounds : List UInt32 :=
  [1000, 5000, 10000, 50000, 100000, 1000000, 10000000, 100000000]

/-- How many amounts lie at or below each bound, then how many there are. -/
def buckets (m : Metrics) : List (String × Nat) :=
  let name := "lending_investment_amount"
  let upTo := fun (b : UInt32) =>
    (labelled (name ++ "_bucket") [("le", toString b)],
      (m.amounts.filter fun d => decide (d ≤ Decimal.ofNat32 b)).length)
  bounds.map upTo ++
    [(labelled (name ++ "_bucket") [("le", "+Inf")], m.amounts.length),
      (name ++ "_count", m.amounts.length)]

/-- Every key with its number, without the zeros. -/
def entries (m : Metrics) : List (String × Nat) :=
  (m.counts.map fun c => (c.1.key, c.2)) ++ m.buckets.filter fun b => b.2 != 0

end Metrics

end Crowdlending
