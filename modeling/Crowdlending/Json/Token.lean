import Crowdlending.Json.Document

/-!
# Lexemes of JSON

The bytes of a text are cut into lexemes by a finite automaton that sees one
byte at a time. A byte that fits nowhere, and a lexeme that never ends, give
the lexeme `bad`, after which nothing is read.
-/
namespace Crowdlending.Json

inductive Token where
  | openList
  | closeList
  | openRecord
  | closeRecord
  | comma
  | colon
  | leaf (value : Doc)
  | bad

/-- How far a number has been read. -/
inductive NumberPhase where
  | minus
  | zero
  | whole
  | point
  | fraction
  | mark
  | sign
  | exponent
deriving Repr, DecidableEq

structure NumberSoFar where
  phase : NumberPhase
  value : Numeral
  exponentNegative : Bool
  exponentDigits : Nat
deriving Repr, DecidableEq

namespace NumberSoFar

def start (phase : NumberPhase) (negative : Bool) (digit : Nat) : NumberSoFar :=
  ⟨phase, ⟨negative, digit, 0, true, 0⟩, false, 0⟩

/-- The number, if it may end here. -/
def finish? (n : NumberSoFar) : Option Numeral :=
  match n.phase with
  | .zero | .whole | .fraction => some n.value
  | .exponent =>
      let e : Int := n.exponentDigits
      some { n.value with exponent := if n.exponentNegative then -e else e }
  | _ => none

def isDigit (b : UInt8) : Bool := 48 ≤ b && b ≤ 57

def pushWhole (n : NumberSoFar) (phase : NumberPhase) (b : UInt8) : NumberSoFar :=
  { n with phase, value := { n.value with digits := n.value.digits * 10 + (b.toNat - 48) } }

def pushPlace (n : NumberSoFar) (b : UInt8) : NumberSoFar :=
  { n with
    phase := .fraction
    value := { n.value with
      digits := n.value.digits * 10 + (b.toNat - 48), places := n.value.places + 1 } }

def pushExponent (n : NumberSoFar) (b : UInt8) : NumberSoFar :=
  { n with phase := .exponent, exponentDigits := n.exponentDigits * 10 + (b.toNat - 48) }

def enter (n : NumberSoFar) (phase : NumberPhase) : NumberSoFar :=
  { n with phase, value := { n.value with plain := false } }

/-- One more byte: the longer number, or `none` when the byte is not part of it. -/
def push? (n : NumberSoFar) (b : UInt8) : Option NumberSoFar :=
  let isMark := b == 101 || b == 69
  match n.phase with
  | .minus => if b == 48 then some (n.pushWhole .zero b)
      else if isDigit b then some (n.pushWhole .whole b) else none
  | .zero =>
      if b == 46 then some (n.enter .point) else if isMark then some (n.enter .mark) else none
  | .whole =>
      if isDigit b then some (n.pushWhole .whole b)
      else if b == 46 then some (n.enter .point)
      else if isMark then some (n.enter .mark) else none
  | .point => if isDigit b then some (n.pushPlace b) else none
  | .fraction => if isDigit b then some (n.pushPlace b)
      else if isMark then some (n.enter .mark) else none
  | .mark =>
      if b == 43 then some { n with phase := .sign }
      else if b == 45 then some { n with phase := .sign, exponentNegative := true }
      else if isDigit b then some (n.pushExponent b) else none
  | .sign | .exponent => if isDigit b then some (n.pushExponent b) else none

/-- A digit after a leading zero spoils the number. -/
def isSpoiledBy (n : NumberSoFar) (b : UInt8) : Bool :=
  n.finish?.isNone || (n.phase == .zero && isDigit b)

end NumberSoFar

/-- A text in quotes as far as it has been read. -/
structure TextSoFar where
  /-- The bytes, newest first. -/
  bytes : List UInt8
  /-- The first half of a surrogate pair stands last. -/
  half : Option Nat
  /-- Every half so far has found its partner. -/
  sound : Bool
deriving Repr, DecidableEq

namespace TextSoFar

def pushByte (t : TextSoFar) (b : UInt8) : TextSoFar :=
  { t with bytes := b :: t.bytes, half := none, sound := t.sound && t.half.isNone }

def pushChar (t : TextSoFar) (c : Char) : TextSoFar :=
  { t with bytes := c.toString.toUTF8.toList.reverse ++ t.bytes, half := none,
           sound := t.sound && t.half.isNone }

/-- A unit of 16 bits written as an escape. -/
def pushUnit (t : TextSoFar) (u : Nat) : TextSoFar :=
  if 0xD800 ≤ u ∧ u ≤ 0xDBFF then
    { t with half := some u, sound := t.sound && t.half.isNone }
  else if 0xDC00 ≤ u ∧ u ≤ 0xDFFF then
    match t.half with
    | some h =>
        { t with half := none }.pushChar
          (Char.ofNat (0x10000 + (h - 0xD800) * 0x400 + (u - 0xDC00)))
    | none => { t with sound := false }
  else t.pushChar (Char.ofNat u)

def finish (t : TextSoFar) : Option String :=
  if t.sound && t.half.isNone then String.fromUTF8? ⟨t.bytes.reverse.toArray⟩ else none

end TextSoFar

/-- What the automaton is in the middle of. -/
inductive Mode where
  | gap
  | word (rest : List UInt8) (value : Doc)
  | number (n : NumberSoFar)
  | inText (t : TextSoFar)
  | escape (t : TextSoFar)
  | unit (t : TextSoFar) (digits : Nat) (value : Nat)

def isGap (b : UInt8) : Bool := b == 32 || b == 9 || b == 10 || b == 13

def hexDigit? (b : UInt8) : Option Nat :=
  if 48 ≤ b && b ≤ 57 then some (b.toNat - 48)
  else if 97 ≤ b && b ≤ 102 then some (b.toNat - 87)
  else if 65 ≤ b && b ≤ 70 then some (b.toNat - 55)
  else none

def escaped? (b : UInt8) : Option Char :=
  if b == 34 then some '"'
  else if b == 92 then some '\\'
  else if b == 47 then some '/'
  else if b == 98 then some '\x08'
  else if b == 102 then some '\x0c'
  else if b == 110 then some '\n'
  else if b == 114 then some '\r'
  else if b == 116 then some '\t'
  else none

/-- The byte begins a lexeme: the lexeme itself if it is one byte long, else the mode to go on
in. -/
def begin (b : UInt8) : Except Token Mode :=
  if b == 91 then .error .openList
  else if b == 93 then .error .closeList
  else if b == 123 then .error .openRecord
  else if b == 125 then .error .closeRecord
  else if b == 44 then .error .comma
  else if b == 58 then .error .colon
  else if b == 34 then .ok (.inText ⟨[], none, true⟩)
  else if b == 45 then .ok (.number (.start .minus true 0))
  else if b == 48 then .ok (.number (.start .zero false 0))
  else if NumberSoFar.isDigit b then .ok (.number (.start .whole false (b.toNat - 48)))
  else if b == 110 then .ok (.word "ull".toUTF8.toList .null)
  else if b == 116 then .ok (.word "rue".toUTF8.toList (.bool true))
  else if b == 102 then .ok (.word "alse".toUTF8.toList (.bool false))
  else if isGap b then .ok .gap
  else .error .bad

/-- The lexemes of the bytes left. -/
def lex : Mode → List UInt8 → List Token
  | .gap, [] => []
  | .number n, [] =>
      match n.finish? with
      | some v => [.leaf (.number v)]
      | none => [.bad]
  | _, [] => [.bad]
  | .gap, b :: r =>
      match begin b with
      | .error .bad => [.bad]
      | .error t => t :: lex .gap r
      | .ok m => lex m r
  | .word [] _, _ => [.bad]
  | .word [w] value, b :: r => if b == w then .leaf value :: lex .gap r else [.bad]
  | .word (w :: ws) value, b :: r => if b == w then lex (.word ws value) r else [.bad]
  | .number n, b :: r =>
      match n.push? b with
      | some n' => lex (.number n') r
      | none =>
          if n.isSpoiledBy b then [.bad]
          else match n.finish? with
            | none => [.bad]
            | some v =>
                .leaf (.number v) :: match begin b with
                  | .error .bad => [.bad]
                  | .error t => t :: lex .gap r
                  | .ok m => lex m r
  | .inText t, b :: r =>
      if b == 34 then .leaf (.text t.finish) :: lex .gap r
      else if b == 92 then lex (.escape t) r
      else if b < 32 then [.bad]
      else lex (.inText (t.pushByte b)) r
  | .escape t, b :: r =>
      if b == 117 then lex (.unit t 0 0) r
      else match escaped? b with
        | some c => lex (.inText (t.pushChar c)) r
        | none => [.bad]
  | .unit t digits value, b :: r =>
      match hexDigit? b with
      | none => [.bad]
      | some d =>
          if digits = 3 then lex (.inText (t.pushUnit (value * 16 + d))) r
          else lex (.unit t (digits + 1) (value * 16 + d)) r

/-- Inside a text a byte ends it, begins an escape or is part of it, and a control is refused. -/
theorem lex_inText (t : TextSoFar) (b : UInt8) (rest : List UInt8) :
    lex (.inText t) (b :: rest) =
      if b == 34 then .leaf (.text t.finish) :: lex .gap rest
      else if b == 92 then lex (.escape t) rest
      else if b < 32 then [.bad]
      else lex (.inText (t.pushByte b)) rest := by
  rw [lex]

def tokens (bytes : List UInt8) : List Token := lex .gap bytes

end Crowdlending.Json
