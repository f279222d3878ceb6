/-!
# Base 64

Three bytes are written as four symbols; one or two bytes left over are written
as two or three. Reading is strict: the bits of the last symbol that stand for
no byte must be zero, so each list of bytes has exactly one written form.
-/
namespace Crowdlending.Codec.Base64

inductive Alphabet where
  | standard
  | urlSafe
  | crypt
deriving Repr, DecidableEq

def letters : List Char := "ABCDEFGHIJKLMNOPQRSTUVWXYZabcdefghijklmnopqrstuvwxyz".toList
def digits : List Char := "0123456789".toList

namespace Alphabet

/-- The 64 symbols in the order of their values. -/
def symbols : Alphabet → List Char
  | standard => letters ++ digits ++ ['+', '/']
  | urlSafe => letters ++ digits ++ ['-', '_']
  | crypt => ['.', '/'] ++ letters ++ digits

def symbol (a : Alphabet) (n : Nat) : Char := a.symbols.getD n 'A'

def value? (a : Alphabet) (c : Char) : Option Nat := a.symbols.findIdx? (· == c)

end Alphabet

def encode (a : Alphabet) : List UInt8 → List Char
  | [] => []
  | [x] =>
      let n := x.toNat
      [a.symbol (n / 4), a.symbol (n % 4 * 16)]
  | [x, y] =>
      let n := x.toNat * 256 + y.toNat
      [a.symbol (n / 1024), a.symbol (n / 16 % 64), a.symbol (n % 16 * 4)]
  | x :: y :: z :: r =>
      let n := x.toNat * 65536 + y.toNat * 256 + z.toNat
      a.symbol (n / 262144) :: a.symbol (n / 4096 % 64) :: a.symbol (n / 64 % 64) ::
        a.symbol (n % 64) :: encode a r

def decode (a : Alphabet) : List Char → Option (List UInt8)
  | [] => some []
  | [_] => none
  | [p, q] => do
      let n := (← a.value? p) * 64 + (← a.value? q)
      if n % 16 = 0 then some [(n / 16).toUInt8] else none
  | [p, q, r] => do
      let n := (← a.value? p) * 4096 + (← a.value? q) * 64 + (← a.value? r)
      if n % 4 = 0 then some [(n / 1024).toUInt8, (n / 4).toUInt8] else none
  | p :: q :: r :: s :: rest => do
      let n := (← a.value? p) * 262144 + (← a.value? q) * 4096 + (← a.value? r) * 64 +
        (← a.value? s)
      let bytes ← decode a rest
      some ((n / 65536).toUInt8 :: (n / 256).toUInt8 :: n.toUInt8 :: bytes)

/-- Reads a form filled up with `=` to a multiple of four symbols. -/
def decodePadded (a : Alphabet) (s : List Char) : Option (List UInt8) :=
  if s.length % 4 ≠ 0 then none
  else match s.reverse with
    | '=' :: '=' :: r => decode a r.reverse
    | '=' :: r => decode a r.reverse
    | r => decode a r.reverse

def encodeText (a : Alphabet) (bytes : List UInt8) : String := String.ofList (encode a bytes)
def decodeText (a : Alphabet) (s : String) : Option (List UInt8) := decode a s.toList

end Crowdlending.Codec.Base64
