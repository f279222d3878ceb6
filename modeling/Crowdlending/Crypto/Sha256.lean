/-!
# SHA-256

The hash of a list of bytes, by the rounds of FIPS 180-4. The constants are
the first 32 bits of the fractions of the square and cube roots of the first
primes, taken as integer roots.
-/
namespace Crowdlending.Crypto.Sha256

def primes : List Nat :=
  [2, 3, 5, 7, 11, 13, 17, 19, 23, 29, 31, 37, 41, 43, 47, 53, 59, 61, 67, 71, 73, 79, 83, 89, 97,
    101, 103, 107, 109, 113, 127, 131, 137, 139, 149, 151, 157, 163, 167, 173, 179, 181, 191, 193,
    197, 199, 211, 223, 227, 229, 233, 239, 241, 251, 257, 263, 269, 271, 277, 281, 283, 293, 307,
    311]

/-- The largest number whose power is at most `n`, given that it has at most `bits` bits. -/
def root (power n : Nat) : Nat → Nat → Nat
  | 0, acc => acc
  | bit + 1, acc =>
      let next := acc + (1 <<< bit)
      root power n bit (if next.pow power ≤ n then next else acc)

/-- The first 32 bits of the fraction of a root. -/
def rootFraction (power n : Nat) : UInt32 :=
  (root power (n <<< (32 * power)) 40 0).toUInt32

def initial : Array UInt32 := ((primes.take 8).map (rootFraction 2)).toArray
def roundConstants : Array UInt32 := (primes.map (rootFraction 3)).toArray

def rotateRight (x n : UInt32) : UInt32 := (x >>> n) ||| (x <<< (32 - n))

/-- The message with its one bit, its zeros and its length. -/
def pad (message : List UInt8) : List UInt8 :=
  let n := message.length
  let zeros := (119 - n % 64) % 64
  let length := (List.range 8).map fun i => Nat.toUInt8 ((8 * n) >>> (8 * (7 - i)))
  message ++ 0x80 :: List.replicate zeros 0 ++ length

/-- Four bytes to a word. -/
def words : List UInt8 → List UInt32
  | a :: b :: c :: d :: r =>
      ((a.toUInt32 <<< 24) ||| (b.toUInt32 <<< 16) ||| (c.toUInt32 <<< 8) ||| d.toUInt32) :: words r
  | _ => []

/-- Extends sixteen words to sixty-four. -/
def schedule (block : Array UInt32) : Array UInt32 :=
  (List.range 48).foldl (fun w i =>
    let x := w.getD (i + 1) 0
    let y := w.getD (i + 14) 0
    let s0 := rotateRight x 7 ^^^ rotateRight x 18 ^^^ (x >>> 3)
    let s1 := rotateRight y 17 ^^^ rotateRight y 19 ^^^ (y >>> 10)
    w.push (w.getD i 0 + s0 + w.getD (i + 9) 0 + s1)) block

structure Registers where
  a : UInt32
  b : UInt32
  c : UInt32
  d : UInt32
  e : UInt32
  f : UInt32
  g : UInt32
  h : UInt32

def Registers.round (r : Registers) (k w : UInt32) : Registers :=
  let s1 := rotateRight r.e 6 ^^^ rotateRight r.e 11 ^^^ rotateRight r.e 25
  let choice := (r.e &&& r.f) ^^^ (~~~r.e &&& r.g)
  let t1 := r.h + s1 + choice + k + w
  let s0 := rotateRight r.a 2 ^^^ rotateRight r.a 13 ^^^ rotateRight r.a 22
  let majority := (r.a &&& r.b) ^^^ (r.a &&& r.c) ^^^ (r.b &&& r.c)
  ⟨t1 + (s0 + majority), r.a, r.b, r.c, r.d + t1, r.e, r.f, r.g⟩

def compress (state block : Array UInt32) : Array UInt32 :=
  let w := schedule block
  let s := fun i => state.getD i 0
  let r := (List.range 64).foldl
    (fun (r : Registers) i => r.round (roundConstants.getD i 0) (w.getD i 0))
    ⟨s 0, s 1, s 2, s 3, s 4, s 5, s 6, s 7⟩
  #[s 0 + r.a, s 1 + r.b, s 2 + r.c, s 3 + r.d, s 4 + r.e, s 5 + r.f, s 6 + r.g, s 7 + r.h]

/-- Takes in the words sixteen at a time; `fuel` bounds the number of blocks. -/
def absorb : Nat → Array UInt32 → List UInt32 → Array UInt32
  | 0, state, _ => state
  | fuel + 1, state, ws =>
      if ws.isEmpty then state
      else absorb fuel (compress state (ws.take 16).toArray) (ws.drop 16)

def wordBytes (w : UInt32) : List UInt8 :=
  [(w >>> 24).toUInt8, (w >>> 16).toUInt8, (w >>> 8).toUInt8, w.toUInt8]

def hash (message : List UInt8) : List UInt8 :=
  let ws := words (pad message)
  (absorb ws.length initial ws).toList.flatMap wordBytes

end Crowdlending.Crypto.Sha256
