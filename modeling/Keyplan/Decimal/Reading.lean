import Keyplan.Decimal.Double

/-!
# Reading decimal numbers

Whole numbers of 64 bits, and decimal fractions with an optional exponent.
-/

namespace Keyplan.Decimal

/-- The number that decimal digits write. -/
def ofDigits (cs : List Char) : Nat :=
  cs.foldl (fun n c => 10 * n + (c.toNat - '0'.toNat)) 0

/-- Reads an optional sign; the result says whether it is a minus. -/
def sign : List Char → Bool × List Char
  | '+' :: cs => (false, cs)
  | '-' :: cs => (true, cs)
  | cs => (false, cs)

/-- The least whole number of 64 bits. -/
def minInt : Int := -0x8000000000000000

/-- The greatest whole number of 64 bits. -/
def maxInt : Int := 0x7FFFFFFFFFFFFFFF

/-- Reads a whole number that fits 64 bits with sign. -/
def readInt? (cs : List Char) : Option Int :=
  let (negative, digits) := sign cs
  if digits.isEmpty || !digits.all Char.isDigit then none
  else
    let n : Int := if negative then -(ofDigits digits : Int) else ofDigits digits
    if minInt ≤ n ∧ n ≤ maxInt then some n else none

/-- A decimal fraction: digits times a power of ten. -/
structure Fraction where
  /-- Whether a minus stands in front. -/
  negative : Bool
  /-- The digits as a whole number. -/
  mantissa : Nat
  /-- The power of ten. -/
  exponent : Int
  deriving DecidableEq, Repr

/-- Reads an optional exponent up to the end of the text. -/
def readExponent? : List Char → Option Int
  | [] => some 0
  | c :: cs =>
    if c = 'e' ∨ c = 'E' then
      let (negative, digits) := sign cs
      if digits.isEmpty || !digits.all Char.isDigit then none
      else some (if negative then -(ofDigits digits : Int) else ofDigits digits)
    else none

/-- Reads a decimal fraction. At least one digit stands before or after the point. -/
def readFraction? (cs : List Char) : Option Fraction :=
  let (negative, cs) := sign cs
  let whole := cs.takeWhile Char.isDigit
  let (part, rest) : List Char × List Char :=
    match cs.dropWhile Char.isDigit with
    | '.' :: rest => (rest.takeWhile Char.isDigit, rest.dropWhile Char.isDigit)
    | rest => ([], rest)
  if whole.isEmpty && part.isEmpty then none
  else
    (readExponent? rest).map fun exponent =>
      ⟨negative, ofDigits (whole ++ part), exponent - part.length⟩

/-- The bits of the nearest double without its sign. A number above `10 ^ 310` is infinite and one
below `10 ^ (-330)` is zero, so no power beyond these is computed. -/
def Fraction.magnitude (f : Fraction) : Nat :=
  if f.mantissa = 0 then 0
  else
    let top : Int := (Nat.toDigits 10 f.mantissa).length + f.exponent
    if 310 < top then infinityBits
    else if top < -330 then 0
    else if 0 ≤ f.exponent then nearest (f.mantissa * Nat.pow 10 f.exponent.toNat) 1
    else nearest f.mantissa (Nat.pow 10 (-f.exponent).toNat)

/-- The nearest double. -/
def Fraction.toFloat (f : Fraction) : Float :=
  Float.ofBits (UInt64.ofNat (f.magnitude + if f.negative then signBit else 0))

end Keyplan.Decimal
