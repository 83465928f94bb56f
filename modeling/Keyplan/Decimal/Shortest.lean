import Keyplan.Decimal.Double

/-!
# Shortest decimal text of a double

The digits are the fewest that read back as the same double, and of these the nearest to it; of two
that are equally near, the one with the even last digit. A number rounds to the double when it lies
in an interval around it, whose ends count when the double's mantissa is even.
-/

namespace Keyplan.Decimal

/-- A double and the interval that rounds to it, all over one denominator. -/
structure Interval where
  /-- The lower end. -/
  low : Nat
  /-- The double itself. -/
  value : Nat
  /-- The upper end. -/
  high : Nat
  /-- The common denominator. -/
  den : Nat
  /-- Whether the ends round to the double too. -/
  closed : Bool
  deriving Repr

/-- The interval around a positive double. Below a power of two the neighbours are twice as near. -/
def Parts.interval (p : Parts) : Interval :=
  let scale := Nat.pow 2 p.power.toNat
  let below := if p.mantissa = leadingBit ∧ minPower < p.power then 1 else 2
  { low := (4 * p.mantissa - below) * scale
    value := 4 * p.mantissa * scale
    high := (4 * p.mantissa + 2) * scale
    den := 4 * Nat.pow 2 (-p.power).toNat
    closed := p.mantissa % 2 = 0 }

namespace Interval

/-- Whether `num / den` rounds to the double. -/
def has (i : Interval) (num den : Nat) : Bool :=
  if i.closed then i.low * den ≤ num * i.den && num * i.den ≤ i.high * den
  else i.low * den < num * i.den && num * i.den < i.high * den

/-- The distance of `num / den` from the double, times the product of the denominators. -/
def distance (i : Interval) (num den : Nat) : Nat :=
  (num * i.den - i.value * den) + (i.value * den - num * i.den)

/-- The power of ten of the first digit of a value below one; `n` bounds the search. -/
def leadBelowOne (i : Interval) : Nat → Nat → Int
  | 0, t => -t
  | n + 1, t => if i.den ≤ i.value * Nat.pow 10 t then -t else leadBelowOne i n (t + 1)

/-- The power of ten of the first digit. -/
def lead (i : Interval) : Int :=
  if i.den ≤ i.value then (Nat.toDigits 10 (i.value / i.den)).length - 1
  else i.leadBelowOne 330 1

/-- The nearer of two neighbours on a grid of step `up / down`; of two equally near, the even
one. -/
def nearer (i : Interval) (up down a b : Nat) : Nat :=
  let below := i.distance (a * up) down
  let above := i.distance (b * up) down
  if above < below ∨ above = below ∧ b % 2 = 0 then b else a

/-- The multiple of `10 ^ power` nearest to the double among those that round to it. -/
def onGrid? (i : Interval) (power : Int) : Option Nat :=
  let up := Nat.pow 10 power.toNat
  let down := Nat.pow 10 (-power).toNat
  let lower := i.value * down / (i.den * up)
  let hits := [lower, lower + 1].filter fun n => i.has (n * up) down
  match hits with
  | [a, b] => some (i.nearer up down a b)
  | [a] => some a
  | _ => none

/-- The first grid, from `power` down in at most `n` steps, that has a multiple for the double. -/
def search (i : Interval) : Nat → Int → Option (Nat × Int)
  | 0, _ => none
  | n + 1, power =>
    match i.onGrid? power with
    | some digits => some (digits, power)
    | none => search i n (power - 1)

end Interval

/-- Digits with the power of ten of the first one. -/
structure Digits where
  /-- The digits, without zeros at the end. -/
  digits : List Char
  /-- The power of ten of the first digit. -/
  lead : Int
  deriving DecidableEq, Repr

/-- The shortest digits of a positive finite double. -/
def shortest (bits : Nat) : Digits :=
  let i := (parts bits).interval
  match i.search 17 i.lead with
  | none => ⟨['0'], 0⟩
  | some (n, power) =>
    let all := Nat.toDigits 10 n
    let kept := (all.reverse.dropWhile (· == '0')).reverse
    ⟨kept, power + all.length - 1⟩

/-- How a number is laid out. -/
structure Layout where
  /-- The least power of ten of a first digit that is written without an exponent. -/
  least : Int
  /-- The greatest power of ten of a first digit that is written without an exponent. -/
  greatest : Int
  /-- What stands before an exponent that is not negative. -/
  plus : String

/-- Writes digits with a point, and with an exponent where the layout asks for one. -/
def Digits.render (layout : Layout) (d : Digits) : String :=
  let n := d.digits.length
  if layout.least ≤ d.lead ∧ d.lead ≤ layout.greatest then
    if d.lead < 0 then
      "0." ++ String.ofList (List.replicate ((-d.lead).toNat - 1) '0' ++ d.digits)
    else
      let whole := d.lead.toNat + 1
      if n ≤ whole then
        String.ofList (d.digits ++ List.replicate (whole - n) '0') ++ ".0"
      else String.ofList (d.digits.take whole) ++ "." ++ String.ofList (d.digits.drop whole)
  else
    let mantissa :=
      match d.digits with
      | [] => "0"
      | [c] => String.singleton c
      | c :: cs => String.singleton c ++ "." ++ String.ofList cs
    let exponent := if d.lead < 0 then "-" else layout.plus
    mantissa ++ "e" ++ exponent ++ toString d.lead.natAbs

/-- Writes a finite double. -/
def render (layout : Layout) (x : Float) : String :=
  let bits := x.toBits.toNat
  let magnitude := bits % signBit
  let sign := if signBit ≤ bits then "-" else ""
  if magnitude = 0 then sign ++ "0.0" else sign ++ (shortest magnitude).render layout

end Keyplan.Decimal
