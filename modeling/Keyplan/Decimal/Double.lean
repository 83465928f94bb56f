/-!
# Doubles as fractions

A finite double is a whole number times a power of two. `nearest` rounds a fraction to a double,
and `parts` takes a double apart; both compute with whole numbers only.
-/

namespace Keyplan.Decimal

/-- The least power of two that a double counts in. -/
def minPower : Int := -1074

/-- The bits of positive infinity. -/
def infinityBits : Nat := 0x7FF0000000000000

/-- The bit in front of the 52 bits that a double stores of its mantissa. -/
def leadingBit : Nat := 0x10000000000000

/-- The bit of the sign. -/
def signBit : Nat := 0x8000000000000000

/-- A quotient rounded to the nearest whole number, and to the even one of two equally near. -/
def roundDiv (num den : Nat) : Nat :=
  let q := num / den
  let twice := 2 * (num % den)
  if twice < den then q
  else if den < twice then q + 1
  else if q % 2 = 0 then q
  else q + 1

/-- The numerator and denominator of a fraction divided by a power of two. -/
def scaleDown (num den : Nat) (power : Int) : Nat × Nat :=
  if 0 ≤ power then (num, den * Nat.pow 2 power.toNat)
  else (num * Nat.pow 2 (-power).toNat, den)

/-- The power of two in which the double nearest to a positive fraction counts. -/
def powerOf (num den : Nat) : Int :=
  let guess : Int := (num.log2 : Int) - den.log2 - 53
  let (n, d) := scaleDown num den guess
  max minPower (if 2 * leadingBit * d ≤ n then guess + 1 else guess)

/-- The bits of the double nearest to a fraction; what is too large becomes infinity. -/
def nearest (num den : Nat) : Nat :=
  if num = 0 then 0
  else
    let power := powerOf num den
    let (n, d) := scaleDown num den power
    min infinityBits ((power - minPower).toNat * leadingBit + roundDiv n d)

/-- A positive finite double as a whole number times a power of two. -/
structure Parts where
  /-- The whole number. -/
  mantissa : Nat
  /-- The power of two. -/
  power : Int
  deriving DecidableEq, Repr

/-- Takes apart the double with the given bits, sign left out. -/
def parts (bits : Nat) : Parts :=
  let biased : Nat := bits / leadingBit % 0x800
  let fraction : Nat := bits % leadingBit
  if biased = 0 then ⟨fraction, minPower⟩ else ⟨leadingBit + fraction, minPower + biased - 1⟩

end Keyplan.Decimal
