import Keyplan.Text.Ranges

/-!
# Octets of characters

A code point is written as one to four octets. `octetRanges` writes a whole range of code points:
it is cut into pieces, lowest first, each of which is a product of ranges of octets.
-/

namespace Keyplan.Text

/-- The octets of a code point. -/
def octets (n : Nat) : List Nat :=
  if n < 0x80 then [n]
  else if n < 0x800 then [0xC0 + n / 64, 0x80 + n % 64]
  else if n < 0x10000 then [0xE0 + n / 4096, 0x80 + n / 64 % 64, 0x80 + n % 64]
  else [0xF0 + n / 262144, 0x80 + n / 4096 % 64, 0x80 + n / 64 % 64, 0x80 + n % 64]

/-- The octets of a text. -/
def octetsOf (cs : List Char) : List Nat :=
  cs.flatMap fun c => octets c.toNat

/-- The part of the code points from `lo` to `hi` that lies within a bound. -/
def clip (lo hi : Nat) (bound : Nat × Nat) : Option (Nat × Nat) :=
  let lo := max lo bound.1
  let hi := min hi bound.2
  if lo ≤ hi then some (lo, hi) else none

/-- The code points that are written with equally many octets, without the surrogates. -/
def lengthBounds : Ranges :=
  [(0, 0x7F), (0x80, 0x7FF), (0x800, 0xD7FF), (0xE000, 0xFFFF), (0x10000, maxCode)]

/-- Cuts a range so that each piece lies in one block or is made of whole blocks, for each of the
block sizes, smallest first. -/
def cutBlocks : List Nat → Nat → Nat → Ranges
  | [], lo, hi => [(lo, hi)]
  | block :: blocks, lo, hi =>
    if lo / block = hi / block then [(lo, hi)]
    else
      let start := (lo + block - 1) / block * block
      let stop := (hi + 1) / block * block
      (if lo < start then [(lo, start - 1)] else []) ++
        (if start < stop then cutBlocks blocks start (stop - 1) else []) ++
        (if stop ≤ hi then [(stop, hi)] else [])

/-- How many code points share all octets but the last one, two or three. -/
def blockSizes : List Nat := [64, 4096, 262144]

/-- The ranges of octets that write the code points from `lo` to `hi`. -/
def octetRanges (lo hi : Nat) : List (List (Nat × Nat)) :=
  (lengthBounds.filterMap (clip lo hi)).flatMap fun part =>
    if part.2 < 0x80 then [[part]]
    else (cutBlocks blockSizes part.1 part.2).map fun piece =>
      (octets piece.1).zip (octets piece.2)

end Keyplan.Text
