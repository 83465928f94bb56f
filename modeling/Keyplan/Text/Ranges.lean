/-!
# Ranges of code points

Properties of characters that a standard lists as data are written as ranges of code points, lowest
first, with at least one other code point between two ranges. `insert`, `union` and `compl` keep
that form, so that a set has one list.
-/

namespace Keyplan.Text

/-- Inclusive ranges of code points, lowest first. -/
abbrev Ranges := List (Nat × Nat)

/-- The greatest code point. -/
def maxCode : Nat := 0x10FFFF

namespace Ranges

/-- Whether a code point lies in one of the ranges. -/
def has (rs : Ranges) (n : Nat) : Bool :=
  rs.any fun r => r.1 ≤ n && n ≤ r.2

/-- The ranges together with the code points from `lo` to `hi`. Ranges that touch become one. -/
def insert (lo hi : Nat) : Ranges → Ranges
  | [] => [(lo, hi)]
  | (a, b) :: rs =>
    if hi + 1 < a then (lo, hi) :: (a, b) :: rs
    else if b + 1 < lo then (a, b) :: insert lo hi rs
    else insert (min lo a) (max hi b) rs

/-- The code points of either list. -/
def union (rs ss : Ranges) : Ranges :=
  ss.foldl (fun all r => insert r.1 r.2 all) rs

/-- The code points from `lo` to `hi`, where an end among the surrogates moves off them. -/
def between (lo hi : Nat) : Ranges :=
  let isSurrogate (n : Nat) : Bool := 0xD800 ≤ n && n ≤ 0xDFFF
  let lo := if isSurrogate lo then 0xE000 else lo
  let hi := if isSurrogate hi then 0xD7FF else hi
  if lo ≤ hi then [(lo, hi)] else []

/-- The code points from `n` on that are in none of the ranges. -/
def complFrom : Nat → Ranges → Ranges
  | n, [] => between n maxCode
  | n, (a, b) :: rs => (if n < a then between n (a - 1) else []) ++ complFrom (b + 1) rs

/-- The code points in none of the ranges. -/
def compl (rs : Ranges) : Ranges :=
  complFrom 0 rs

/-- The code points of both lists. -/
def inter (rs ss : Ranges) : Ranges :=
  compl (union (compl rs) (compl ss))

end Ranges

end Keyplan.Text
