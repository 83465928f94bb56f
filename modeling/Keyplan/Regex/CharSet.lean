import Keyplan.Text.Blank
import Keyplan.Text.CaseFold
import Keyplan.Text.Digit
import Keyplan.Text.Word

/-!
# Sets of characters

The sets that a regular expression can name, as ranges of code points.
-/

namespace Keyplan.Regex

/-- A set of characters. -/
abbrev CharSet := Text.Ranges

namespace CharSet

/-- The set of one character. -/
def single (c : Char) : CharSet := [(c.toNat, c.toNat)]

/-- The characters from `lo` to `hi`. -/
def range (lo hi : Char) : CharSet := [(lo.toNat, hi.toNat)]

/-- All characters. -/
def full : CharSet := [(0, Text.maxCode)]

/-- The decimal digits. -/
def digit : CharSet := ('0'.toNat, '9'.toNat) :: Text.digitRanges

/-- The word characters. -/
def word : CharSet :=
  [('0'.toNat, '9'.toNat), ('A'.toNat, 'Z'.toNat), ('_'.toNat, '_'.toNat),
    ('a'.toNat, 'z'.toNat)] ++ Text.wordRanges

/-- The blank characters. -/
def blank : CharSet := Text.blankRanges

/-- The characters of `s` that are not in `t`. -/
def diff (s t : CharSet) : CharSet := Text.Ranges.inter s (Text.Ranges.compl t)

/-- The characters of exactly one of two sets. -/
def symmDiff (s t : CharSet) : CharSet := Text.Ranges.union (diff s t) (diff t s)

/-- The characters equal to a character up to case. -/
def caseless (c : Char) : CharSet :=
  (Text.variants c).foldl (fun s v => Text.Ranges.insert v.toNat v.toNat s) []

/-- The characters equal to one of the set up to case: first what the members fold to, then what
folds to one of these. -/
def folded (s : CharSet) : CharSet :=
  let heads := Text.foldPairs.foldl
    (fun t p => if Text.Ranges.has s p.1 then Text.Ranges.insert p.2 p.2 t else t) s
  Text.foldPairs.foldl
    (fun t p => if Text.Ranges.has heads p.2 then Text.Ranges.insert p.1 p.1 t else t) heads

end CharSet

end Keyplan.Regex
