import Keyplan.Regex.CharSet

/-!
# Regular expressions

Expressions and the question whether one matches somewhere in a text. A match is followed on all
positions at once: a list of marks, one before each character and one at the end, says where a part
of the expression may stand, and each construct moves the marks.
-/

namespace Keyplan

namespace Regex

/-- A condition on a position of a text. -/
inductive Anchor where
  /-- The start of the text. -/
  | textStart
  /-- The end of the text. -/
  | textEnd
  /-- The start of a line. -/
  | lineStart
  /-- The end of a line. -/
  | lineEnd
  /-- A word character on one side only. -/
  | wordEdge
  /-- Word characters on both sides or on none. -/
  | notWordEdge
  /-- A word character after the position and none before it. -/
  | wordStart
  /-- A word character before the position and none after it. -/
  | wordEnd
  deriving DecidableEq, Repr

/-- Whether the condition holds between two characters; `none` is the edge of the text. -/
def Anchor.holds (a : Anchor) (before after : Option Char) : Bool :=
  let left := before.any Text.isWord
  let right := after.any Text.isWord
  match a with
  | .textStart => before.isNone
  | .textEnd => after.isNone
  | .lineStart => before.isNone || before == some '\n'
  | .lineEnd => after.isNone || after == some '\n'
  | .wordEdge => left != right
  | .notWordEdge => left == right
  | .wordStart => !left && right
  | .wordEnd => left && !right

end Regex

/-- A regular expression. -/
inductive Regex where
  /-- Matches the empty text. -/
  | empty
  /-- Matches some characters in their order. -/
  | literal (cs : List Char)
  /-- Matches one character of a set. -/
  | chars (s : Regex.CharSet)
  /-- Matches the empty text where a condition holds. -/
  | anchor (a : Regex.Anchor)
  /-- Matches what an expression matches, and gives it a number. -/
  | group (number : Nat) (r : Regex)
  /-- Matches one expression and then another. -/
  | seq (r s : Regex)
  /-- Matches either expression. -/
  | alt (r s : Regex)
  /-- Matches an expression at least `least` and, if given, at most `most` times in a row. A greedy
  repetition tries more rounds first, which decides where a match ends and not whether there is
  one. -/
  | rep (r : Regex) (least : Nat) (most : Option Nat) (greedy : Bool)
  deriving DecidableEq, Repr

namespace Regex

/-- One mark for each position of a text. -/
abbrev Marks := List Bool

namespace Marks

/-- The marks set in either of two lists. -/
def join (a b : Marks) : Marks :=
  List.zipWith (· || ·) a b

/-- The marks set in the first list only. -/
def without (a b : Marks) : Marks :=
  List.zipWith (fun x y => x && !y) a b

/-- The marks from which a character of the set leads on, moved behind that character. -/
def advance (s : CharSet) (text : List Char) (marks : Marks) : Marks :=
  false :: List.zipWith (fun mark c => mark && Text.Ranges.has s c.toNat) marks text

/-- The marks from which all the characters lead on, moved behind them. -/
def follow (cs : List Char) (text : List Char) (marks : Marks) : Marks :=
  cs.foldl (fun marks c => advance (.single c) text marks) marks

/-- The marks at which a condition holds. -/
def restrict (a : Anchor) : Option Char → List Char → Marks → Marks
  | before, [], mark :: _ => [mark && a.holds before none]
  | before, c :: text, mark :: marks =>
    (mark && a.holds before (some c)) :: restrict a (some c) text marks
  | _, _, [] => []

/-- Applies `move` `n` times, or until no mark is left. -/
def iterate (move : Marks → Marks) : Nat → Marks → Marks
  | 0, marks => marks
  | n + 1, marks => if marks.any id then iterate move n (move marks) else marks

/-- The marks that up to `n` rounds of `move` reach from `fresh`, added to `reached`. A mark in
`seen` has been moved from before and is not moved from again. -/
def spread (move : Marks → Marks) : Nat → Marks → Marks → Marks → Marks
  | 0, _, _, reached => reached
  | n + 1, seen, fresh, reached =>
    if fresh.any id then
      let next := move fresh
      let seen := seen.join fresh
      spread move n seen (next.without seen) (reached.join next)
    else reached

/-- No mark at all. -/
def clear (text : List Char) : Marks :=
  List.replicate (text.length + 1) false

end Marks

/-- The positions at which a match that started at one of the marks may end. -/
def reach (text : List Char) : Regex → Marks → Marks
  | .empty, marks => marks
  | .literal cs, marks => marks.follow cs text
  | .chars s, marks => marks.advance s text
  | .anchor a, marks => marks.restrict a none text
  | .group _ r, marks => reach text r marks
  | .seq r s, marks => reach text s (reach text r marks)
  | .alt r s, marks => (reach text r marks).join (reach text s marks)
  | .rep r least most _, marks =>
    let step := Marks.spread (reach text r)
    match most, least with
    | some most, least =>
      let start := Marks.iterate (reach text r) least marks
      step (most - least) (.clear text) start start
    | none, 0 => step (text.length + 2) (.clear text) marks marks
    | none, least + 1 =>
      let start := Marks.iterate (reach text r) least marks
      step (text.length + 2) (.clear text) start (.clear text)

/-- Whether the expression matches somewhere in the text. -/
def matchesIn (r : Regex) (text : List Char) : Bool :=
  (r.reach text (List.replicate (text.length + 1) true)).any id

end Regex

end Keyplan
