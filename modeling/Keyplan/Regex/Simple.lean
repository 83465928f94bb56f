import Keyplan.Regex.Basic

/-!
# Simple forms of regular expressions

Parts are put together so that the result is as plain as what they match allows. In a simple form

- the left side of `seq` is no `seq`, the left side of `alt` no `alt`, and `empty` is in no `seq`;
- literals that follow one another are one literal, and a set of one character is a literal;
- alternatives that are single characters are one set, and so are alternatives that are sets;
- what all alternatives start with stands in front of them;
- a repetition of what matches the empty text only has at most one round.
-/

namespace Keyplan.Regex

/-- Matches one character of a set. -/
def ofSet (s : CharSet) : Regex :=
  match s with
  | [(lo, hi)] => if lo = hi then .literal [Char.ofNat lo] else .chars s
  | _ => .chars s

/-- The parts of an expression that match one after the other. -/
def parts : Regex → List Regex
  | .seq r s => r :: parts s
  | r => [r]

/-- The alternatives of an expression. -/
def branches : Regex → List Regex
  | .alt r s => r :: branches s
  | r => [r]

/-- One part in front of an expression. -/
def before : Regex → Regex → Regex
  | .empty, s => s
  | r, .empty => r
  | .literal cs, .literal ds => .literal (cs ++ ds)
  | .literal cs, .seq (.literal ds) s => .seq (.literal (cs ++ ds)) s
  | r, s => .seq r s

/-- One expression and then another. -/
def andThen (r s : Regex) : Regex :=
  r.parts.foldr before s

/-- Expressions one after the other. -/
def concat (rs : List Regex) : Regex :=
  rs.foldr andThen .empty

/-- Whether an expression is a single character. -/
def isChar : Regex → Bool
  | .literal [_] => true
  | _ => false

/-- Whether an expression is a set of characters. -/
def isSet : Regex → Bool
  | .chars _ => true
  | _ => false

/-- The set of what a single character or a set matches. -/
def asSet : Regex → CharSet
  | .literal [c] => .single c
  | .chars s => s
  | _ => []

/-- What two lists of parts start with alike. -/
def common : List Regex → List Regex → List Regex
  | r :: rs, s :: ss => if r = s then r :: common rs ss else []
  | _, _ => []

/-- What all alternatives start with. An alternative of one part alone has nothing to share. -/
def shared (bs : List Regex) : List Regex :=
  match bs.map parts with
  | first :: rest =>
    if (first :: rest).all (2 ≤ ·.length) then rest.foldl common first else []
  | [] => []

/-- Alternatives as they are. -/
def altOf (r : Regex) : List Regex → Regex
  | [] => r
  | s :: ss => .alt r (altOf s ss)

/-- One of several expressions; `n` bounds how often a shared start is taken out. -/
def eitherWithin (n : Nat) (rs : List Regex) : Regex :=
  match rs.flatMap branches with
  | [] => .chars []
  | [r] => r
  | first :: rest =>
    let bs := first :: rest
    if bs.all isChar || bs.all isSet then
      ofSet (bs.foldl (fun s b => Text.Ranges.union s b.asSet) [])
    else
      match n, shared bs with
      | n + 1, r :: start =>
        let k := start.length + 1
        concat (r :: start ++ [eitherWithin n (bs.map fun b => concat (b.parts.drop k))])
      | _, _ => altOf first rest

/-- One of several expressions. -/
def either (rs : List Regex) : Regex :=
  eitherWithin ((rs.map (·.parts.length)).foldl max 0) rs

/-- Whether an expression matches no text but the empty one. -/
def isBlank : Regex → Bool
  | .empty => true
  | .anchor _ => true
  | .group _ r => r.isBlank
  | .seq r s => r.isBlank && s.isBlank
  | .alt r s => r.isBlank && s.isBlank
  | .rep r _ most _ => most.isSome && r.isBlank
  | _ => false

/-- The least number of characters of a match, where there is a match. -/
def leastLength : Regex → Option Nat
  | .empty => some 0
  | .literal cs => some cs.length
  | .chars s => if s.isEmpty then none else some 1
  | .anchor _ => some 0
  | .group _ r => r.leastLength
  | .seq r s =>
    match r.leastLength, s.leastLength with
    | some m, some n => some (m + n)
    | _, _ => none
  | .alt r s =>
    match r.leastLength, s.leastLength with
    | some m, some n => some (min m n)
    | _, _ => none
  | .rep r least _ _ => r.leastLength.map (· * least)

/-- Whether every match has a character. -/
def consumes (r : Regex) : Bool :=
  match r.leastLength with
  | some n => 0 < n
  | none => false

/-- An expression several times in a row. -/
def times (r : Regex) (least : Nat) (most : Option Nat) (greedy : Bool) : Regex :=
  let (least, most) :=
    if r.isBlank then (min least 1, some (min (most.getD 1) 1)) else (least, most)
  if most = some 0 then .empty
  else if least = 1 ∧ most = some 1 then r
  else .rep r least most greedy

end Keyplan.Regex
