import Keyplan.Regex.Bracket
import Keyplan.Regex.Program
import Keyplan.Text.Letter

/-!
# Reading regular expressions

The written form of a regular expression. The reader takes one construct at a time and keeps the
groups that are open; `Reader.run` walks the text. Constructs may stand in one another only so deep,
and the compiled expression has to be small enough.
-/

namespace Keyplan.Regex

/-- A part of an expression as it is written. -/
structure Part where
  /-- The expression; flags have none. -/
  regex : Option Regex
  /-- How deep constructs stand in one another in it. -/
  depth : Nat

namespace Part

/-- What the part matches. -/
def expr (p : Part) : Regex :=
  p.regex.getD .empty

/-- Several parts put together; more than one make the whole one deeper than the deepest. -/
def join (put : List Regex → Regex) : List Part → Part
  | [p] => ⟨some p.expr, p.depth⟩
  | [] => ⟨some .empty, 0⟩
  | ps => ⟨some (put (ps.map expr)), (ps.map depth).foldl max 0 + 1⟩

end Part

/-- A group whose closing parenthesis has not come yet. -/
structure Group where
  /-- The number of the group, if it has one. -/
  number : Option Nat := none
  /-- The flags that hold again after the group. -/
  saved : Flags := {}
  /-- The alternatives before the last bar, last first. -/
  branches : List Part := []
  /-- The parts since the last bar, last first. -/
  parts : List Part := []

namespace Group

/-- The group with another part. -/
def add (g : Group) (r : Regex) (depth : Nat) : Group :=
  { g with parts := ⟨some r, depth⟩ :: g.parts }

/-- The parts since the last bar, one after the other. -/
def branch (g : Group) : Part :=
  Part.join concat g.parts.reverse

/-- The group after a bar. -/
def bar (g : Group) : Group :=
  { g with branches := g.branch :: g.branches, parts := [] }

/-- What the group holds. -/
def content (g : Group) : Part :=
  Part.join either (g.branch :: g.branches).reverse

/-- The expression of a closed group. -/
def close (g : Group) : Part :=
  let inner := g.content
  match g.number with
  | some n => ⟨some (.group n inner.expr), inner.depth + 1⟩
  | none => ⟨some inner.expr, inner.depth + 1⟩

end Group

/-- What the reader of an expression has seen. -/
structure Reader where
  /-- The flags in force. -/
  flags : Flags := {}
  /-- The innermost open group. -/
  group : Group := {}
  /-- The groups around it, innermost first. -/
  outer : List Group := []
  /-- How many groups have a number. -/
  numbered : Nat := 0
  /-- The names of groups so far. -/
  names : List (List Char) := []

namespace Reader

/-- The reader after another part. -/
def add (s : Reader) (r : Regex) (depth : Nat) : Reader :=
  { s with group := s.group.add r depth }

/-- The reader after a character. -/
def addChar (s : Reader) (c : Char) : Reader :=
  s.add (ofSet (s.flags.foldChar c)) 0

/-- The reader inside a new group without a number that starts with `flags`. -/
def enter (s : Reader) (flags : Flags) : Reader :=
  { s with flags, group := { saved := s.flags }, outer := s.group :: s.outer }

/-- The reader inside a new group with a number. -/
def enterNumbered (s : Reader) : Reader :=
  let number := s.numbered + 1
  { s with
    group := { number := some number, saved := s.flags }, outer := s.group :: s.outer,
    numbered := number }

/-- Whether a character may stand in the name of a group. -/
def isNameChar (first : Bool) (c : Char) : Bool :=
  c == '_' ||
    if first then Text.isLetter c
    else Text.isLetter c || Text.isNumber c || c == '.' || c == '[' || c == ']'

/-- Reads the name of a group up to its closing bracket. -/
def readName (s : Reader) (cs : List Char) : Except SyntaxError (Reader × List Char) :=
  match cs.span (· != '>') with
  | (c :: name, _ :: rest) =>
    if isNameChar true c && name.all (isNameChar false) && !s.names.contains (c :: name) then
      .ok ({ s.enterNumbered with names := (c :: name) :: s.names }, rest)
    else .error .badGroupName
  | _ => .error .badGroupName

/-- Reads the head of a group after its parenthesis. -/
def openGroup (s : Reader) (cs : List Char) : Except SyntaxError (Reader × List Char) :=
  match s.flags.skip cs with
  | '?' :: '=' :: _ | '?' :: '!' :: _ | '?' :: '<' :: '=' :: _ | '?' :: '<' :: '!' :: _ =>
    .error .lookAround
  | '?' :: 'P' :: '<' :: rest => s.readName rest
  | '?' :: '<' :: rest => s.readName rest
  | '?' :: rest =>
    match s.flags.read [] false rest with
    | .error e => .error e
    | .ok (flags, _, ':', rest) => .ok (s.enter flags, rest)
    | .ok (flags, noFlag, _, rest) =>
      if noFlag then .error .nothingToRepeat
      else
        let group := { s.group with parts := ⟨none, 0⟩ :: s.group.parts }
        .ok ({ s with flags, group }, rest)
  | rest => .ok (s.enterNumbered, rest)

/-- Leaves the innermost group. -/
def closeGroup (s : Reader) : Except SyntaxError Reader :=
  match s.outer with
  | [] => .error .unopenedGroup
  | g :: outer =>
    let group := { g with parts := s.group.close :: g.parts }
    .ok { s with flags := s.group.saved, group, outer }

/-- Repeats the last part. The mark for a lazy repetition is passed over. -/
def repeatLast (s : Reader) (least : Nat) (most : Option Nat) (cs : List Char) :
    Except SyntaxError (Reader × List Char) :=
  let (isLazy, rest) : Bool × List Char :=
    match cs with
    | '?' :: rest => (true, rest)
    | rest => (false, rest)
  match s.group.parts with
  | ⟨some r, depth⟩ :: parts =>
    let part : Part := ⟨some (r.times least most (isLazy == s.flags.swapGreed)), depth + 1⟩
    .ok ({ s with group := { s.group with parts := part :: parts } }, rest)
  | _ => .error .nothingToRepeat

/-- Reads decimal digits after the number `value`; `n` bounds them. -/
def readDigits (f : Flags) : Nat → Nat → List Char → Nat × List Char
  | n + 1, value, c :: cs =>
    if c.isDigit then readDigits f n (10 * value + (c.toNat - '0'.toNat)) (f.skip cs)
    else (value, c :: cs)
  | _, value, cs => (value, cs)

/-- Reads a number of rounds, blanks around it included. -/
def readCount (f : Flags) (cs : List Char) : Option Nat × List Char :=
  let cs := (f.skip cs).dropWhile Text.isBlank
  let (value, rest) := readDigits f cs.length 0 cs
  let found := (cs.head?.any Char.isDigit) && value ≤ 0xFFFFFFFF
  (if found then some value else none, f.skip (rest.dropWhile Text.isBlank))

/-- Reads the counts of a repetition after its opening brace. -/
def readCounts (s : Reader) (cs : List Char) : Except SyntaxError (Reader × List Char) :=
  let finish (least : Nat) (most : Option Nat) (rest : List Char) :=
    if most.any (· < least) then Except.error SyntaxError.badRepetition
    else s.repeatLast least most (s.flags.skip rest)
  match readCount s.flags cs with
  | (some least, ',' :: rest) =>
    match s.flags.skip rest with
    | '}' :: rest => finish least none rest
    | rest =>
      match readCount s.flags rest with
      | (some most, '}' :: rest) => finish least (some most) rest
      | _ => .error .badRepetition
  | (some least, '}' :: rest) => finish least (some least) rest
  | _ => .error .badRepetition

/-- Reads the construct that starts with `c`; the result holds what follows it. -/
def step (s : Reader) (c : Char) (cs : List Char) : Except SyntaxError (Reader × List Char) :=
  match c with
  | '(' => s.openGroup cs
  | ')' => (s.closeGroup).map (·, cs)
  | '|' => .ok ({ s with group := s.group.bar }, cs)
  | '*' => s.repeatLast 0 none cs
  | '+' => s.repeatLast 1 none cs
  | '?' => s.repeatLast 0 (some 1) cs
  | '{' => s.readCounts cs
  | '[' => (Bracket.read s.flags cs).map fun (w, rest) => (s.add (ofSet w.set) w.depth, rest)
  | '\\' =>
    match Escape.read? s.flags cs with
    | none => .error .badEscape
    | some (.char c, rest) => .ok (s.addChar c, rest)
    | some (.set set, rest) => .ok (s.add (ofSet set) 0, rest)
    | some (.anchor a, rest) => .ok (s.add (.anchor a) 0, rest)
  | '.' =>
    let set := if s.flags.dotAll then CharSet.full else Text.Ranges.compl (CharSet.single '\n')
    .ok (s.add (.chars set) 0, cs)
  | '^' => .ok (s.add (.anchor (if s.flags.multiLine then .lineStart else .textStart)) 0, cs)
  | '$' => .ok (s.add (.anchor (if s.flags.multiLine then .lineEnd else .textEnd)) 0, cs)
  | c => .ok (s.addChar c, cs)

/-- Reads an expression; `n` bounds the constructs. -/
def run : Nat → Reader → List Char → Except SyntaxError Reader
  | 0, s, _ => .ok s
  | n + 1, s, cs =>
    match s.flags.skip cs with
    | [] => .ok s
    | c :: cs =>
      match s.step c cs with
      | .error e => .error e
      | .ok (s, rest) => run n s rest

end Reader

/-- How deep constructs may stand in one another. -/
def maxDepth : Nat := 250

/-- Reads a regular expression. -/
def read (cs : List Char) : Except SyntaxError Regex :=
  match Reader.run (cs.length + 1) {} cs with
  | .error e => .error e
  | .ok s =>
    let whole := s.group.content
    if !s.outer.isEmpty then .error .unclosedGroup
    else if maxDepth < whole.depth then .error .tooDeep
    else if whole.expr.isSmall then .ok whole.expr
    else .error .tooLarge

end Keyplan.Regex
