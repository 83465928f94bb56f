import Keyplan.Regex.Escape

/-!
# Classes

Sets of characters written in square brackets. Classes may stand in one another, so the reader keeps
those that are open, innermost first.
-/

namespace Keyplan.Regex

/-- Two sets put together by an operator. -/
inductive SetOp where
  /-- Characters of both. -/
  | inter
  /-- Characters of the first only. -/
  | diff
  /-- Characters of exactly one. -/
  | symmDiff

/-- Applies an operator. -/
def SetOp.apply : SetOp → CharSet → CharSet → CharSet
  | .inter, s, t => Text.Ranges.inter s t
  | .diff, s, t => CharSet.diff s t
  | .symmDiff, s, t => CharSet.symmDiff s t

/-- The operator that `c` and the text after it spell. -/
def SetOp.read? (c : Char) (cs : List Char) : Option SetOp :=
  if cs.head? = some c then
    match c with
    | '&' => some .inter
    | '-' => some .diff
    | '~' => some .symmDiff
    | _ => none
  else none

/-- A set as it is written: its characters, and how deep constructs stand in one another in it. -/
structure Written where
  /-- The characters. -/
  set : CharSet := []
  /-- The depth. -/
  depth : Nat := 0

/-- A class whose closing bracket has not come yet. -/
structure Bracket where
  /-- Whether the class stands for the characters outside it. -/
  negated : Bool := false
  /-- What stands before the last operator. -/
  left : Option (Written × SetOp) := none
  /-- What stands after the last operator. -/
  members : Written := {}
  /-- How many members stand after the last operator. -/
  count : Nat := 0

namespace Bracket

/-- The class with another member. -/
def add (b : Bracket) (w : Written) : Bracket :=
  let members : Written := ⟨Text.Ranges.union b.members.set w.set, max b.members.depth w.depth⟩
  { b with members, count := b.count + 1 }

/-- The class with more members that are plain characters. -/
def addSet (b : Bracket) (s : CharSet) : Bracket :=
  b.add ⟨s, 0⟩

/-- What the class holds so far, read with the flags. Several members, and an operator, make it one
deeper. -/
def held (f : Flags) (b : Bracket) : Written :=
  let depth := if 2 ≤ b.count then b.members.depth + 1 else b.members.depth
  match b.left with
  | none => { b.members with depth }
  | some (w, op) => ⟨op.apply (f.fold w.set) (f.fold b.members.set), max w.depth depth + 1⟩

/-- The class after an operator. -/
def operate (f : Flags) (op : SetOp) (b : Bracket) : Bracket :=
  { b with left := some (b.held f, op), members := {}, count := 0 }

/-- The set of a closed class. -/
def close (f : Flags) (b : Bracket) : Written :=
  let w := b.held f
  let s := f.fold w.set
  ⟨if b.negated then Text.Ranges.compl s else s, w.depth + 1⟩

/-- Reads minus signs at the start of a class as members; `n` bounds them. -/
def readDashes (f : Flags) : Nat → Bracket → List Char → Bracket × List Char
  | n + 1, b, '-' :: cs => readDashes f n (b.addSet (.single '-')) (f.skip cs)
  | _, b, cs => (b, cs)

/-- Reads the start of a class after its opening bracket: a negation, minus signs, or a closing
bracket that stands for itself. -/
def readOpen (f : Flags) (cs : List Char) : Bracket × List Char :=
  let (b, cs) : Bracket × List Char :=
    match f.skip cs with
    | '^' :: rest => ({ negated := true }, f.skip rest)
    | rest => ({}, rest)
  match readDashes f cs.length b cs with
  | (b, ']' :: rest) => if b.count = 0 then (b.addSet (.single ']'), rest) else (b, ']' :: rest)
  | start => start

/-- The sets that a class can name in colons. -/
def named? : String → Option CharSet
  | "alnum" => some [(0x30, 0x39), (0x41, 0x5A), (0x61, 0x7A)]
  | "alpha" => some [(0x41, 0x5A), (0x61, 0x7A)]
  | "ascii" => some [(0x0, 0x7F)]
  | "blank" => some [(0x9, 0x9), (0x20, 0x20)]
  | "cntrl" => some [(0x0, 0x1F), (0x7F, 0x7F)]
  | "digit" => some [(0x30, 0x39)]
  | "graph" => some [(0x21, 0x7E)]
  | "lower" => some [(0x61, 0x7A)]
  | "print" => some [(0x20, 0x7E)]
  | "punct" => some [(0x21, 0x2F), (0x3A, 0x40), (0x5B, 0x60), (0x7B, 0x7E)]
  | "space" => some [(0x9, 0xD), (0x20, 0x20)]
  | "upper" => some [(0x41, 0x5A)]
  | "word" => some [(0x30, 0x39), (0x41, 0x5A), (0x5F, 0x5F), (0x61, 0x7A)]
  | "xdigit" => some [(0x30, 0x39), (0x41, 0x46), (0x61, 0x66)]
  | _ => none

/-- Reads a named set after its bracket. -/
def readNamed? (f : Flags) : List Char → Option (CharSet × List Char)
  | ':' :: cs =>
    let (negated, cs) : Bool × List Char :=
      match cs with
      | '^' :: rest => (true, rest)
      | rest => (false, rest)
    match cs.span (· != ':') with
    | (name, ':' :: ']' :: rest) =>
      (named? (String.ofList name)).map fun s =>
        (if negated then Text.Ranges.compl (f.fold s) else f.fold s, rest)
    | _ => none
  | _ => none

/-- Reads one member of a class: a character or an escape. -/
def readMember (f : Flags) : List Char → Except SyntaxError (Escape × List Char)
  | '\\' :: cs =>
    match Escape.read? f cs with
    | some read => .ok read
    | none => .error .badEscape
  | c :: cs => .ok (.char c, cs)
  | [] => .error .unclosedClass

/-- The set of a single member. -/
def ofMember : Escape → Except SyntaxError CharSet
  | .char c => .ok (.single c)
  | .set s => .ok s
  | .anchor _ => .error .badClass

/-- The character after a minus sign that decides whether it makes a range. Where blanks are passed
over, this looks past them, but of a comment it passes the mark only. -/
def afterDash? (f : Flags) (cs : List Char) : Option Char :=
  if f.verbose then
    match cs.dropWhile Text.isBlank with
    | '#' :: rest => (rest.dropWhile Text.isBlank).head?
    | rest => rest.head?
  else cs.head?

/-- Reads a member or a range of a class. A minus sign before a closing bracket or another minus
sign makes no range. -/
def readRange (f : Flags) (cs : List Char) : Except SyntaxError (CharSet × List Char) := do
  let (first, rest) ← readMember f cs
  match f.skip rest with
  | [] => .error .unclosedClass
  | '-' :: afterDash =>
    let next := afterDash? f afterDash
    if next = some ']' ∨ next = some '-' then return (← ofMember first, '-' :: afterDash)
    let (last, rest) ← readMember f (f.skip afterDash)
    match first, last with
    | .char lo, .char hi => if lo ≤ hi then .ok (.range lo hi, rest) else .error .badClass
    | _, _ => .error .badClass
  | rest => return (← ofMember first, rest)

/-- Reads a class from after its opening bracket on. The pair holds the innermost open class and
those around it; `n` bounds the constructs. -/
def readClass (f : Flags) : Nat → Bracket × List Bracket → List Char →
    Except SyntaxError (Written × List Char)
  | 0, _, _ => .error .unclosedClass
  | n + 1, (b, outer), cs =>
    match f.skip cs with
    | [] => .error .unclosedClass
    | ']' :: cs =>
      match outer with
      | [] => .ok (b.close f, cs)
      | around :: outer => readClass f n (around.add (b.close f), outer) cs
    | '[' :: cs =>
      match readNamed? f cs with
      | some (s, rest) => readClass f n (b.addSet s, outer) rest
      | none =>
        let (inner, rest) := readOpen f cs
        readClass f n (inner, b :: outer) rest
    | c :: cs =>
      match SetOp.read? c cs with
      | some op => readClass f n (b.operate f op, outer) cs.tail
      | none =>
        match readRange f (c :: cs) with
        | .error e => .error e
        | .ok (s, rest) => readClass f n (b.addSet s, outer) rest

/-- Reads a class after its opening bracket. -/
def read (f : Flags) (cs : List Char) : Except SyntaxError (Written × List Char) :=
  let (b, rest) := readOpen f cs
  readClass f (rest.length + 1) (b, []) rest

end Bracket

end Keyplan.Regex
