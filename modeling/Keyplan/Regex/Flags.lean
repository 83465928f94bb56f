import Keyplan.Regex.CharSet

/-!
# Flags of regular expressions

Switches that an expression sets for itself, and the errors that its written form can have.
-/

namespace Keyplan.Regex

/-- Why a text is not a regular expression. -/
inductive SyntaxError where
  /-- A group is never closed. -/
  | unclosedGroup
  /-- A parenthesis closes no group. -/
  | unopenedGroup
  /-- A group looks at the text around it. -/
  | lookAround
  /-- The name of a group is empty, ill-formed or used twice. -/
  | badGroupName
  /-- Flags are unknown, repeated or incomplete. -/
  | badFlags
  /-- A repetition has nothing in front to repeat. -/
  | nothingToRepeat
  /-- A counted repetition is incomplete or its bounds are in the wrong order. -/
  | badRepetition
  /-- A class is never closed. -/
  | unclosedClass
  /-- A class holds something that is no set of characters, or a range backwards. -/
  | badClass
  /-- A backslash starts nothing known. -/
  | badEscape
  /-- Constructs stand in one another too deep. -/
  | tooDeep
  /-- The compiled expression is too large. -/
  | tooLarge
  deriving DecidableEq, Repr

/-- Switches that change how the rest of a group is read. -/
structure Flags where
  /-- Letters match up to case. -/
  ignoreCase : Bool := false
  /-- `^` and `$` match at line ends. -/
  multiLine : Bool := false
  /-- `.` matches a line end. -/
  dotAll : Bool := false
  /-- A repetition is greedy where it is marked and not where it is unmarked. -/
  swapGreed : Bool := false
  /-- Blanks and comments are passed over. -/
  verbose : Bool := false
  deriving DecidableEq, Repr

namespace Flags

/-- The set as the flags have it read. -/
def fold (f : Flags) (s : CharSet) : CharSet :=
  if f.ignoreCase then CharSet.folded s else s

/-- The set that a character stands for. -/
def foldChar (f : Flags) (c : Char) : CharSet :=
  if f.ignoreCase then .caseless c else .single c

/-- Passes over blanks and comments; `n` bounds the comments. -/
def skipFrom : Nat → List Char → List Char
  | 0, cs => cs
  | n + 1, cs =>
    match cs.dropWhile Text.isBlank with
    | '#' :: rest => skipFrom n (rest.dropWhile (· != '\n'))
    | rest => rest

/-- Passes over blanks and comments where the flags allow them. -/
def skip (f : Flags) (cs : List Char) : List Char :=
  if f.verbose then skipFrom (cs.length + 1) cs else cs

/-- Sets one flag by its letter. The letter for the full character set changes nothing. -/
def set? (f : Flags) (on : Bool) : Char → Option Flags
  | 'i' => some { f with ignoreCase := on }
  | 'm' => some { f with multiLine := on }
  | 's' => some { f with dotAll := on }
  | 'U' => some { f with swapGreed := on }
  | 'x' => some { f with verbose := on }
  | 'u' => if on then some f else none
  | _ => none

/-- Reads flags up to the character that ends them, which the result holds. `seen` are the letters
read so far, and `minus` says whether a minus sign has been read. -/
def read (f : Flags) (seen : List Char) (minus : Bool) :
    List Char → Except SyntaxError (Flags × Bool × Char × List Char)
  | [] => .error .badFlags
  | c :: cs =>
    if c = ':' || c = ')' then
      if seen.head? = some '-' then .error .badFlags else .ok (f, seen.isEmpty, c, cs)
    else if seen.contains c then .error .badFlags
    else if c = '-' then read f (c :: seen) true cs
    else
      match f.set? (!minus) c with
      | none => .error .badFlags
      | some f' => read f' (c :: seen) minus cs

end Flags

end Keyplan.Regex
