import Keyplan.Regex.Basic
import Keyplan.Regex.Flags

/-!
# Escapes

What a backslash stands for with the text after it. Where blanks and comments are passed over, they
may stand between the digits of a code point too.
-/

namespace Keyplan.Regex

/-- What a backslash and the text after it stand for. -/
inductive Escape where
  /-- A character. -/
  | char (c : Char)
  /-- A set of characters. -/
  | set (s : CharSet)
  /-- A condition on the position. -/
  | anchor (a : Anchor)

namespace Escape

/-- The value of a hexadecimal digit. -/
def hexDigit? (c : Char) : Option Nat :=
  if c.isDigit then some (c.toNat - '0'.toNat)
  else if 'a' ≤ c && c ≤ 'f' then some (c.toNat - 'a'.toNat + 10)
  else if 'A' ≤ c && c ≤ 'F' then some (c.toNat - 'A'.toNat + 10)
  else none

/-- The character with a code point, if there is one. -/
def charOf? (n : Nat) : Option Char :=
  if n.isValidChar then some (Char.ofNat n) else none

/-- Reads exactly `n` hexadecimal digits after the number `value`. -/
def digits? (f : Flags) : Nat → Nat → List Char → Option (Nat × List Char)
  | 0, value, cs => some (value, cs)
  | _ + 1, _, [] => none
  | n + 1, value, c :: cs =>
    match hexDigit? c with
    | some d => digits? f n (16 * value + d) (f.skip cs)
    | none => none

/-- Reads hexadecimal digits after the number `value` up to a closing brace; `n` bounds them. -/
def braced? (f : Flags) : Nat → Nat → List Char → Option (Nat × List Char)
  | n + 1, value, c :: cs =>
    if c = '}' then some (value, f.skip cs)
    else
      match hexDigit? c with
      | some d => braced? f n (16 * value + d) (f.skip cs)
      | none => none
  | _, _, _ => none

/-- Reads a code point: digits in braces, or exactly `width` digits. -/
def code? (f : Flags) (width : Nat) (cs : List Char) : Option (Char × List Char) :=
  let read :=
    match f.skip cs with
    | '{' :: cs =>
      match f.skip cs with
      | '}' :: _ => none
      | cs => braced? f (cs.length + 1) 0 cs
    | cs => digits? f width 0 cs
  read.bind fun (n, rest) => (charOf? n).map (·, rest)

/-- Whether a backslash makes a character stand for itself. -/
def isLiteral (c : Char) : Bool :=
  c.toNat < 0x80 && !c.isAlphanum && c != '<' && c != '>'

/-- Reads what follows a backslash. -/
def read? (f : Flags) : List Char → Option (Escape × List Char)
  | [] => none
  | c :: cs =>
    match c with
    | 'd' => some (.set .digit, cs)
    | 'D' => some (.set (Text.Ranges.compl CharSet.digit), cs)
    | 'w' => some (.set .word, cs)
    | 'W' => some (.set (Text.Ranges.compl CharSet.word), cs)
    | 's' => some (.set .blank, cs)
    | 'S' => some (.set (Text.Ranges.compl CharSet.blank), cs)
    | 'x' => (code? f 2 cs).map fun (c, rest) => (.char c, rest)
    | 'u' => (code? f 4 cs).map fun (c, rest) => (.char c, rest)
    | 'U' => (code? f 8 cs).map fun (c, rest) => (.char c, rest)
    | 'a' => some (.char '\x07', cs)
    | 'f' => some (.char '\x0c', cs)
    | 't' => some (.char '\t', cs)
    | 'n' => some (.char '\n', cs)
    | 'r' => some (.char '\r', cs)
    | 'v' => some (.char '\x0b', cs)
    | 'A' => some (.anchor .textStart, cs)
    | 'z' => some (.anchor .textEnd, cs)
    | 'b' => some (.anchor .wordEdge, cs)
    | 'B' => some (.anchor .notWordEdge, cs)
    | '<' => some (.anchor .wordStart, cs)
    | '>' => some (.anchor .wordEnd, cs)
    | c => if isLiteral c then some (.char c, cs) else none

end Escape

end Keyplan.Regex
