import Keyplan.Settings.Error
import Keyplan.Text.Blank
import Keyplan.Text.Bytes
import Keyplan.Text.Lines

/-!
# Lines of a settings block

A block is read line by line. Comments and blank lines drop out; of each other line remain its
number, its indentation in bytes and its text.
-/

namespace Keyplan

/-- A line that is neither blank nor all comment. -/
structure Line where
  /-- The number of the line within the block, from one. -/
  number : Nat
  /-- Number of bytes in front of the text. -/
  indent : Nat
  /-- The text without comment and without blanks at its ends. -/
  text : List Char
  deriving DecidableEq, Repr

namespace Line

/-- Cuts a comment off a line. A comment starts at a `#` at the start of the line or after a blank,
unless a quote is open: `quote` is the open quote, and `fresh` says that a comment may start. -/
def stripComment (quote : Option Char) (fresh : Bool) : List Char → List Char
  | [] => []
  | c :: cs =>
    match quote with
    | some q => c :: stripComment (if c = q then none else some q) (Text.isBlank c) cs
    | none =>
      if c = '"' ∨ c = '\'' then c :: stripComment (some c) (Text.isBlank c) cs
      else if c = '#' ∧ fresh then []
      else c :: stripComment none (Text.isBlank c) cs

/-- The content of a raw line: its indentation and its text. -/
def content (raw : List Char) : List Char :=
  Text.trimRight (stripComment none true raw)

/-- Reads one raw line; a line without content gives none. -/
def ofRaw (number : Nat) (raw : List Char) : Except SettingsError (Option Line) :=
  let lead := (content raw).takeWhile Text.isBlank
  let text := (content raw).dropWhile Text.isBlank
  if text.isEmpty then .ok none
  else if lead.contains '\t' then .error (.tabIndentation number)
  else .ok (some ⟨number, Text.size lead, text⟩)

/-- Reads raw lines that are numbered from `number` on. -/
def ofRaws (number : Nat) : List (List Char) → Except SettingsError (List Line)
  | [] => .ok []
  | raw :: raws => do
    let line? ← ofRaw number raw
    let rest ← ofRaws (number + 1) raws
    return line?.toList ++ rest

/-- The lines of a block. -/
def ofBlock (block : List Char) : Except SettingsError (List Line) :=
  ofRaws 1 (Text.lines block)

/-- Whether the line is an item of a sequence. -/
def isItem (line : Line) : Bool :=
  match line.text with
  | ['-'] => true
  | '-' :: ' ' :: _ => true
  | _ => false

/-- The line of an item without its mark, indented where its text starts. -/
def itemBody (line : Line) : Line :=
  let body := Text.trimLeft (line.text.drop 1)
  { line with indent := line.indent + (Text.size line.text - Text.size body), text := body }

end Line

end Keyplan
