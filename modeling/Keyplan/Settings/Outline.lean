import Keyplan.Settings.Line
import Keyplan.Settings.Scalar

/-!
# Values on several lines

Sequences and mappings are nested by indentation. The reader takes one line at a time and keeps the
containers that are open, innermost first. A line that does not belong to the innermost container
closes it, and its value goes to the container around it.
-/

namespace Keyplan

/-- An open container. -/
inductive Container where
  /-- A sequence; `waiting` says that its last item has a mark and no value yet. -/
  | seq (indent : Nat) (items : List Value) (waiting : Bool)
  /-- A mapping; `waiting` is its last key if that has no value yet. -/
  | map (indent : Nat) (entries : Entries) (waiting : Option String)

/-- What a line does to the innermost container. -/
inductive Reading where
  /-- The line is read, and these containers take the place of the innermost one. -/
  | taken (top : List Container)
  /-- The container is closed with a value, and the line is still to be read. -/
  | closed (value : Value) (line : Line)

namespace Container

/-- Gives a value to the item or key that waits for one. -/
def fill (v : Value) : Container → Container
  | .seq indent items true => .seq indent (items ++ [v]) false
  | .map indent entries (some key) => .map indent (entries.insert key v) none
  | c => c

/-- The value of the closed container; what still waits gets no value. -/
def close (c : Container) : Value :=
  match c.fill .null with
  | .seq _ items _ => .seq items
  | .map _ entries _ => .map entries

/-- Whether a line is part of the value that the container waits for. A sequence may stand under
its key without further indentation. -/
def nests (c : Container) (line : Line) : Bool :=
  match c with
  | .seq indent _ waiting => waiting && indent < line.indent
  | .map indent _ waiting =>
    waiting.isSome && (indent < line.indent || (line.indent == indent && line.isItem))

variable [PatternEngine]

/-- Reads a line as an entry of a mapping. -/
def readEntry (indent : Nat) (entries : Entries) (line : Line) : Except SettingsError Container :=
  match Scalar.splitKey? line.text with
  | none => .error (.invalidLine line.number (.expectedEntry (String.ofList line.text)))
  | some (key, rest) =>
    if rest.isEmpty then .ok (.map indent entries (some key))
    else
      match Scalar.read line.number rest with
      | .error e => .error e
      | .ok v => .ok (.map indent (entries.insert key v) none)

/-- Reads a line as an item of a sequence. An item that starts with a key opens a mapping at the
place of the key; if it is an item itself, that mapping and the sequence end at once. -/
def readItem (indent : Nat) (items : List Value) (line : Line) : Except SettingsError Reading :=
  let body := line.itemBody
  if body.text.isEmpty then .ok (.taken [.seq indent items true])
  else if (Scalar.splitKey? body.text).isSome then
    if body.isItem then .ok (.closed (.seq (items ++ [.map []])) body)
    else
      match readEntry body.indent [] body with
      | .error e => .error e
      | .ok inner => .ok (.taken [inner, .seq indent items true])
  else
    match Scalar.read line.number body.text with
    | .error e => .error e
    | .ok v => .ok (.taken [.seq indent (items ++ [v]) false])

/-- Reads a line with a container that waits for nothing. -/
def readSettled (line : Line) : Container → Except SettingsError Reading
  | .seq indent items _ =>
    if line.indent = indent ∧ line.isItem then readItem indent items line
    else .ok (.closed (.seq items) line)
  | .map indent entries _ =>
    if line.indent < indent ∨ (line.indent = indent ∧ line.isItem) then
      .ok (.closed (.map entries) line)
    else if indent < line.indent then .error (.unexpectedIndent line.number)
    else
      match readEntry indent entries line with
      | .error e => .error e
      | .ok c => .ok (.taken [c])

/-- Opens the container that a line starts. -/
def openAt (line : Line) : Except SettingsError Reading :=
  if line.isItem then readItem line.indent [] line
  else
    match readEntry line.indent [] line with
    | .error e => .error e
    | .ok c => .ok (.taken [c])

/-- Reads a line with the innermost container. -/
def read (line : Line) (c : Container) : Except SettingsError Reading :=
  if c.nests line then
    match openAt line with
    | .error e => .error e
    | .ok (.taken top) => .ok (.taken (top ++ [c]))
    | .ok (.closed v line) => readSettled line (c.fill v)
  else readSettled line (c.fill .null)

end Container

namespace Outline

/-- The error of a line that follows the whole value. -/
def leftover (line : Line) : SettingsError :=
  .invalidLine line.number (.unexpectedContent (String.ofList line.text))

variable [PatternEngine]

/-- Starts with the first line. -/
def start (line : Line) : Except SettingsError (List Container) :=
  match Container.openAt line with
  | .error e => .error e
  | .ok (.taken top) => .ok top
  | .ok (.closed _ line) => .error (leftover line)

/-- Reads a line with the open containers; `value` is what the innermost of them waits for, if that
has just been closed. -/
def feed (line : Line) (value : Option Value) : List Container →
    Except SettingsError (List Container)
  | [] => .error (leftover line)
  | c :: outer =>
    let c := match value with
      | some v => c.fill v
      | none => c
    match c.read line with
    | .error e => .error e
    | .ok (.taken top) => .ok (top ++ outer)
    | .ok (.closed v line) => feed line (some v) outer

/-- Reads lines with the open containers. -/
def run (opened : List Container) : List Line → Except SettingsError (List Container)
  | [] => .ok opened
  | line :: lines =>
    match feed line none opened with
    | .error e => .error e
    | .ok next => run next lines

/-- Closes all containers; `value` is what the innermost of them waits for. -/
def finish (value : Value) : List Container → Value
  | [] => value
  | c :: outer => finish (c.fill value).close outer

/-- The value that lines write; no lines write none. -/
def read? : List Line → Except SettingsError (Option Value)
  | [] => .ok none
  | line :: lines =>
    match start line with
    | .error e => .error e
    | .ok first =>
      match run first lines with
      | .error e => .error e
      | .ok opened => .ok (some (finish .null opened))

end Outline

end Keyplan
