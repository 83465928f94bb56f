import Keyplan.Command.Basic
import Keyplan.Edit
import Keyplan.Export
import Keyplan.File.KeymapFile
import Keyplan.Keyboard

/-!
# Running commands

What a command prints and what it does to files. A file is written only through a transaction and
only with a text that is a keymap. The operations on files, the engine for patterns and the way in
which a command line is read are given from outside.
-/

namespace Keyplan

open File (Path FileSystem FileError KeymapFile Transaction)

/-- What a command leaves behind besides files. -/
structure Outcome where
  /-- The exit code. -/
  exit : Nat := 0
  /-- What was printed. -/
  out : String := ""
  /-- What was printed to the channel for errors. -/
  err : String := ""
  deriving DecidableEq, Repr

namespace Outcome

/-- The outcome of a command that failed after it had printed `err`. -/
def failure (err message : String) : Outcome :=
  ⟨1, "", err ++ "Error: " ++ message ++ "\n"⟩

/-- A text whose further lines stand under the first one behind four spaces. -/
def indented (s : String) : String :=
  String.ofList (s.toList.flatMap fun c => if c = '\n' then c :: List.replicate 4 ' ' else [c])

/-- The outcome of a command that failed with an error that may have a cause of its own. -/
def failureFrom (err message : String) (cause? : Option String) : Outcome :=
  match cause? with
  | none => failure err message
  | some cause => failure err (message ++ "\n\nCaused by:\n    " ++ indented cause)

/-- The outcome of a command that failed at a file. -/
def fileFailure (err : String) (e : FileError) : Outcome :=
  failureFrom err e.message e.cause?

end Outcome

namespace Report

/-- A text with spaces in front up to a width. -/
def alignRight (width : Nat) (s : String) : String :=
  String.ofList (List.replicate (width - s.length) ' ') ++ s

/-- The line that holds a position, with its number and a mark below the position. -/
def excerpt (text : String) (offset : Nat) : String :=
  let before := Text.takeBytes offset text.toList
  let after := Text.dropBytes offset text.toList
  let lead := (before.reverse.takeWhile (· != '\n')).reverse
  let rest := after.takeWhile (· != '\n')
  let number := before.count '\n' + 1
  alignRight 5 (toString number) ++ " | " ++ String.ofList (lead ++ rest) ++ "\n" ++
    alignRight 5 "" ++ " | " ++ String.ofList (List.replicate lead.length ' ') ++ "^\n"

/-- A parse error with the line that it points at. -/
def parseError (path : Path) (text : String) (e : ParseError) : String :=
  "✗ " ++ path ++ ": " ++ e.message ++ "\n" ++
    match e.offset? with
    | none => ""
    | some offset => excerpt text offset

/-- Lines that start with a number each, from `index` on. -/
def numbered (index : Nat) : List String → String
  | [] => ""
  | s :: rest =>
    "  " ++ alignRight 3 (toString index) ++ ". " ++ s ++ "\n" ++ numbered (index + 1) rest

/-- The layers of a keymap, from number `index` on. -/
def layers (index : Nat) : List (List Node) → String
  | [] => ""
  | keys :: rest =>
    "Layer " ++ toString index ++ "\n" ++ numbered 0 (keys.map Node.render) ++ "\n" ++
      layers (index + 1) rest

/-- A keymap with all its layers. -/
def keymap (m : Keymap) : String :=
  "✓ " ++ toString m.layers.length ++ " layer(s) × " ++ toString m.keyCount ++ " key(s) using " ++
    m.keyword ++ "\n\n" ++ layers 0 m.layers ++
    if m.settings.entries.isEmpty then ""
    else "→ settings entries: " ++ toString m.settings.entries.length ++ "\n"

/-- What a key does, in words. -/
def meaning : Option Meaning → String
  | none => "(no meaning)"
  | some (.error message) => message
  | some (.keycode name) => name
  | some v =>
    let hint := v.hint?.getD {}
    match hint.bottom with
    | some bottom => hint.center.getD "" ++ " / " ++ bottom
    | none => hint.center.getD ""

/-- The keys of a layer with what they do. -/
def meanings (path : Path) (layer : Nat) (keys : List Node) : String :=
  "Layer " ++ toString layer ++ " of " ++ path ++ "\n\n" ++
    numbered 0 (keys.map fun n => n.render ++ " → " ++ meaning (Keyboard.executor.value? n))

end Report

namespace Command

/-- The path with the home directory in the place of a tilde at its start. -/
def expandHome (home : Option String) (path : Path) : Path :=
  match home, path.toList with
  | some home, ['~'] => home
  | some home, '~' :: '/' :: rest => home ++ String.ofList ('/' :: rest)
  | _, _ => path

variable [PatternEngine]

/-- Lists the layers of a keymap. -/
def runParse (path : Path) (text : String) (keys : Option Nat) (json : Bool) : Outcome :=
  match Keymap.parse text keys with
  | .error e => .failure (Report.parseError path text e) e.message
  | .ok m => { out := if json then m.toJson.pretty ++ "\n" else Report.keymap m }

/-- Shows the settings in front of the first layout, or of the whole text if it has none. -/
def runSettings (text : String) : Outcome :=
  let preamble :=
    match Invocation.search 0 none 0 text.toList with
    | some (first, _) => Text.takeBytes first.start text.toList
    | none => text.toList
  match Settings.findBlock? preamble with
  | none => { out := (Settings.toJson {}).pretty ++ "\n" }
  | some block =>
    match Settings.read block with
    | .error e => .failureFrom "" e.message e.cause?
    | .ok s => { out := s.toJson.pretty ++ "\n" }

/-- Shows what the keys of a layer do. -/
def runRender (path : Path) (text : String) (layer : Nat) (json : Bool) : Outcome :=
  match Keymap.parse text none with
  | .error e => .failure (Report.parseError path text e) e.message
  | .ok m =>
    match m.layers[layer]? with
    | none => .failure "" s!"Layer {layer} does not exist ({m.layers.length} layers)"
    | some keys =>
      let results := keys.map fun n =>
        match Keyboard.executor.value? n with
        | some v => v.toJson
        | none => .null
      { out := if json then (Json.arr results).pretty ++ "\n" else Report.meanings path layer keys }

section

variable {m : Type → Type} [Monad m] (fs : FileSystem m)

/-- Writes a text to a keymap file through a transaction. On success `done` is printed; `err` has
been printed before. -/
def writeBack (path : Path) (text err done : String) : m Outcome := do
  match ← KeymapFile.openAt fs path with
  | .error e => return .fileFailure err e
  | .ok file =>
    match ← Transaction.begin fs file with
    | .error e => return .fileFailure err e
    | .ok t =>
      match ← t.commitChecked fs text with
      | .error e => return .fileFailure err e
      | .ok _ => return { out := done, err }

/-- Replaces one key. -/
def runSetKey (path : Path) (text : String) (layer key : Nat) (value : String)
    (keys : Option Nat) (write : Bool) : m Outcome :=
  let edit := Edit.setKey text layer key value keys
  if !edit.changed then
    match Keymap.parse text keys with
    | .error e => return .failure (Report.parseError path text e) e.message
    | .ok _ => return .failure "" s!"No key {key} on layer {layer}"
  else
    let err := match edit.validation with
      | none => ""
      | some e => "⚠ Edit leaves the keymap invalid: " ++ e.message ++ "\n"
    if write then writeBack fs path edit.text err ("✓ Updated " ++ path ++ "\n")
    else return { out := edit.text, err }

/-- Adds a layer. -/
def runAddLayer (path : Path) (text : String) (keyword : Option String) (write : Bool) :
    m Outcome :=
  match Keymap.parse text none with
  | .error e => return .failure (Report.parseError path text e) e.message
  | .ok keymap =>
    let edited := Edit.addLayer text (keyword.getD keymap.keyword)
    let done := s!"✓ Added layer {keymap.layers.length} to " ++ path ++ "\n"
    if write then writeBack fs path edited "" done else return { out := edited }

/-- The path that the command is about. -/
def path : Command → Path
  | .parse path _ _ => path
  | .settings path => path
  | .render path _ _ => path
  | .setKey path _ _ _ _ _ => path
  | .addLayer path _ _ => path

/-- Runs a command; `home` is the home directory. -/
def run (home : Option String) (c : Command) : m Outcome := do
  let path := expandHome home c.path
  match ← fs.readText path with
  | .error e => return .failure "" ("Failed to read " ++ path ++ ": " ++ e.message)
  | .ok text =>
    match c with
    | .parse _ keys json => return runParse path text keys json
    | .settings _ => return runSettings text
    | .render _ layer json => return runRender path text layer json
    | .setKey _ layer key value keys write => runSetKey fs path text layer key value keys write
    | .addLayer _ keyword write => runAddLayer fs path text keyword write

end

/-- What the program prints when it is asked for no command. -/
def refuse : Refusal → Outcome
  | .usage => { exit := 2, err := "error: unusable arguments\n" }
  | .help => { out := usageText }
  | .version => { out := "keymap-weaver 0.1.0\n" }
where
  /-- The forms of the command line. -/
  usageText : String :=
    "parse <keymap> [--keys <n>] [--json]\n" ++
    "settings <keymap>\n" ++
    "render <keymap> [--layer <n>] [--json]\n" ++
    "set-key <keymap> --layer <n> --key <n> <value> [--keys <n>] [--write]\n" ++
    "add-layer <keymap> [--keyword <word>] [--write]\n"

/-- Runs a command line, once it is read; `read` is the way to read it. -/
def runWith {m : Type → Type} [Monad m] (fs : FileSystem m) (home : Option String)
    (read : List String → Except Refusal Command) (words : List String) : m Outcome :=
  match read words with
  | .error r => return refuse r
  | .ok c => c.run fs home

end Command

end Keyplan
