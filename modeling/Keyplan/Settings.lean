import Keyplan.Settings.Outline

/-!
# Settings

A keymap may carry settings in a comment `/*--- … ---*/` before its first layout. The comment holds
a mapping, written by indentation.
-/

namespace Keyplan

/-- The settings of a keymap. -/
structure Settings where
  /-- The values under their keys. -/
  entries : Entries := []
  deriving Repr, Inhabited

namespace Settings

/-- The mark that opens a block of settings. -/
def blockOpen : List Char := ['/', '*', '-', '-', '-']

/-- The mark that closes a block of settings. -/
def blockClose : List Char := ['-', '-', '-', '*', '/']

/-- The text between the first opening mark and the next closing one. -/
def findBlock? (cs : List Char) : Option (List Char) :=
  match Text.cut? blockOpen cs with
  | none => none
  | some (_, body) => (Text.cut? blockClose body).map Prod.fst

variable [PatternEngine]

/-- Reads the settings of a block. An empty block has no settings; all else is a mapping. -/
def read (block : List Char) : Except SettingsError Settings :=
  match Line.ofBlock block with
  | .error e => .error e
  | .ok lines =>
    match Outline.read? lines with
    | .error e => .error e
    | .ok none => .ok {}
    | .ok (some (.map entries)) => .ok { entries }
    | .ok (some _) => .error .notAMapping

/-- Reads the settings of a block. -/
def parse (block : String) : Except SettingsError Settings :=
  read block.toList

/-- The settings of the text before a keymap. A block that cannot be read has no settings. -/
def ofPreamble (cs : List Char) : Settings :=
  match findBlock? cs with
  | none => {}
  | some block =>
    match read block with
    | .error _ => {}
    | .ok settings => settings

/-- The value under a key. -/
def get? (s : Settings) (key : String) : Option Value :=
  s.entries.get? key

/-- Whether two settings are equal. -/
def same (s t : Settings) : Bool :=
  (Value.map s.entries).same (.map t.entries)

end Settings

end Keyplan
