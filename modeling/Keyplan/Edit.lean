import Keyplan.Keymap

/-!
# Edits of a keymap text

An edit replaces the text of one key or adds a layer, and leaves every other byte alone. A text
that is no keymap stays as it is.
-/

namespace Keyplan

/-- The keycode that fills a new layer. -/
def transparentKeycode : String := "KC_TRNS"

/-- The outcome of replacing a key. -/
structure Edit where
  /-- The text after the edit. -/
  text : String
  /-- Whether a key was replaced. -/
  changed : Bool
  /-- Why the text after the edit is no keymap, if it is none. -/
  validation : Option ParseError
  deriving DecidableEq, Repr

namespace Edit

/-- The outcome that leaves a text as it is. -/
def unchanged (text : String) : Edit :=
  ⟨text, false, none⟩

/-- The text with the bytes from `start` to `stop` replaced. -/
def splice (text : String) (start stop : Nat) (value : String) : String :=
  let cs := text.toList
  String.ofList (Text.takeBytes start cs ++ value.toList ++ Text.dropBytes stop cs)

variable [PatternEngine]

/-- Replaces the source of one key and reads the outcome again. The number of keys is not compared
a second time. -/
def setKey (text : String) (layer key : Nat) (value : String) (keys : Option Nat) : Edit :=
  match Keymap.parse text keys with
  | .error _ => unchanged text
  | .ok m =>
    match m.key? layer key with
    | none => unchanged text
    | some node =>
      let edited := splice text node.start node.sourceEnd value
      let validation :=
        match Keymap.parse edited none with
        | .error e => some e
        | .ok _ => none
      ⟨edited, true, validation⟩

/-- The text after replacing one key. -/
def setKeyText (text : String) (layer key : Nat) (value : String) (keys : Option Nat) : String :=
  (setKey text layer key value keys).text

/-- The text of a new layer: its number, the keyword and transparent keys. -/
def layerText (index : Nat) (keyword : String) (keys : Nat) : String :=
  ",\n [" ++ toString index ++ "] = " ++ keyword ++ "(" ++
    ", ".intercalate (List.replicate keys transparentKeycode) ++ ")"

/-- Adds a layer of transparent keys after the last layout. -/
def addLayer (text keyword : String) : String :=
  match Keymap.parse text none with
  | .error _ => text
  | .ok m => splice text m.stop m.stop (layerText m.layers.length keyword m.keyCount)

end Edit

end Keyplan
