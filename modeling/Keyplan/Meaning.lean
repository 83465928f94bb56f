import Keyplan.Modifier

/-!
# Meanings of keys

What a key does when it is pressed, and what its cap shows. Every function of key expressions is
here as an operation on meanings; what makes no sense becomes an error, which later operations
hand on.
-/

namespace Keyplan

/-- What the parts of a keycap show. -/
structure Hint where
  /-- The middle of the cap. -/
  center : Option String := none
  /-- The lower edge of the cap. -/
  bottom : Option String := none
  deriving DecidableEq, Repr

namespace Hint

/-- One text in the middle. -/
def middle (text : String) : Hint :=
  ⟨some text, none⟩

/-- One text in the middle and one below. -/
def split (center bottom : String) : Hint :=
  ⟨some center, some bottom⟩

end Hint

/-- The keycode that sends nothing. -/
def noKeycode : String := "KC_NO"

/-- The mark before the modifiers of a key that acts as a modifier while it is held. -/
def modTapMark : String := "•"

/-- The mark before a layer that is active while a key is held. -/
def layerTapGlyph : String := "▽"

/-- The mark of an action that holds for one key press. -/
def oneShotGlyph : String := "¹"

/-- The label of a keycode: its name without the common beginning. -/
def keyLabel (keycode : String) : String :=
  match keycode.toList with
  | 'K' :: 'C' :: '_' :: rest => String.ofList rest
  | _ => keycode

/-- A keycode together with modifiers, and what the cap shows for it. -/
structure Chord where
  /-- The keycode. -/
  keycode : String
  /-- The modifiers in the order in which they were applied. -/
  mods : List Modifier
  /-- The modifiers as text. -/
  text : String
  /-- What the cap shows. -/
  hint : Hint
  deriving DecidableEq, Repr

namespace Chord

/-- The text of modifiers on a keycode. A single modifier on no keycode has its full name. -/
def textOf (keycode : String) (mods : List Modifier) : String :=
  match mods with
  | [m] => if keycode = noKeycode then m.longName else Modifier.shortText mods
  | _ => Modifier.shortText mods

/-- The chord of modifiers on a keycode. -/
def of (keycode : String) (mods : List Modifier) : Chord :=
  let text := textOf keycode mods
  let hint := if keycode = noKeycode then .middle text else .split (keyLabel keycode) text
  ⟨keycode, mods, text, hint⟩

/-- The chord shown as a key that acts as its modifiers while it is held. -/
def tap (c : Chord) : Chord :=
  let text := modTapMark ++ Modifier.shortText c.mods
  { c with text, hint := .split (keyLabel c.keycode) text }

end Chord

/-- An action on one layer. -/
inductive LayerAction where
  /-- Active while the key is held. -/
  | momentary
  /-- Switched on and off. -/
  | toggle
  /-- Active for one key press. -/
  | oneShot
  /-- Switched to. -/
  | goTo
  /-- Made the default. -/
  | default
  /-- Active while held, switched on by repeated taps. -/
  | tapToggle
  deriving DecidableEq, Repr

namespace LayerAction

/-- The name of the function that names the action. -/
def functionName : LayerAction → String
  | .momentary => "MO"
  | .toggle => "TG"
  | .oneShot => "OSL"
  | .goTo => "TO"
  | .default => "DF"
  | .tapToggle => "TT"

/-- The mark of the action on a keycap. -/
def glyph : LayerAction → String
  | .momentary => "▼"
  | .toggle => "⇄"
  | .oneShot => oneShotGlyph
  | .goTo => "→"
  | .default => "⌂"
  | .tapToggle => "⇅"

/-- The action as messages call it. -/
def describe : LayerAction → String
  | .momentary => "momentary layer"
  | .toggle => "toggle layer"
  | .oneShot => "one-shot layer"
  | .goTo => "to-layer"
  | .default => "default layer"
  | .tapToggle => "tap-toggle layer"

/-- All actions on one layer. -/
def all : List LayerAction :=
  [.momentary, .toggle, .oneShot, .goTo, .default, .tapToggle]

end LayerAction

/-- What a key does. -/
inductive Meaning where
  /-- Sends a keycode. -/
  | keycode (name : String)
  /-- Sends a keycode with modifiers. -/
  | chord (c : Chord)
  /-- Acts as modifiers while held and sends a keycode when tapped. -/
  | modTap (c : Chord)
  /-- Makes a layer active while held and sends a keycode when tapped. -/
  | layerTap (layer keycode : String) (hint : Hint)
  /-- Acts on a layer. -/
  | onLayer (action : LayerAction) (layer : String) (hint : Hint)
  /-- Applies modifiers to one key press. -/
  | oneShotModifier (mods : List Modifier) (hint : Hint)
  /-- Makes no sense. -/
  | error (message : String)
  deriving DecidableEq, Repr

namespace Meaning

/-- Whether the meaning is an error. -/
def isError : Meaning → Bool
  | .error _ => true
  | _ => false

/-- What the cap shows, where the meaning says so. -/
def hint? : Meaning → Option Hint
  | .chord c => some c.hint
  | .modTap c => some c.hint
  | .layerTap _ _ hint => some hint
  | .onLayer _ _ hint => some hint
  | .oneShotModifier _ hint => some hint
  | .keycode _ => none
  | .error _ => none

/-- The meaning as messages call it. -/
def describe : Meaning → String
  | .keycode _ => "keycode"
  | .chord _ => "modifier result"
  | .modTap _ => "mod-tap"
  | .layerTap _ _ _ => "layer-tap"
  | .onLayer action _ _ => action.describe
  | .oneShotModifier _ _ => "one-shot modifier"
  | .error _ => "error"

/-- Applies a modifier. A modifier on a modifier key applies both to no keycode. -/
def modify (m : Modifier) (v : Meaning) : Meaning :=
  match v with
  | .keycode name =>
    match Modifier.ofKeycode? name with
    | some inner => .chord (.of noKeycode [inner, m])
    | none => .chord (.of name [m])
  | .chord c => .chord (.of c.keycode (c.mods ++ [m]))
  | .error message => .error message
  | v => .error (m.functionName ++ " cannot be applied to a " ++ v.describe)

/-- Applies modifiers in order. -/
def modifyAll (ms : List Modifier) (v : Meaning) : Meaning :=
  ms.foldl (fun v m => v.modify m) v

/-- Makes a chord act as its modifiers while held. Without a keycode there is nothing to tap, and
the chord stays as it is. -/
def tap (v : Meaning) : Meaning :=
  match v with
  | .chord c => if c.keycode = noKeycode then .chord c else .modTap c.tap
  | .error message => .error message
  | v => .error ("mod-tap needs a modifier result, got a " ++ v.describe)

/-- The layer that a meaning names, for the function `action`. -/
def layerName (action : String) (v : Meaning) : Except Meaning String :=
  match v with
  | .keycode name => .ok name
  | .error message => .error (.error message)
  | v => .error (.error (action ++ " needs a layer name, got a " ++ v.describe))

/-- Makes a layer active while held and sends a keycode when tapped. -/
def tapLayer (layer key : Meaning) : Meaning :=
  match layer.layerName "LT" with
  | .error e => e
  | .ok layer =>
    match key with
    | .keycode name => .layerTap layer name (.split (keyLabel name) (layerTapGlyph ++ layer))
    | .error message => .error message
    | v => .error ("LT needs a plain keycode, got a " ++ v.describe)

/-- Acts on a layer. -/
def actOn (action : LayerAction) (layer : Meaning) : Meaning :=
  match layer.layerName action.functionName with
  | .error e => e
  | .ok layer => .onLayer action layer (.middle (action.glyph ++ layer))

/-- The modifiers of a mask, for the function `action`. -/
def maskOf (action : String) (v : Meaning) : Except Meaning (List Modifier) :=
  match v with
  | .keycode mask =>
    match Modifier.ofMask? mask with
    | some ms => .ok ms
    | none => .error (.error (action ++ ": unknown mod mask '" ++ mask ++ "'"))
  | .error message => .error (.error message)
  | v => .error (.error (action ++ " needs a mod mask, got a " ++ v.describe))

/-- Applies the modifiers of a mask to one key press. -/
def oneShot (mask : Meaning) : Meaning :=
  match mask.maskOf "OSM" with
  | .error e => e
  | .ok ms => .oneShotModifier ms (.middle (oneShotGlyph ++ Modifier.shortText ms))

/-- Acts as the modifiers of a mask while held and sends a keycode when tapped. -/
def tapMask (mask key : Meaning) : Meaning :=
  match mask.maskOf "MT" with
  | .error e => e
  | .ok ms => (key.modifyAll ms).tap

end Meaning

end Keyplan
