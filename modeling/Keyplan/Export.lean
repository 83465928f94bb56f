import Keyplan.Json
import Keyplan.Keymap
import Keyplan.Meaning

/-!
# Keymaps, settings and meanings as JSON
-/

namespace Keyplan

mutual

/-- A setting as JSON; a pattern becomes an object with its written form. -/
def Value.toJson : Value → Json
  | .null => .null
  | .bool b => .bool b
  | .int n => .int n
  | .float x => .float x
  | .str s => .str s
  | .pattern p => .obj [("regex", .str p.source)]
  | .seq items => .arr (Value.itemsToJson items)
  | .map entries => .obj (Value.entriesToJson entries)

/-- The items of a sequence as JSON. -/
def Value.itemsToJson : List Value → List Json
  | [] => []
  | v :: vs => v.toJson :: Value.itemsToJson vs

/-- The entries of a mapping as JSON. -/
def Value.entriesToJson : List (String × Value) → List (String × Json)
  | [] => []
  | (key, v) :: es => (key, v.toJson) :: Value.entriesToJson es

end

/-- Settings as JSON. -/
def Settings.toJson (s : Settings) : Json :=
  .obj (Value.entriesToJson s.entries)

mutual

/-- A key expression as JSON. -/
def Node.toJson : Node → Json
  | .word content start stop =>
    .obj [("type", .str "word"), ("content", .str content), ("offset", .int start),
      ("end", .int stop)]
  | .call name args start stop source =>
    .obj [("type", .str "func"), ("name", .str name), ("args", .arr (Node.listToJson args)),
      ("offset", .int start), ("end", .int stop), ("fullText", .str source)]

/-- Key expressions as JSON. -/
def Node.listToJson : List Node → List Json
  | [] => []
  | n :: ns => n.toJson :: Node.listToJson ns

end

/-- A keymap as JSON. -/
def Keymap.toJson (m : Keymap) : Json :=
  .obj [("invocationKeyword", .str m.keyword),
    ("layers", .arr (m.layers.map fun keys => .arr (Node.listToJson keys))),
    ("endOffset", .int m.stop), ("settings", m.settings.toJson)]

/-- What a keycap shows as JSON; parts that show nothing are left out. -/
def Hint.toJson (h : Hint) : Json :=
  .obj ((h.center.map fun s => ("center", Json.str s)).toList ++
    (h.bottom.map fun s => ("bottomCenter", Json.str s)).toList)

/-- Modifiers as JSON. -/
def Modifier.listToJson (ms : List Modifier) : Json :=
  .arr (ms.map fun m => .str m.functionName)

/-- A chord as JSON. -/
def Chord.toJson (c : Chord) : Json :=
  .obj [("keycode", .str c.keycode), ("mods", Modifier.listToJson c.mods), ("text", .str c.text),
    ("rendered", c.hint.toJson)]

/-- The tag of an action on a layer. -/
def LayerAction.tag : LayerAction → String
  | .momentary => "momentary-layer"
  | .toggle => "toggle-layer"
  | .oneShot => "one-shot-layer"
  | .goTo => "to-layer"
  | .default => "default-layer"
  | .tapToggle => "tap-toggle-layer"

/-- The tag of a meaning. -/
def Meaning.tag : Meaning → String
  | .keycode _ => "keycode"
  | .chord _ => "modifier"
  | .modTap _ => "mod-tap"
  | .layerTap _ _ _ => "layer-tap"
  | .onLayer action _ _ => action.tag
  | .oneShotModifier _ _ => "one-shot-modifier"
  | .error _ => "error"

/-- What a meaning holds besides its tag, as JSON. -/
def Meaning.content : Meaning → Json
  | .keycode name => .str name
  | .chord c => c.toJson
  | .modTap c => c.toJson
  | .layerTap layer key hint =>
    .obj [("layer", .str layer), ("keycode", .str key), ("rendered", hint.toJson)]
  | .onLayer _ layer hint => .obj [("layer", .str layer), ("rendered", hint.toJson)]
  | .oneShotModifier mods hint =>
    .obj [("mods", Modifier.listToJson mods), ("rendered", hint.toJson)]
  | .error message => .obj [("message", .str message)]

/-- A meaning as JSON. -/
def Meaning.toJson (v : Meaning) : Json :=
  .obj [("kind", .str v.tag), ("value", v.content)]

end Keyplan
