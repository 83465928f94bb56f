import Keyplan.Arguments
import Keyplan.Invocation
import Keyplan.Settings

/-!
# Keymaps

A keymap is the list of all layouts of a text, one layer each, all with the same number of keys,
together with the settings in front of them.
-/

namespace Keyplan

/-- A keymap read from a text. -/
structure Keymap where
  /-- The keyword of the first layout. -/
  keyword : String
  /-- The keys of each layer, in the order of the text. -/
  layers : List (List Node)
  /-- The position just after the last layout. -/
  stop : Nat
  /-- The settings in front of the first layout. -/
  settings : Settings
  deriving Repr

namespace Keymap

/-- Number of keys of each layer. -/
def keyCount (m : Keymap) : Nat :=
  (m.layers.head?.map List.length).getD 0

/-- The key at a place of a layer. -/
def key? (m : Keymap) (layer key : Nat) : Option Node :=
  m.layers[layer]?.bind (·[key]?)

/-- Reads the layout whose arguments `cs` start at `pos`, and all layouts after it. The result
holds the layers and the position after the last one. -/
def readLayers (pos : Nat) (cs : List Char) : Except ParseError (List (List Node) × Nat) :=
  match _hargs : readArguments 1 pos cs with
  | .error e => .error e
  | .ok (keys, stop, left) =>
    match _hnext : Invocation.search 0 (some ')') stop left with
    | none => .ok ([keys], stop)
    | some (next, rest) =>
      match readLayers next.argsStart rest with
      | .error e => .error e
      | .ok (layers, last) => .ok (keys :: layers, last)
termination_by cs.length
decreasing_by
  have := length_le_of_readArguments _hargs
  have := Invocation.length_lt_of_search _hnext
  omega

/-- The first layer, counted from `layer`, that has not `expected` keys. -/
def firstMismatch? (expected layer : Nat) : List (List Node) → Option ParseError
  | [] => none
  | keys :: layers =>
    if keys.length = expected then firstMismatch? expected (layer + 1) layers
    else some (.layerCountMismatch layer expected keys.length)

/-- What is wrong with the numbers of keys: first among the layers, then with the keyboard. -/
def countError? (layers : List (List Node)) (keys : Option Nat) : Option ParseError :=
  let expected := (layers.head?.map List.length).getD 0
  match firstMismatch? expected 0 layers with
  | some e => some e
  | none =>
    match keys with
    | none => none
    | some n => if n = expected then none else some (.keyCountMismatch n expected)

/-- Reads a keymap; `keys` is the number of keys of the keyboard, if it is known. -/
def parse [PatternEngine] (text : String) (keys : Option Nat) : Except ParseError Keymap :=
  match Invocation.search 0 none 0 text.toList with
  | none => .error .missingInvocation
  | some (first, rest) =>
    match readLayers first.argsStart rest with
    | .error e => .error e
    | .ok (layers, stop) =>
      match countError? layers keys with
      | some e => .error e
      | none =>
        let settings := Settings.ofPreamble (Text.takeBytes first.start text.toList)
        .ok ⟨first.keyword, layers, stop, settings⟩

end Keymap

end Keyplan
