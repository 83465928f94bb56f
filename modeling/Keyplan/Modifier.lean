import Keyplan.Text.Blank
import Keyplan.Text.Split

/-!
# Modifiers

The eight modifier keys, their names, and how several of them are written together.
-/

namespace Keyplan

/-- A modifier key. -/
inductive Modifier where
  /-- Control, left. -/
  | leftCtrl
  /-- Control, right. -/
  | rightCtrl
  /-- Shift, left. -/
  | leftShift
  /-- Shift, right. -/
  | rightShift
  /-- Alt, left. -/
  | leftAlt
  /-- Alt, right. -/
  | rightAlt
  /-- Windows or command key, left. -/
  | leftGui
  /-- Windows or command key, right. -/
  | rightGui
  deriving DecidableEq, Repr, Inhabited

namespace Modifier

/-- All modifiers in the order in which they are shown. -/
def all : List Modifier :=
  [.leftCtrl, .rightCtrl, .leftShift, .rightShift, .leftAlt, .rightAlt, .leftGui, .rightGui]

/-- The place of the modifier in `all`. -/
def rank : Modifier → Nat
  | .leftCtrl => 0
  | .rightCtrl => 1
  | .leftShift => 2
  | .rightShift => 3
  | .leftAlt => 4
  | .rightAlt => 5
  | .leftGui => 6
  | .rightGui => 7

/-- The name of the function that applies the modifier. -/
def functionName : Modifier → String
  | .leftCtrl => "LCTL"
  | .rightCtrl => "RCTL"
  | .leftShift => "LSFT"
  | .rightShift => "RSFT"
  | .leftAlt => "LALT"
  | .rightAlt => "RALT"
  | .leftGui => "LGUI"
  | .rightGui => "RGUI"

/-- The full name on a keycap. -/
def longName : Modifier → String
  | .leftCtrl => "Ctrl"
  | .rightCtrl => "RCtrl"
  | .leftShift => "Shift"
  | .rightShift => "RShift"
  | .leftAlt => "Alt"
  | .rightAlt => "AltGr"
  | .leftGui => "Win"
  | .rightGui => "RWin"

/-- The name in three letters. -/
def abbreviation : Modifier → String
  | .leftCtrl => "Ctl"
  | .rightCtrl => "RCt"
  | .leftShift => "Sft"
  | .rightShift => "RSf"
  | .leftAlt => "Alt"
  | .rightAlt => "AGr"
  | .leftGui => "Win"
  | .rightGui => "RWn"

/-- The name in one letter. -/
def letter : Modifier → String
  | .leftCtrl | .rightCtrl => "C"
  | .leftShift | .rightShift => "S"
  | .leftAlt | .rightAlt => "A"
  | .leftGui | .rightGui => "W"

/-- The modifier that a keycode stands for. -/
def ofKeycode? : String → Option Modifier
  | "KC_LCTL" | "KC_LCTRL" => some .leftCtrl
  | "KC_RCTL" | "KC_RCTRL" => some .rightCtrl
  | "KC_LSFT" | "KC_LSHIFT" => some .leftShift
  | "KC_RSFT" | "KC_RSHIFT" => some .rightShift
  | "KC_LALT" | "KC_LOPT" => some .leftAlt
  | "KC_RALT" | "KC_ROPT" | "KC_ALGR" => some .rightAlt
  | "KC_LGUI" | "KC_LCMD" | "KC_LWIN" => some .leftGui
  | "KC_RGUI" | "KC_RCMD" | "KC_RWIN" => some .rightGui
  | _ => none

/-- Control, shift, alt and the Windows key together. -/
def hyper : List Modifier := [.leftCtrl, .leftShift, .leftAlt, .leftGui]

/-- Control, shift and alt together. -/
def meh : List Modifier := [.leftCtrl, .leftShift, .leftAlt]

/-- The modifiers that one part of a mask names. -/
def ofMaskPart? : String → Option (List Modifier)
  | "MOD_LCTL" => some [.leftCtrl]
  | "MOD_RCTL" => some [.rightCtrl]
  | "MOD_LSFT" => some [.leftShift]
  | "MOD_RSFT" => some [.rightShift]
  | "MOD_LALT" => some [.leftAlt]
  | "MOD_RALT" => some [.rightAlt]
  | "MOD_LGUI" => some [.leftGui]
  | "MOD_RGUI" => some [.rightGui]
  | "MOD_MEH" => some meh
  | "MOD_HYPR" => some hyper
  | _ => none

/-- The modifiers of mask parts, one after the other. -/
def ofMaskParts? : List (List Char) → Option (List Modifier)
  | [] => some []
  | part :: parts =>
    match ofMaskPart? (String.ofList (Text.trim part)), ofMaskParts? parts with
    | some ms, some rest => some (ms ++ rest)
    | _, _ => none

/-- The modifiers of a mask such as `MOD_LCTL | MOD_LSFT`. -/
def ofMask? (mask : String) : Option (List Modifier) :=
  ofMaskParts? (Text.splitBy '|' mask.toList)

/-- The modifiers in the order in which they are shown. -/
def sort (ms : List Modifier) : List Modifier :=
  ms.mergeSort fun a b => a.rank ≤ b.rank

/-- Modifiers as they are shown together: up to two in three letters each, more in one. -/
def shortText (ms : List Modifier) : String :=
  "+".intercalate ((sort ms).map fun m => if 2 < ms.length then m.letter else m.abbreviation)

end Modifier

end Keyplan
