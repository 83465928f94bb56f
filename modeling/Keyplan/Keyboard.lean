import Keyplan.Evaluation
import Keyplan.Vocabulary

/-!
# The functions of a keyboard

The executor that gives key expressions their meanings.
-/

namespace Keyplan

/-- A function of key expressions. -/
inductive KeyFunction where
  /-- Applies modifiers. -/
  | modify (mods : List Modifier)
  /-- Applies modifiers while the key is held. -/
  | modTap (mods : List Modifier)
  /-- Acts on a layer. -/
  | onLayer (action : LayerAction)
  /-- Applies the modifiers of a mask to one key press. -/
  | oneShotModifier
  /-- Makes a layer active while the key is held. -/
  | layerTap
  /-- Applies the modifiers of a mask while the key is held. -/
  | modTapMask
  deriving DecidableEq, Repr

/-- The error of a call with a wrong number of arguments. -/
def KeyFunction.arityError (name : String) (expected actual : Nat) : Meaning :=
  .error s!"{name} expects {expected} argument(s), got {actual}"

/-- Number of arguments of the function. -/
def KeyFunction.arity : KeyFunction → Nat
  | .layerTap | .modTapMask => 2
  | _ => 1

/-- The meaning of a call of the function under a name. -/
def KeyFunction.apply (f : KeyFunction) (name : String) (args : List Meaning) : Meaning :=
  match f, args with
  | .modify mods, [v] => v.modifyAll mods
  | .modTap mods, [v] => (v.modifyAll mods).tap
  | .onLayer action, [v] => Meaning.actOn action v
  | .oneShotModifier, [v] => v.oneShot
  | .layerTap, [layer, key] => layer.tapLayer key
  | .modTapMask, [mask, key] => mask.tapMask key
  | f, args => KeyFunction.arityError name f.arity args.length

namespace Keyboard

/-- The functions that apply modifiers, and which. -/
def modifierFunctions : List (String × List Modifier) :=
  [("LCTL", [.leftCtrl]), ("LSFT", [.leftShift]), ("LALT", [.leftAlt]), ("LGUI", [.leftGui]),
    ("RCTL", [.rightCtrl]), ("RSFT", [.rightShift]), ("RALT", [.rightAlt]), ("RGUI", [.rightGui]),
    ("C", [.leftCtrl]), ("S", [.leftShift]), ("A", [.leftAlt]), ("G", [.leftGui]),
    ("LOPT", [.leftAlt]), ("LCMD", [.leftGui]), ("LWIN", [.leftGui]), ("ROPT", [.rightAlt]),
    ("ALGR", [.rightAlt]), ("RCMD", [.rightGui]), ("RWIN", [.rightGui]), ("HYPR", Modifier.hyper),
    ("MEH", Modifier.meh), ("LCA", [.leftCtrl, .leftAlt]), ("LSA", [.leftShift, .leftAlt]),
    ("LCAG", [.leftCtrl, .leftAlt, .leftGui]), ("SGUI", [.leftShift, .leftGui])]

/-- Further names of functions that apply modifiers while held, each with its modifier function. -/
def tapAliases : List (String × String) :=
  [("CTL_T", "LCTL"), ("SFT_T", "LSFT"), ("ALT_T", "LALT"), ("OPT_T", "LALT"), ("GUI_T", "LGUI"),
    ("CMD_T", "LGUI"), ("WIN_T", "LGUI"), ("ALL_T", "HYPR")]

/-- The modifiers of a modifier function. -/
def modifiersOf? (name : String) : Option (List Modifier) :=
  (modifierFunctions.find? fun row => row.1 == name).map Prod.snd

/-- All functions under their names. Every modifier function has a form with `_T` that applies its
modifiers while the key is held. -/
def functions : List (String × KeyFunction) :=
  (modifierFunctions.flatMap fun (name, mods) =>
    [(name, .modify mods), (name ++ "_T", .modTap mods)]) ++
  (tapAliases.filterMap fun (name, target) =>
    (modifiersOf? target).map fun mods => (name, .modTap mods)) ++
  (LayerAction.all.map fun action => (action.functionName, .onLayer action)) ++
  [("OSM", .oneShotModifier), ("LT", .layerTap), ("MT", .modTapMask)]

/-- The function of a name. -/
def function? (name : String) : Option KeyFunction :=
  (functions.find? fun row => row.1 == name).map Prod.snd

/-- The names of all functions in order. -/
def functionNames : List String :=
  (functions.map Prod.fst).mergeSort fun a b => a ≤ b

/-- The executor that gives key expressions their meanings. -/
def executor : Executor Meaning where
  word := Vocabulary.meaning
  function? name := (function? name).map fun f => f.apply name

end Keyboard

end Keyplan
