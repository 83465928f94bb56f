import Keyplan.Settings

/-!
# Keycap rules

The setting `keycaps` lists how the caps of some keys look: which keys, their text and background.
-/

namespace Keyplan

/-- The keys that a rule is about. -/
inductive KeycapMatch where
  /-- The key with exactly this name. -/
  | keycode (name : String)
  /-- The keys whose names a pattern matches. -/
  | pattern (p : Pattern)

/-- Whether a rule is about a key. -/
def KeycapMatch.accepts (m : KeycapMatch) (keycode : String) : Bool :=
  match m with
  | .keycode name => name == keycode
  | .pattern p => p.matchesIn keycode

/-- How the caps of some keys look. -/
structure KeycapRule where
  /-- The keys. -/
  target : KeycapMatch
  /-- The text on the cap. -/
  text : Option String
  /-- The background of the cap. -/
  background : Option String

/-- The rule that a value writes. It needs a name or a pattern under `match`. -/
def KeycapRule.ofValue? (v : Value) : Option KeycapRule := do
  let target ← match ← v.get? "match" with
    | .str name => some (KeycapMatch.keycode name)
    | .pattern p => some (.pattern p)
    | _ => none
  return ⟨target, (v.get? "text").bind Value.str?, (v.get? "bg").bind Value.str?⟩

/-- The keycap rules of settings; entries that write no rule are left out. -/
def Settings.keycapRules (s : Settings) : List KeycapRule :=
  (((s.get? "keycaps").bind Value.seq?).getD []).filterMap KeycapRule.ofValue?

end Keyplan
