import Keyplan.File.Path

/-!
# Commands

What the program can be asked to do, and what can be said instead of a command.
-/

namespace Keyplan

open File (Path)

/-- What the program is asked to do. -/
inductive Command where
  /-- Lists the layers of a keymap. -/
  | parse (path : Path) (keys : Option Nat) (json : Bool)
  /-- Shows the settings of a keymap. -/
  | settings (path : Path)
  /-- Shows what the keys of a layer do. -/
  | render (path : Path) (layer : Nat) (json : Bool)
  /-- Replaces one key. -/
  | setKey (path : Path) (layer key : Nat) (value : String) (keys : Option Nat) (write : Bool)
  /-- Adds a layer. -/
  | addLayer (path : Path) (keyword : Option String) (write : Bool)
  deriving DecidableEq, Repr

/-- Why a command line asks for no command. -/
inductive Refusal where
  /-- It is ill-formed. -/
  | usage
  /-- It asks for help. -/
  | help
  /-- It asks for the version of the program. -/
  | version
  deriving DecidableEq, Repr

end Keyplan
