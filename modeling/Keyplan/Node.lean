import Keyplan.Text.Bytes

/-!
# Key expressions

A key of a layout is a word such as `KC_A` or a call such as `LT(1, KC_SPC)`. Every node keeps the
place in the text that it was read from, so that one key can be replaced and all else left alone.
-/

namespace Keyplan

/-- A key expression together with its place in the text. -/
inductive Node where
  /-- A word. It starts at `start`, and the delimiter that ends it stands at `stop`. -/
  | word (content : String) (start stop : Nat)
  /-- A call. `source` is its text from the name at `start` to the parenthesis before `stop`. -/
  | call (name : String) (args : List Node) (start stop : Nat) (source : String)
  deriving Repr, BEq, Inhabited

namespace Node

/-- Where the node starts. -/
def start : Node → Nat
  | .word _ start _ => start
  | .call _ _ start _ _ => start

/-- Where the node ends. -/
def stop : Node → Nat
  | .word _ _ stop => stop
  | .call _ _ _ stop _ => stop

/-- The text that an edit of the node replaces. -/
def source : Node → String
  | .word content _ _ => content
  | .call _ _ _ _ source => source

/-- Where the text that an edit replaces ends. -/
def sourceEnd (n : Node) : Nat :=
  n.start + n.source.utf8ByteSize

mutual

/-- The expression in its normal spelling: one comma and one space between arguments. -/
def render : Node → String
  | .word content _ _ => content
  | .call name args _ _ _ => name ++ "(" ++ renderArgs args ++ ")"

/-- Arguments in their normal spelling. -/
def renderArgs : List Node → String
  | [] => ""
  | [arg] => arg.render
  | arg :: args => arg.render ++ ", " ++ renderArgs args

end

end Node

end Keyplan
