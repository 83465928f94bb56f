import Keyplan.Decimal.Shortest

/-!
# JSON texts

Values of JSON and their written form over several lines, two spaces for each level.
-/

namespace Keyplan

/-- A JSON value; an object keeps the order of its fields. -/
inductive Json where
  /-- The null value. -/
  | null
  /-- A truth value. -/
  | bool (b : Bool)
  /-- A whole number. -/
  | int (n : Int)
  /-- A number with a fraction or an exponent. -/
  | float (x : Float)
  /-- A text. -/
  | str (s : String)
  /-- Values in a row. -/
  | arr (items : List Json)
  /-- Values under names. -/
  | obj (fields : List (String × Json))
  deriving Inhabited

namespace Json

/-- Numbers are written without an exponent from `1e-5` up to below `1e16`. -/
def layout : Decimal.Layout := ⟨-5, 15, "+"⟩

/-- A hexadecimal digit in lower case. -/
def hexDigit (n : Nat) : Char :=
  (['0', '1', '2', '3', '4', '5', '6', '7', '8', '9', 'a', 'b', 'c', 'd', 'e', 'f'][n]?).getD '0'

/-- A character as it stands between quotes. -/
def escapeChar (c : Char) : List Char :=
  match c with
  | '"' => ['\\', '"']
  | '\\' => ['\\', '\\']
  | '\n' => ['\\', 'n']
  | '\r' => ['\\', 'r']
  | '\t' => ['\\', 't']
  | '\x08' => ['\\', 'b']
  | '\x0c' => ['\\', 'f']
  | c =>
    if c.toNat < 0x20 then
      ['\\', 'u', '0', '0', hexDigit (c.toNat / 16), hexDigit (c.toNat % 16)]
    else [c]

/-- A text between quotes. -/
def quote (s : String) : String :=
  String.ofList ('"' :: s.toList.flatMap escapeChar ++ ['"'])

/-- The space in front of a line of a level. -/
def pad (level : Nat) : String :=
  String.ofList (List.replicate (2 * level) ' ')

mutual

/-- The written form of a value on a level. -/
def prettyAt (level : Nat) : Json → String
  | .null => "null"
  | .bool true => "true"
  | .bool false => "false"
  | .int n => toString n
  | .float x => if x.isFinite then Decimal.render layout x else "null"
  | .str s => quote s
  | .arr [] => "[]"
  | .arr items => "[\n" ++ prettyItems (level + 1) items ++ "\n" ++ pad level ++ "]"
  | .obj [] => "\x7b\x7d"
  | .obj fields => "\x7b\n" ++ prettyFields (level + 1) fields ++ "\n" ++ pad level ++ "\x7d"

/-- The written form of items on a level, one on each line. -/
def prettyItems (level : Nat) : List Json → String
  | [] => ""
  | [item] => pad level ++ prettyAt level item
  | item :: items => pad level ++ prettyAt level item ++ ",\n" ++ prettyItems level items

/-- The written form of fields on a level, one on each line. -/
def prettyFields (level : Nat) : List (String × Json) → String
  | [] => ""
  | [(name, v)] => pad level ++ quote name ++ ": " ++ prettyAt level v
  | (name, v) :: fields =>
    pad level ++ quote name ++ ": " ++ prettyAt level v ++ ",\n" ++ prettyFields level fields

end

/-- The written form of a value. -/
def pretty (v : Json) : String :=
  prettyAt 0 v

end Json

end Keyplan
