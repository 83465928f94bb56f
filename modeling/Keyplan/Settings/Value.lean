/-!
# Values of settings

What a setting can be. A mapping keeps its keys in the order of their characters, and a later value
of a key takes the place of an earlier one. Which texts are regular expressions, and what these
match, is not said here: all that reads settings takes an engine for them (`PatternEngine`).
-/

namespace Keyplan

/-- An engine for regular expressions. -/
class PatternEngine where
  /-- Reads an expression. The outcome says of a text whether the expression matches somewhere in
  it; a text that is no expression is refused in words. -/
  compile : String → Except String (String → Bool)

/-- A regular expression with the text that it was read from. -/
structure Pattern where
  /-- The written form. -/
  source : String
  /-- Whether the expression matches somewhere in a text. -/
  matchesIn : String → Bool

/-- A pattern is shown by its written form. -/
instance : Repr Pattern where
  reprPrec p := reprPrec p.source

/-- Reads a pattern. -/
def Pattern.compile [PatternEngine] (source : String) : Except String Pattern :=
  (PatternEngine.compile source).map (Pattern.mk source)

/-- The value of a setting. -/
inductive Value where
  /-- No value. -/
  | null
  /-- A truth value. -/
  | bool (b : Bool)
  /-- A whole number. -/
  | int (n : Int)
  /-- A number with a fraction or an exponent. -/
  | float (x : Float)
  /-- A text. -/
  | str (s : String)
  /-- A pattern. -/
  | pattern (p : Pattern)
  /-- Values in a row. -/
  | seq (items : List Value)
  /-- Values under keys. -/
  | map (entries : List (String × Value))
  deriving Repr, Inhabited

/-- Values under keys, in the order of the keys. -/
abbrev Entries := List (String × Value)

namespace Entries

/-- Puts a value under a key. -/
def insert (key : String) (value : Value) : Entries → Entries
  | [] => [(key, value)]
  | (k, v) :: rest =>
    if key < k then (key, value) :: (k, v) :: rest
    else if key = k then (key, value) :: rest
    else (k, v) :: insert key value rest

/-- The value under a key. -/
def get? (es : Entries) (key : String) : Option Value :=
  (es.find? fun e => e.1 == key).map Prod.snd

end Entries

namespace Value

/-- The text of a text value. -/
def str? : Value → Option String
  | .str s => some s
  | _ => none

/-- The pattern of a pattern value. -/
def pattern? : Value → Option Pattern
  | .pattern p => some p
  | _ => none

/-- The items of a sequence. -/
def seq? : Value → Option (List Value)
  | .seq items => some items
  | _ => none

/-- The entries of a mapping. -/
def map? : Value → Option Entries
  | .map entries => some entries
  | _ => none

/-- The value under a key of a mapping. -/
def get? (v : Value) (key : String) : Option Value :=
  v.map?.bind (·.get? key)

mutual

/-- Whether two values are equal. Patterns are equal when they are written alike, and no number
equals one that is not a number. -/
def same : Value → Value → Bool
  | .null, .null => true
  | .bool a, .bool b => a == b
  | .int a, .int b => a == b
  | .float a, .float b => a == b
  | .str a, .str b => a == b
  | .pattern a, .pattern b => a.source == b.source
  | .seq as, .seq bs => sameItems as bs
  | .map as, .map bs => sameEntries as bs
  | _, _ => false

/-- Whether two sequences are equal item by item. -/
def sameItems : List Value → List Value → Bool
  | [], [] => true
  | a :: as, b :: bs => a.same b && sameItems as bs
  | _, _ => false

/-- Whether two mappings have equal values under the same keys. -/
def sameEntries : List (String × Value) → List (String × Value) → Bool
  | [], [] => true
  | (k, a) :: as, (l, b) :: bs => k == l && a.same b && sameEntries as bs
  | _, _ => false

end

end Value

end Keyplan
