import Keyplan.Decimal.Reading
import Keyplan.Settings.Error
import Keyplan.Settings.Value
import Keyplan.Text.Blank
import Keyplan.Text.Quoted

/-!
# Values on one line

Keys, plain and quoted values, sequences in brackets and patterns.
-/

namespace Keyplan.Scalar

/-- Whether a character may stand in a key without quotes. -/
def isKeyChar (c : Char) : Bool :=
  c != ':' && c != '"' && c != '\''

/-- Reads a key, quoted or not; the result holds the key and what follows it. -/
def readKey? : List Char → Option (List Char × List Char)
  | '"' :: cs => Text.readDouble cs
  | '\'' :: cs => Text.readSingle cs
  | cs =>
    match cs.takeWhile isKeyChar with
    | [] => none
    | key => some (Text.trimRight key, cs.dropWhile isKeyChar)

/-- Splits a line at its key. The colon ends the line or a space follows it. -/
def splitKey? (cs : List Char) : Option (String × List Char) :=
  if cs.head? = some '!' ∨ cs.head? = some '[' then none
  else
    match readKey? cs with
    | some (key, [':']) => some (String.ofList key, [])
    | some (key, ':' :: ' ' :: rest) => some (String.ofList key, Text.trim rest)
    | _ => none

/-- The value of a text without quotes: nothing, a truth value, a number or a text. -/
def plain (cs : List Char) : Value :=
  let s := String.ofList cs
  if s = "" ∨ s = "~" ∨ s = "null" then .null
  else if s = "true" then .bool true
  else if s = "false" then .bool false
  else
    match Decimal.readInt? cs with
    | some n => .int n
    | none =>
      match (if cs.any Char.isDigit then Decimal.readFraction? cs else none) with
      | some x => .float x.toFloat
      | none => .str s

/-- Passes over spaces and tabs. -/
def dropSpaces (cs : List Char) : List Char :=
  cs.dropWhile fun c => c == ' ' || c == '\t'

/-- Whether a character may stand in a plain item between brackets. -/
def isFlowChar (c : Char) : Bool :=
  c != ',' && c != ']'

/-- Reads a plain item between brackets. -/
def plainItem? (cs : List Char) : Option (Value × List Char) :=
  match cs.takeWhile isFlowChar with
  | [] => none
  | item => some (plain (Text.trim item), cs.dropWhile isFlowChar)

/-- Reads an item between brackets and the spaces around it. -/
def flowItem? (cs : List Char) : Option (Value × List Char) :=
  let item? : Option (Value × List Char) :=
    match dropSpaces cs with
    | '"' :: rest =>
      match Text.readDouble rest with
      | some (s, rest) => some (.str (String.ofList s), rest)
      | none => plainItem? ('"' :: rest)
    | '\'' :: rest =>
      match Text.readSingle rest with
      | some (s, rest) => some (.str (String.ofList s), rest)
      | none => plainItem? ('\'' :: rest)
    | rest => plainItem? rest
  item?.map fun (v, rest) => (v, dropSpaces rest)

/-- Passing over spaces makes no text longer. -/
theorem length_dropSpaces_le (cs : List Char) : (dropSpaces cs).length ≤ cs.length :=
  (List.dropWhile_sublist _).length_le

/-- What follows a plain item is shorter. -/
theorem length_lt_of_plainItem? {cs rest : List Char} {v : Value}
    (h : plainItem? cs = some (v, rest)) : rest.length < cs.length := by
  unfold plainItem? at h
  split at h
  · cases h
  · next item hne =>
    cases h
    have := congrArg List.length (List.takeWhile_append_dropWhile (p := isFlowChar) (l := cs))
    rw [List.length_append] at this
    have : 0 < (cs.takeWhile isFlowChar).length := List.length_pos_iff.2 hne
    omega

/-- What follows an item is shorter. -/
theorem length_lt_of_flowItem? {cs rest : List Char} {v : Value}
    (h : flowItem? cs = some (v, rest)) : rest.length < cs.length := by
  obtain ⟨⟨v', rest'⟩, hitem, heq⟩ := Option.map_eq_some_iff.1 h
  cases heq
  have hdrop := length_dropSpaces_le cs
  have hrest := length_dropSpaces_le rest'
  suffices rest'.length < (dropSpaces cs).length by omega
  split at hitem
  · next tail hcs =>
    split at hitem
    · next hread =>
      cases hitem
      rw [hcs]
      have := Text.length_lt_of_readDouble hread
      simp
      omega
    · rw [hcs]
      exact length_lt_of_plainItem? hitem
  · next tail hcs =>
    split at hitem
    · next hread =>
      cases hitem
      rw [hcs]
      have := Text.length_lt_of_readSingle hread
      simp
      omega
    · rw [hcs]
      exact length_lt_of_plainItem? hitem
  · exact length_lt_of_plainItem? hitem

/-- Reads further items, each after a comma. -/
def flowItems (cs : List Char) : List Value × List Char :=
  match cs with
  | ',' :: rest =>
    match _hitem : flowItem? rest with
    | some (v, rest') =>
      let (vs, left) := flowItems rest'
      (v :: vs, left)
    | none => ([], cs)
  | _ => ([], cs)
termination_by cs.length
decreasing_by
  have := length_lt_of_flowItem? _hitem
  simp
  omega

/-- Reads a sequence from after its opening bracket on. -/
def flow? (cs : List Char) : Option (List Value × List Char) :=
  let (items, rest) : List Value × List Char :=
    match flowItem? cs with
    | none => ([], cs)
    | some (v, rest) =>
      let (vs, left) := flowItems rest
      (v :: vs, left)
  match dropSpaces rest with
  | ']' :: rest => some (items, rest)
  | _ => none

/-- The tag in front of a pattern. -/
def patternTag : List Char := ['!', 'r', 'e', 'g', 'e', 'x']

/-- The text of a tagged pattern: the tag, then a space or tab. -/
def patternBody? (cs : List Char) : Option (List Char) :=
  if patternTag.isPrefixOf cs then
    match cs.drop patternTag.length with
    | ' ' :: rest => some (dropSpaces rest)
    | '\t' :: rest => some (dropSpaces rest)
    | _ => none
  else none

/-- The body of a pattern without its quotes, if it has a pair. What follows them is dropped. -/
def unquote (cs : List Char) : List Char :=
  match cs with
  | '"' :: rest => ((Text.readDouble rest).map Prod.fst).getD cs
  | '\'' :: rest => ((Text.readSingle rest).map Prod.fst).getD cs
  | _ => cs

/-- Splits `body/flags` at its last slash. -/
def splitLastSlash? (cs : List Char) : Option (List Char × List Char) :=
  let flags := (cs.reverse.takeWhile (· != '/')).reverse
  match cs.reverse.dropWhile (· != '/') with
  | _ :: body => some (body.reverse, flags)
  | [] => none

/-- The pattern that a body stands for. Between slashes, the flags after the last one go in front;
letters that are no flags are dropped. -/
def patternSource (cs : List Char) : List Char :=
  match cs with
  | '/' :: rest =>
    match splitLastSlash? rest with
    | none => cs
    | some (inner, letters) =>
      let flags := letters.filter fun c => c == 'i' || c == 'm' || c == 's' || c == 'x'
      if flags.isEmpty then inner else '(' :: '?' :: (flags ++ ')' :: inner)
  | _ => cs

/-- Reads the value of a line; `line` is the number of the line. -/
def read [PatternEngine] (line : Nat) (cs : List Char) : Except SettingsError Value :=
  let cs := Text.trim cs
  let fail (fault : LineFault) : Except SettingsError Value := .error (.invalidLine line fault)
  let finish (v : Value) (rest : List Char) : Except SettingsError Value :=
    let rest := Text.trim rest
    if rest.isEmpty then .ok v else fail (.unexpectedText (String.ofList rest))
  if cs = patternTag then fail .missingPattern
  else
    match patternBody? cs with
    | some body =>
      let source := patternSource (unquote (Text.trim body))
      match Pattern.compile (String.ofList source) with
      | .ok p => .ok (.pattern p)
      | .error cause => .error (.invalidPattern line cause)
    | none =>
      match cs with
      | '[' :: rest =>
        match flow? rest with
        | some (items, rest) => finish (.seq items) rest
        | none => fail .malformedFlow
      | '"' :: rest =>
        match Text.readDouble rest with
        | some (s, rest) => finish (.str (String.ofList s)) rest
        | none => fail .unterminatedDouble
      | '\'' :: rest =>
        match Text.readSingle rest with
        | some (s, rest) => finish (.str (String.ofList s)) rest
        | none => fail .unterminatedSingle
      | cs => .ok (plain cs)

end Keyplan.Scalar
