import Keyplan.Command.Basic

/-!
# Command lines

Reading a command from the words of a command line.
-/

namespace Keyplan

namespace Command

/-- What an option takes. -/
inductive Operand where
  /-- Nothing. -/
  | none
  /-- A text. -/
  | text
  /-- A number. -/
  | number
  /-- Nothing: the option asks for something else than a command. -/
  | refusal (r : Refusal)
  deriving DecidableEq, Repr

/-- An option. -/
structure Switch where
  /-- Its name after two dashes. -/
  long : String
  /-- Its letter after one dash. -/
  short : Option Char := .none
  /-- What it takes. -/
  operand : Operand := .none

/-- The option for more messages. -/
def verbose : Switch := { long := "verbose", short := some 'v' }

/-- The option for help. -/
def help : Switch := { long := "help", short := some 'h', operand := .refusal .help }

/-- The option for the version. -/
def version : Switch := { long := "version", short := some 'V', operand := .refusal .version }

/-- The option for the number of keys. -/
def keys : Switch := { long := "keys", operand := .number }

/-- The option for JSON. -/
def json : Switch := { long := "json" }

/-- The option for a layer. -/
def layer : Switch := { long := "layer", short := some 'l', operand := .number }

/-- The option for a key. -/
def key : Switch := { long := "key", short := some 'k', operand := .number }

/-- The option to write the file. -/
def write : Switch := { long := "write", short := some 'w' }

/-- The option for a keyword. -/
def keyword : Switch := { long := "keyword", operand := .text }

/-- The options and the number of other words that belong to the name of a command. -/
structure Form where
  /-- The options. -/
  switches : List Switch
  /-- Most other words, of which the first is a path. -/
  places : Nat

/-- What has been read of a command line. -/
structure Words where
  /-- The options without operand, by name. -/
  flags : List String := []
  /-- The numbers given to options. -/
  numbers : List (String × Nat) := []
  /-- The texts given to options. -/
  texts : List (String × String) := []
  /-- The other words. -/
  plain : List String := []

/-- The greatest number that an option takes. -/
def maxNumber : Nat := 0xFFFFFFFFFFFFFFFF

/-- Reads a number of at most 64 bits. -/
def readNumber (text : String) : Except Refusal Nat :=
  let digits := match text.toList with
    | '+' :: cs => cs
    | cs => cs
  let n := digits.foldl (fun n c => 10 * n + (c.toNat - '0'.toNat)) 0
  if digits.isEmpty || !digits.all Char.isDigit || maxNumber < n then .error .usage else .ok n

namespace Words

/-- Notes an option without operand; none may be given twice. -/
def flag (w : Words) (name : String) : Except Refusal Words :=
  if w.flags.contains name then .error .usage else .ok { w with flags := name :: w.flags }

/-- Notes an option with its operand; none may be given twice. -/
def operand (w : Words) (s : Switch) (text : String) : Except Refusal Words :=
  if w.numbers.any (·.1 == s.long) || w.texts.any (·.1 == s.long) then .error .usage
  else if s.operand = .number then
    (readNumber text).map fun n => { w with numbers := (s.long, n) :: w.numbers }
  else .ok { w with texts := (s.long, text) :: w.texts }

/-- Notes another word. There is a place for it, and a path is not empty. -/
def word (places : Nat) (w : Words) (text : String) : Except Refusal Words :=
  if places ≤ w.plain.length || (w.plain.isEmpty && text.isEmpty) then .error .usage
  else .ok { w with plain := w.plain ++ [text] }

/-- Whether an option is there. -/
def has (w : Words) (s : Switch) : Bool :=
  w.flags.contains s.long

/-- The number that an option gives. -/
def number? (w : Words) (s : Switch) : Option Nat :=
  (w.numbers.find? (·.1 == s.long)).map Prod.snd

/-- The text that an option gives. -/
def text? (w : Words) (s : Switch) : Option String :=
  (w.texts.find? (·.1 == s.long)).map Prod.snd

end Words

/-- Reads letters after one dash. The result names the option that still needs an operand. -/
def readLetters (switches : List Switch) (w : Words) :
    List Char → Except Refusal (Words × Option Switch)
  | [] => .ok (w, none)
  | c :: cs =>
    match switches.find? (·.short == some c) with
    | none => .error .usage
    | some s =>
      match s.operand with
      | .refusal r => .error r
      | .none =>
        match w.flag s.long with
        | .error r => .error r
        | .ok w => readLetters switches w cs
      | _ =>
        match cs with
        | [] => .ok (w, some s)
        | '=' :: text => (w.operand s (String.ofList text)).map (·, none)
        | text => (w.operand s (String.ofList text)).map (·, none)

/-- Reads a name after two dashes. The result names the option that still needs an operand. -/
def readName (switches : List Switch) (w : Words) (cs : List Char) :
    Except Refusal (Words × Option Switch) :=
  let name := String.ofList (cs.takeWhile (· != '='))
  match switches.find? (·.long == name) with
  | none => .error .usage
  | some s =>
    match s.operand, cs.dropWhile (· != '=') with
    | .refusal r, [] => .error r
    | .refusal _, _ => .error .usage
    | .none, [] => (w.flag name).map (·, none)
    | .none, _ => .error .usage
    | _, [] => .ok (w, some s)
    | _, _ :: text => (w.operand s (String.ofList text)).map (·, none)

/-- Reads an option without its first dash. -/
def readOption (switches : List Switch) (w : Words) :
    List Char → Except Refusal (Words × Option Switch)
  | '-' :: cs => readName switches w cs
  | cs => readLetters switches w cs

/-- Whether a word is an option, or the two dashes after which there are none. -/
def isOption (word : String) : Bool :=
  match word.toList with
  | '-' :: _ :: _ => true
  | _ => false

/-- Reads the words after the name of a command. After two dashes alone no word is an option. -/
def readWords (form : Form) (w : Words) : List String → Except Refusal Words
  | [] => .ok w
  | word :: rest =>
    if word = "--" then rest.foldlM (Words.word form.places) w
    else if isOption word then
      match readOption form.switches w (word.toList.drop 1) with
      | .error r => .error r
      | .ok (w, none) => readWords form w rest
      | .ok (w, some s) =>
        match rest with
        | [] => .error .usage
        | text :: rest =>
          if isOption text then .error .usage
          else
            match w.operand s text with
            | .error r => .error r
            | .ok w => readWords form w rest
    else
      match w.word form.places word with
      | .error r => .error r
      | .ok w => readWords form w rest

/-- The names of the commands and the words that belong to them. -/
def form? : String → Option Form
  | "parse" => some ⟨[help, verbose, keys, json], 1⟩
  | "settings" => some ⟨[help, verbose], 1⟩
  | "render" => some ⟨[help, verbose, layer, json], 1⟩
  | "set-key" => some ⟨[help, verbose, layer, key, keys, write], 2⟩
  | "add-layer" => some ⟨[help, verbose, keyword, write], 1⟩
  | _ => none

/-- The command of a name with its words, unless a word is missing. -/
def ofParts (name : String) (w : Words) : Option Command :=
  match name, w.plain with
  | "parse", [path] => some (.parse path (w.number? keys) (w.has json))
  | "settings", [path] => some (.settings path)
  | "render", [path] => some (.render path ((w.number? layer).getD 0) (w.has json))
  | "set-key", [path, value] =>
    match w.number? layer, w.number? key with
    | some l, some k => some (.setKey path l k value (w.number? keys) (w.has write))
    | _, _ => none
  | "add-layer", [path] => some (.addLayer path (w.text? keyword) (w.has write))
  | _, _ => none

/-- Reads the command of a name from the words after the name. -/
def ofName (name : String) (rest : List String) : Except Refusal Command :=
  match form? name with
  | some form =>
    match readWords form {} rest with
    | .error r => .error r
    | .ok w =>
      match ofParts name w with
      | some c => .ok c
      | none => .error .usage
  | none =>
    if name = "help" ∧ rest.length ≤ 1 ∧ rest.all (fun s => s = "help" ∨ (form? s).isSome) then
      .error .help
    else .error .usage

/-- Reads a command line; `w` holds the options before the name of the command. -/
def readLine (w : Words) : List String → Except Refusal Command
  | [] => .error .usage
  | word :: rest =>
    if word = "--" then .error .usage
    else if isOption word then
      match readOption [help, verbose, version] w (word.toList.drop 1) with
      | .error r => .error r
      | .ok (w, _) => readLine w rest
    else ofName word rest

/-- Reads a command line. -/
def ofWords (words : List String) : Except Refusal Command :=
  readLine {} words

end Command

end Keyplan
