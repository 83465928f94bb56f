import Keyplan.Text.Blank
import Keyplan.Text.Bytes

/-!
# Lexemes of an argument list

The text of an argument list falls into comments, line continuations, delimiters, blanks and other
characters. `lex` splits a text into these; `chars_lex` says that nothing is lost.
-/

namespace Keyplan

/-- A smallest piece of an argument list. -/
inductive Lexeme where
  /-- A comment from `/*` to the first `*/`, or to the end of the text if none closes it. -/
  | blockComment (body : List Char) (closed : Bool)
  /-- A comment from `//` up to the end of its line, which stays outside. -/
  | lineComment (body : List Char)
  /-- A backslash before a line end, which may have a carriage return. -/
  | continuation (carriage : Bool)
  /-- The comma between two arguments. -/
  | comma
  /-- An opening parenthesis. -/
  | opening
  /-- A closing parenthesis. -/
  | closing
  /-- A blank character. -/
  | blank (c : Char)
  /-- A character of a word. -/
  | other (c : Char)
  deriving DecidableEq, Repr

namespace Lexeme

/-- The characters that the lexeme was read from. -/
def chars : Lexeme → List Char
  | .blockComment body true => '/' :: '*' :: (body ++ ['*', '/'])
  | .blockComment body false => '/' :: '*' :: body
  | .lineComment body => '/' :: '/' :: body
  | .continuation true => ['\\', '\r', '\n']
  | .continuation false => ['\\', '\n']
  | .comma => [',']
  | .opening => ['(']
  | .closing => [')']
  | .blank c => [c]
  | .other c => [c]

/-- Number of bytes of the lexeme. -/
def size (x : Lexeme) : Nat :=
  Text.size x.chars

/-- The text of consecutive lexemes. -/
def text (xs : List Lexeme) : List Char :=
  xs.flatMap chars

@[simp] theorem text_nil : text [] = [] := rfl

@[simp] theorem text_cons (x : Lexeme) (xs : List Lexeme) : text (x :: xs) = x.chars ++ text xs :=
  rfl

/-- Lexemes are written one behind the other. -/
@[simp] theorem text_append (xs ys : List Lexeme) : text (xs ++ ys) = text xs ++ text ys := by
  simp [text]

/-- The lexeme of a character that starts neither a comment nor a continuation. -/
def ofChar (c : Char) : Lexeme :=
  if c = ',' then .comma
  else if c = '(' then .opening
  else if c = ')' then .closing
  else if Text.isBlank c then .blank c
  else .other c

/-- A single character is its own text. -/
@[simp] theorem chars_ofChar (c : Char) : (ofChar c).chars = [c] := by
  unfold ofChar
  split
  · next h => subst h; rfl
  split
  · next h => subst h; rfl
  split
  · next h => subst h; rfl
  split <;> rfl

/-- Where the lexer stands: in code or inside a comment whose body so far is kept backwards. -/
inductive Mode where
  /-- Outside comments. -/
  | code
  /-- After `/*`. -/
  | block (seen : List Char)
  /-- After `//`. -/
  | line (seen : List Char)

/-- What the lexer has read and not yet given out. -/
def Mode.held : Mode → List Char
  | .code => []
  | .block seen => '/' :: '*' :: seen.reverse
  | .line seen => '/' :: '/' :: seen.reverse

/-- Splits a text into lexemes. -/
def lex : Mode → List Char → List Lexeme
  | .code, [] => []
  | .code, '/' :: '*' :: cs => lex (.block []) cs
  | .code, '/' :: '/' :: cs => lex (.line []) cs
  | .code, '\\' :: '\n' :: cs => .continuation false :: lex .code cs
  | .code, '\\' :: '\r' :: '\n' :: cs => .continuation true :: lex .code cs
  | .code, c :: cs => ofChar c :: lex .code cs
  | .block seen, [] => [.blockComment seen.reverse false]
  | .block seen, '*' :: '/' :: cs => .blockComment seen.reverse true :: lex .code cs
  | .block seen, c :: cs => lex (.block (c :: seen)) cs
  | .line seen, [] => [.lineComment seen.reverse]
  | .line seen, '\n' :: cs => .lineComment seen.reverse :: .blank '\n' :: lex .code cs
  | .line seen, c :: cs => lex (.line (c :: seen)) cs

/-- The lexemes of a text spell the text. -/
theorem text_lex (m : Mode) (cs : List Char) : text (lex m cs) = m.held ++ cs := by
  fun_induction lex m cs with
  | case6 c cs _ _ _ _ ih => simp [ih, Mode.held]
  | _ => simp_all [chars, Mode.held]

end Lexeme

end Keyplan
