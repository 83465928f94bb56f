/-!
# Quoted texts

Double quotes take escapes with a backslash; inside single quotes a quote is written twice. Each
form has a writer and a reader that stops at the closing quote.
-/

namespace Keyplan.Text

/-- What a backslash and a character stand for between double quotes. -/
def unescape : Char → Char
  | 'n' => '\n'
  | 't' => '\t'
  | c => c

/-- Reads up to the closing double quote; the result holds the text and what follows the quote. -/
def readDouble : List Char → Option (List Char × List Char)
  | [] => none
  | '"' :: cs => some ([], cs)
  | ['\\'] => none
  | '\\' :: c :: cs => (readDouble cs).map fun (s, rest) => (unescape c :: s, rest)
  | c :: cs => (readDouble cs).map fun (s, rest) => (c :: s, rest)

/-- The body of a double-quoted text. -/
def escape : List Char → List Char
  | [] => []
  | '\\' :: cs => '\\' :: '\\' :: escape cs
  | '"' :: cs => '\\' :: '"' :: escape cs
  | '\n' :: cs => '\\' :: 'n' :: escape cs
  | '\t' :: cs => '\\' :: 't' :: escape cs
  | c :: cs => c :: escape cs

/-- Reads up to the closing single quote; the result holds the text and what follows the quote. -/
def readSingle : List Char → Option (List Char × List Char)
  | [] => none
  | '\'' :: '\'' :: cs => (readSingle cs).map fun (s, rest) => ('\'' :: s, rest)
  | '\'' :: cs => some ([], cs)
  | c :: cs => (readSingle cs).map fun (s, rest) => (c :: s, rest)

/-- The body of a single-quoted text. -/
def doubleQuotes : List Char → List Char
  | [] => []
  | '\'' :: cs => '\'' :: '\'' :: doubleQuotes cs
  | c :: cs => c :: doubleQuotes cs

/-- What follows a double-quoted text is shorter than the text with its quote. -/
theorem length_lt_of_readDouble {cs s rest : List Char} (h : readDouble cs = some (s, rest)) :
    rest.length < cs.length := by
  fun_induction readDouble cs generalizing s with
  | case1 => cases h
  | case2 cs => cases h; simp
  | case3 => cases h
  | case4 c cs ih =>
    obtain ⟨⟨s', rest'⟩, hread, heq⟩ := Option.map_eq_some_iff.1 h
    cases heq
    have := ih hread
    simp
    omega
  | case5 c cs _ _ _ ih =>
    obtain ⟨⟨s', rest'⟩, hread, heq⟩ := Option.map_eq_some_iff.1 h
    cases heq
    have := ih hread
    simp
    omega

/-- What follows a single-quoted text is shorter than the text with its quote. -/
theorem length_lt_of_readSingle {cs s rest : List Char} (h : readSingle cs = some (s, rest)) :
    rest.length < cs.length := by
  fun_induction readSingle cs generalizing s with
  | case1 => cases h
  | case2 cs ih =>
    obtain ⟨⟨s', rest'⟩, hread, heq⟩ := Option.map_eq_some_iff.1 h
    cases heq
    have := ih hread
    simp
    omega
  | case3 cs _ => cases h; simp
  | case4 c cs _ _ ih =>
    obtain ⟨⟨s', rest'⟩, hread, heq⟩ := Option.map_eq_some_iff.1 h
    cases heq
    have := ih hread
    simp
    omega

end Keyplan.Text
