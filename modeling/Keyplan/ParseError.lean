/-!
# Errors of reading a keymap

Each cause of failure is a constructor. Offsets count bytes of the text that was read.
-/

namespace Keyplan

/-- Why a text is not a keymap. -/
inductive ParseError where
  /-- The text has no layout. -/
  | missingInvocation
  /-- The text ended while `opened` parentheses were open. -/
  | unbalanced (opened : Nat)
  /-- A delimiter, just before `offset`, closed an empty argument. -/
  | missingToken (offset : Nat)
  /-- The word that starts at `offset` goes on after a gap. -/
  | whitespaceInToken (offset : Nat)
  /-- A parenthesis, just before `offset`, opened with no name in front. -/
  | missingFunctionName (offset : Nat)
  /-- Text at `offset` follows a finished call. -/
  | unexpectedText (offset : Nat)
  /-- The parenthesis at `offset` is one more than `limit` open ones. -/
  | nestingTooDeep (offset limit : Nat)
  /-- A layer has `actual` keys while the first one has `expected`. -/
  | layerCountMismatch (layer expected actual : Nat)
  /-- The layers have `actual` keys while the keyboard has `expected`. -/
  | keyCountMismatch (expected actual : Nat)
  deriving DecidableEq, Repr, Inhabited

namespace ParseError

/-- The error in words. -/
def message : ParseError → String
  | .missingInvocation => "No KEYMAP or LAYOUT invocation found"
  | .unbalanced opened => s!"Unbalanced parentheses: {opened} still open at end of input"
  | .missingToken offset => s!"Missing token before offset {offset}"
  | .whitespaceInToken offset => s!"Whitespace inside token starting at offset {offset}"
  | .missingFunctionName offset => s!"Missing function name before offset {offset}"
  | .unexpectedText offset => s!"Unexpected text after function call at offset {offset}"
  | .nestingTooDeep offset limit =>
    s!"Parentheses nested deeper than {limit} levels at offset {offset}"
  | .layerCountMismatch layer expected actual =>
    s!"Layer {layer} has {actual} keys but layer 0 has {expected}"
  | .keyCountMismatch expected actual => s!"Expected {expected} keys, found {actual}"

/-- The place that the error points at, if it has one. -/
def offset? : ParseError → Option Nat
  | .missingToken offset => some offset
  | .whitespaceInToken offset => some offset
  | .missingFunctionName offset => some offset
  | .unexpectedText offset => some offset
  | .nestingTooDeep offset _ => some offset
  | _ => none

end ParseError

end Keyplan
