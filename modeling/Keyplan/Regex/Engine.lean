import Keyplan.Regex.Reader
import Keyplan.Settings.Value

/-!
# The engine of the program

The reader of regular expressions at work as the engine for patterns.
-/

namespace Keyplan.Regex

/-- What is wrong with an expression in words. -/
def SyntaxError.message : SyntaxError → String
  | .unclosedGroup => "unclosed group"
  | .unopenedGroup => "unopened group"
  | .lookAround => "look-around is not supported"
  | .badGroupName => "invalid capture group name"
  | .badFlags => "invalid flags"
  | .nothingToRepeat => "repetition operator missing expression"
  | .badRepetition => "invalid repetition"
  | .unclosedClass => "unclosed character class"
  | .badClass => "invalid character class"
  | .badEscape => "unrecognized escape sequence"
  | .tooDeep => "expression nested too deep"
  | .tooLarge => "compiled expression too large"

/-- Patterns are read by this library's own reader. -/
instance engine : PatternEngine where
  compile source :=
    match read source.toList with
    | .ok r => .ok fun text => r.matchesIn text.toList
    | .error e => .error e.message

end Keyplan.Regex
