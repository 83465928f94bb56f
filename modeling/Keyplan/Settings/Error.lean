/-!
# Errors of reading settings

Each cause of failure is a constructor. Lines count from one within the block.
-/

namespace Keyplan

/-- What is wrong with the text of a line. -/
inductive LineFault where
  /-- A line of a mapping has no key. -/
  | expectedEntry (text : String)
  /-- A line follows the end of the whole value. -/
  | unexpectedContent (text : String)
  /-- A pattern is announced and missing. -/
  | missingPattern
  /-- A sequence in brackets is ill-formed. -/
  | malformedFlow
  /-- A double-quoted text has no end. -/
  | unterminatedDouble
  /-- A single-quoted text has no end. -/
  | unterminatedSingle
  /-- Text follows a finished value. -/
  | unexpectedText (text : String)
  deriving DecidableEq, Repr

/-- The fault in words. -/
def LineFault.message : LineFault → String
  | .expectedEntry text => s!"expected 'key: value', found '{text}'"
  | .unexpectedContent text => s!"unexpected content '{text}'"
  | .missingPattern => "missing pattern after !regex"
  | .malformedFlow => "malformed flow sequence"
  | .unterminatedDouble => "unterminated double-quoted string"
  | .unterminatedSingle => "unterminated single-quoted string"
  | .unexpectedText text => s!"unexpected text '{text}'"

/-- Why a block holds no settings. -/
inductive SettingsError where
  /-- A line is indented with a tab. -/
  | tabIndentation (line : Nat)
  /-- A line is indented deeper than its mapping. -/
  | unexpectedIndent (line : Nat)
  /-- A line cannot be read. -/
  | invalidLine (line : Nat) (fault : LineFault)
  /-- A pattern is no regular expression; the engine says why. -/
  | invalidPattern (line : Nat) (cause : String)
  /-- The whole value is a sequence. -/
  | notAMapping
  deriving DecidableEq, Repr

namespace SettingsError

/-- The error in words. -/
def message : SettingsError → String
  | .tabIndentation line => s!"Line {line}: tabs are not allowed in indentation"
  | .unexpectedIndent line => s!"Line {line}: unexpected indentation"
  | .invalidLine line fault => s!"Line {line}: " ++ fault.message
  | .invalidPattern line cause => s!"Line {line}: invalid regular expression: {cause}"
  | .notAMapping => "Settings block must be a mapping"

/-- The line that the error points at, if it has one. -/
def line? : SettingsError → Option Nat
  | .tabIndentation line => some line
  | .unexpectedIndent line => some line
  | .invalidLine line _ => some line
  | .invalidPattern line _ => some line
  | .notAMapping => none

/-- The cause of the error in words, where it has one of its own. -/
def cause? : SettingsError → Option String
  | .invalidPattern _ cause => some cause
  | _ => none

end SettingsError

end Keyplan
