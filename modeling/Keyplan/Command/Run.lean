import Keyplan.Command.Actions
import Keyplan.Command.Words
import Keyplan.Regex.Engine

/-!
# Running command lines

The program puts the parts together: its reader of command lines and its engine for patterns.
-/

namespace Keyplan.Command

/-- Runs a command line. -/
def runWords {m : Type → Type} [Monad m] (fs : File.FileSystem m) (home : Option String)
    (words : List String) : m Outcome :=
  runWith fs home ofWords words

end Keyplan.Command
