import Keyplan.Text.Split

/-!
# Paths

A path is a text of names with slashes between them. A name that is empty or a single dot stands
for the directory it is in, and two dots stand for the directory around it.
-/

namespace Keyplan.File

/-- A path. -/
abbrev Path := String

namespace Path

/-- Cuts slashes and single dots off the end of a path that is given backwards. A slash that is the
whole path stays, and so does a dot at the start. -/
def trimBack : List Char → List Char
  | ['/'] => ['/']
  | '/' :: cs => trimBack cs
  | '.' :: '/' :: cs => trimBack ('/' :: cs)
  | cs => cs

/-- The path without its last name; the empty path and the root have none. -/
def parent? (p : Path) : Option Path :=
  let back := trimBack p.toList.reverse
  if back = [] ∨ back = ['/'] then none
  else some (String.ofList (trimBack (back.dropWhile (· != '/'))).reverse)

/-- The last name of the path, unless that stands for another directory. -/
def fileName? (p : Path) : Option String :=
  let name := String.ofList ((trimBack p.toList.reverse).takeWhile (· != '/')).reverse
  if name = "" ∨ name = "." ∨ name = ".." then none else some name

/-- The path of a name inside a directory. -/
def join (dir : Path) (name : String) : Path :=
  if dir = "" then name
  else if dir.toList.getLast? = some '/' then dir ++ name
  else dir ++ "/" ++ name

/-- Whether the path starts at the root. -/
def isAbsolute (p : Path) : Bool :=
  p.toList.head? = some '/'

/-- The names of the path in order. -/
def names (p : Path) : List String :=
  (Text.splitBy '/' p.toList).map String.ofList

end Path

end Keyplan.File
