/-!
# Errors of file operations
-/

namespace Keyplan.File

/-- Why an operation on files failed. -/
inductive OsError where
  /-- Nothing is at the path. -/
  | notFound
  /-- Something is at the path already. -/
  | alreadyExists
  /-- A name in the path is no directory. -/
  | notADirectory
  /-- A directory is at the path. -/
  | isADirectory
  /-- Links lead on without end. -/
  | tooManyLinks
  /-- The path or a name in it is too long. -/
  | nameTooLong
  /-- The path holds a null character. -/
  | nullInPath
  /-- The content is no text. -/
  | notText
  /-- Something else went wrong, which the text says. -/
  | other (text : String)
  deriving DecidableEq, Repr

/-- The error in words. -/
def OsError.message : OsError → String
  | .notFound => "No such file or directory (os error 2)"
  | .alreadyExists => "File exists (os error 17)"
  | .notADirectory => "Not a directory (os error 20)"
  | .isADirectory => "Is a directory (os error 21)"
  | .tooManyLinks => "Too many levels of symbolic links (os error 40)"
  | .nameTooLong => "File name too long (os error 36)"
  | .nullInPath => "file name contained an unexpected NUL byte"
  | .notText => "stream did not contain valid UTF-8"
  | .other text => text

end Keyplan.File
