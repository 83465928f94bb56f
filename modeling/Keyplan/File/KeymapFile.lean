import Keyplan.File.FileSystem
import Keyplan.Keymap

/-!
# Keymap files

A keymap file has a directory for backups beside it. A transaction makes a backup when it begins
and can then write the file or put the backup back.
-/

namespace Keyplan.File

/-- Why an operation on a keymap file failed. -/
inductive FileError where
  /-- Nothing is at the path. -/
  | notFound (path : Path)
  /-- The path has no directory around it. -/
  | noParent
  /-- The directory for backups cannot be made or written. -/
  | backupDirNotWritable (path : Path)
  /-- The path has no file name to call a backup by. -/
  | unusableName (path : Path)
  /-- The backup cannot be written. -/
  | backupFailed (path : Path) (cause : OsError)
  /-- The file cannot be replaced. -/
  | writeFailed (stage : WriteStage) (cause : OsError)
  /-- The new content is no keymap. -/
  | invalidKeymap (cause : ParseError)
  /-- Another operation failed. -/
  | io (cause : OsError)
  deriving DecidableEq, Repr

namespace FileError

/-- The step of replacing a file in words. -/
def stageText : WriteStage → String
  | .opening => "Failed to open for atomic write"
  | .writing => "Failed to write content"
  | .committing => "Failed to commit atomic write"

/-- The error in words. -/
def message : FileError → String
  | .notFound path => "Keymap file not found: " ++ path
  | .noParent => "Backup directory not writable: Keymap file has no parent directory"
  | .backupDirNotWritable path => "Backup directory not writable: " ++ path
  | .unusableName path => "Failed to create backup: Unusable file name: " ++ path
  | .backupFailed path cause => "Failed to create backup: " ++ path ++ ": " ++ cause.message
  | .writeFailed stage cause =>
    "Atomic write failed: " ++ stageText stage ++ ": " ++ cause.message
  | .invalidKeymap cause => "Refusing to write invalid keymap: " ++ cause.message
  | .io cause => "IO error: " ++ cause.message

/-- The cause of the error in words, where it has one of its own. -/
def cause? : FileError → Option String
  | .invalidKeymap cause => some cause.message
  | .io cause => some cause.message
  | _ => none

end FileError

/-- A keymap file and the directory of its backups. -/
structure KeymapFile where
  /-- The path of the file. -/
  path : Path
  /-- The path of the directory. -/
  backupDir : Path
  deriving DecidableEq, Repr

/-- A change of a keymap file under way. -/
structure Transaction where
  /-- The file. -/
  file : KeymapFile
  /-- The path of the backup. -/
  backupPath : Path
  deriving DecidableEq, Repr

section

variable {m : Type → Type} [Monad m] (fs : FileSystem m)

/-- Makes sure that a directory for backups is there and may be written. -/
def prepareBackups (dir : Path) : m (Except FileError Unit) := do
  if !(← fs.isPresent dir) then
    match ← fs.makeDir dir with
    | .error _ => return .error (.backupDirNotWritable dir)
    | .ok _ => pure ()
  match ← fs.isReadOnly dir with
  | .error e => return .error (.io e)
  | .ok true => return .error (.backupDirNotWritable dir)
  | .ok false => return .ok ()

/-- Opens a keymap file and makes the directory of its backups. -/
def KeymapFile.openAt (path : Path) : m (Except FileError KeymapFile) := do
  if !(← fs.isPresent path) then return .error (.notFound path)
  match path.parent? with
  | none => return .error .noParent
  | some parent =>
    let backupDir := Path.join parent "backups"
    match ← prepareBackups fs backupDir with
    | .error e => return .error e
    | .ok _ => return .ok ⟨path, backupDir⟩

/-- Reads the file. -/
def KeymapFile.read (file : KeymapFile) : m (Except FileError String) := do
  return (← fs.readText file.path).mapError .io

/-- Copies the file into the directory of its backups, under its name and the time. -/
def KeymapFile.backUp (file : KeymapFile) : m (Except FileError Path) := do
  match ← fs.readText file.path with
  | .error e => return .error (.io e)
  | .ok content =>
    let clock ← fs.now
    match file.path.fileName? with
    | none => return .error (.unusableName file.path)
    | some name =>
      let backup := Path.join file.backupDir (name ++ "." ++ clock.stamp)
      match ← fs.writeText backup content with
      | .error e => return .error (.backupFailed backup e)
      | .ok _ => return .ok backup

/-- Begins a transaction with a backup. -/
def Transaction.begin (file : KeymapFile) : m (Except FileError Transaction) := do
  return (← file.backUp fs).map fun backup => ⟨file, backup⟩

/-- Replaces the file. -/
def Transaction.commit (t : Transaction) (content : String) : m (Except FileError Unit) := do
  return (← fs.replaceText t.file.path content).mapError fun (stage, e) => .writeFailed stage e

/-- Replaces the file if the new content is a keymap. -/
def Transaction.commitChecked [PatternEngine] (t : Transaction) (content : String) :
    m (Except FileError Unit) :=
  match Keymap.parse content none with
  | .error e => return .error (.invalidKeymap e)
  | .ok _ => t.commit fs content

/-- Puts the backup back. -/
def Transaction.rollback (t : Transaction) : m (Except FileError Unit) := do
  match ← fs.readText t.backupPath with
  | .error e => return .error (.io e)
  | .ok content => t.commit fs content

end

end Keyplan.File
