import Keyplan.Command.Run
import Std.Time.Zoned

/-!
# The program

Runs a command line on the files of the computer.
-/

namespace Keyplan.File

/-- The error with the number that the computer gives it; the number may come negated. -/
def OsError.ofCode (code : UInt32) (text : String) : OsError :=
  match if code < 0x80000000 then code else 0 - code with
  | 2 => .notFound
  | 17 => .alreadyExists
  | 20 => .notADirectory
  | 21 => .isADirectory
  | 36 => .nameTooLong
  | 40 => .tooManyLinks
  | code => .other (text ++ " (os error " ++ toString code ++ ")")

/-- The error of an operation on files. -/
def OsError.ofError : IO.Error → OsError
  | .alreadyExists _ code text => .ofCode code text
  | .otherError code text => .ofCode code text
  | .resourceBusy code text => .ofCode code text
  | .resourceVanished code text => .ofCode code text
  | .unsupportedOperation code text => .ofCode code text
  | .hardwareFault code text => .ofCode code text
  | .unsatisfiedConstraints code text => .ofCode code text
  | .illegalOperation code text => .ofCode code text
  | .protocolError code text => .ofCode code text
  | .timeExpired code text => .ofCode code text
  | .interrupted _ code text => .ofCode code text
  | .noFileOrDirectory _ code text => .ofCode code text
  | .invalidArgument _ code text => .ofCode code text
  | .permissionDenied _ code text => .ofCode code text
  | .resourceExhausted _ code text => .ofCode code text
  | .inappropriateType _ code text => .ofCode code text
  | .noSuchThing _ code text => .ofCode code text
  | .unexpectedEof => .other "unexpected end of file"
  | .userError text => .other text

/-- Runs an action and hands over its error. -/
def attempt {α : Type} (action : IO α) : IO (Except OsError α) := do
  match ← action.toBaseIO with
  | .ok a => return .ok a
  | .error e => return .error (.ofError e)

/-- The text of a file. -/
def readComputerText (p : Path) : IO (Except OsError String) := do
  match ← attempt (IO.FS.readBinFile p) with
  | .error e => return .error e
  | .ok bytes =>
    match String.fromUTF8? bytes with
    | some text => return .ok text
    | none => return .error .notText

/-- Whether what a path leads to must not be written. The computer does not tell its permissions
here, so the answer is no for all that is there, and a refusal shows when something is written. -/
def isProtected (p : Path) : IO (Except OsError Bool) := do
  return (← attempt (IO.FS.realPath p)).map fun _ => false

/-- Writes a text beside a path and then moves it there. -/
def replaceComputerText (p : Path) (text : String) :
    IO (Except (WriteStage × OsError) Unit) := do
  let fresh := Path.join ((Path.parent? p).getD "") ("." ++ (Path.fileName? p).getD "" ++ ".new")
  match ← attempt (IO.FS.Handle.mk fresh .write) with
  | .error e => return .error (.opening, e)
  | .ok handle =>
    match ← attempt (do handle.putStr text; handle.flush) with
    | .error e =>
      let _ ← attempt (IO.FS.removeFile fresh)
      return .error (.writing, e)
    | .ok _ =>
      match ← attempt (IO.FS.rename fresh p) with
      | .error e =>
        let _ ← attempt (IO.FS.removeFile fresh)
        return .error (.committing, e)
      | .ok _ => return .ok ()

/-- The local time. -/
def localMoment : IO Moment := do
  let t ← Std.Time.PlainDateTime.now
  return ⟨t.year.toInt.toNat, t.month.toNat, t.day.toNat, t.hour.val.toNat, t.minute.val.toNat,
    t.second.val.toNat⟩

/-- The operations on the files of the computer. -/
def computer : FileSystem IO where
  isPresent p := return (← attempt (IO.FS.realPath p)).toOption.isSome
  isReadOnly := isProtected
  makeDir p := attempt (IO.FS.createDir p)
  readText := readComputerText
  writeText p text := attempt (IO.FS.writeFile p text)
  replaceText := replaceComputerText
  now := localMoment

end Keyplan.File

/-- Runs the words of a command line and gives back the exit code. -/
def main (args : List String) : IO UInt32 := do
  let outcome ← Keyplan.Command.runWords Keyplan.File.computer (← IO.getEnv "HOME") args
  IO.print outcome.out
  IO.eprint outcome.err
  return outcome.exit.toUInt32
