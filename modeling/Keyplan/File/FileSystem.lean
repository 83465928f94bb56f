import Keyplan.File.Disk

/-!
# File systems

The operations on files that the rest of the library calls. They are given for a `Disk`, where
everything that happens can be computed, and the program gives them for the computer it runs on.
-/

namespace Keyplan.File

/-- A reading of the clock. -/
structure Moment where
  /-- The year. -/
  year : Nat
  /-- The month, from one. -/
  month : Nat
  /-- The day of the month, from one. -/
  day : Nat
  /-- The hour. -/
  hour : Nat
  /-- The minute. -/
  minute : Nat
  /-- The second. -/
  second : Nat
  deriving DecidableEq, Repr, Inhabited

/-- A number with zeros in front up to a width. -/
def padded (width n : Nat) : String :=
  let digits := Nat.toDigits 10 n
  String.ofList (List.replicate (width - digits.length) '0' ++ digits)

/-- The moment as part of a file name, to the second. -/
def Moment.stamp (t : Moment) : String :=
  padded 4 t.year ++ "-" ++ padded 2 t.month ++ "-" ++ padded 2 t.day ++ "_" ++
    padded 2 t.hour ++ padded 2 t.minute ++ padded 2 t.second

/-- At which step a file could not be replaced. -/
inductive WriteStage where
  /-- Making the new file. -/
  | opening
  /-- Filling the new file. -/
  | writing
  /-- Putting the new file in the place of the old one. -/
  | committing
  deriving DecidableEq, Repr

/-- Operations on files in a monad. -/
structure FileSystem (m : Type → Type) where
  /-- Whether a path leads to something. -/
  isPresent : Path → m Bool
  /-- Whether what a path leads to must not be written. -/
  isReadOnly : Path → m (Except OsError Bool)
  /-- Makes a directory. -/
  makeDir : Path → m (Except OsError Unit)
  /-- The text of a file. -/
  readText : Path → m (Except OsError String)
  /-- Writes a text to the file that a path leads to. -/
  writeText : Path → String → m (Except OsError Unit)
  /-- Puts a file in the place of what is at a path, in one step or not at all. -/
  replaceText : Path → String → m (Except (WriteStage × OsError) Unit)
  /-- Reads the clock. -/
  now : m Moment

namespace Disk

/-- Takes over the disk that an operation made, if it succeeded. -/
def commit {ε : Type} (r : Except ε Disk) : StateM Disk (Except ε Unit) :=
  match r with
  | .ok d => do set d; return .ok ()
  | .error e => return .error e

/-- The step at which replacing a file fails: a directory at the path shows only at the end. -/
def stageOf : OsError → WriteStage
  | .isADirectory => .committing
  | _ => .opening

/-- The operations on a disk while the clock shows `clock`. -/
def fileSystem (clock : Moment) : FileSystem (StateM Disk) where
  isPresent p := return (← get).isPresent p
  isReadOnly p := return (← get).isReadOnly p
  makeDir p := do commit ((← get).makeDir p)
  readText p := return (← get).readText p
  writeText p text := do commit ((← get).writeText p text)
  replaceText p text := do
    commit (((← get).replaceText p text).mapError fun e => (stageOf e, e))
  now := return clock

end Disk

end Keyplan.File
