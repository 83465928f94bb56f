import Keyplan.File.OsError
import Keyplan.File.Path

/-!
# Disks

A tree of directories, files and symbolic links, with a working directory, and the operations on it
that keymap files need. An operation that fails leaves the disk as it is.
-/

namespace Keyplan.File

/-- What a name in a directory stands for. -/
inductive Entry where
  /-- A file with its content. -/
  | file (content : ByteArray)
  /-- A symbolic link to a path. -/
  | link (target : Path)
  /-- A directory. -/
  | dir (readOnly : Bool) (children : List (String × Entry))
  deriving Inhabited

namespace Entry

/-- The entry of a name in a list of them. -/
def child? (name : String) (children : List (String × Entry)) : Option Entry :=
  (children.find? fun c => c.1 == name).map Prod.snd

/-- Puts an entry under a name. -/
def putChild (name : String) (e : Entry) : List (String × Entry) → List (String × Entry)
  | [] => [(name, e)]
  | (n, old) :: rest => if n = name then (n, e) :: rest else (n, old) :: putChild name e rest

/-- The entry at a place, given by the names that lead there. -/
def at? : List String → Entry → Option Entry
  | [], e => some e
  | name :: names, .dir _ children =>
    match child? name children with
    | some e => at? names e
    | none => none
  | _ :: _, _ => none

/-- Changes the children of the directory at a place. -/
def changeDir (f : List (String × Entry) → List (String × Entry)) : List String → Entry → Entry
  | [], .dir readOnly children => .dir readOnly (f children)
  | name :: names, .dir readOnly children =>
    match child? name children with
    | some e => .dir readOnly (putChild name (changeDir f names e) children)
    | none => .dir readOnly children
  | _, e => e

end Entry

/-- A tree of entries and the place of the working directory. -/
structure Disk where
  /-- The root directory. -/
  root : Entry
  /-- The names that lead to the working directory. -/
  cwd : List String
  deriving Inhabited

namespace Disk

/-- Most links that one path may lead through. -/
def maxLinks : Nat := 40

/-- Most bytes of a name. -/
def maxName : Nat := 255

/-- Most bytes of a path. -/
def maxPath : Nat := 4095

/-- Where a path leads. -/
inductive Target where
  /-- To an entry at a place. -/
  | found (place : List String) (e : Entry)
  /-- To a name that a directory does not have. -/
  | missing (dir : List String) (name : String)

/-- Follows names from a place on; `links` bounds the links, and `follow` says whether a link at
the end is followed. -/
def walk (d : Disk) (follow : Bool) (links : Nat) (place names : List String) :
    Except OsError Target :=
  match names with
  | [] =>
    match d.root.at? place with
    | some e => .ok (.found place e)
    | none => .error .notFound
  | name :: rest =>
    match d.root.at? place with
    | some (.dir _ children) =>
      if name = "" ∨ name = "." then walk d follow links place rest
      else if name = ".." then walk d follow links place.dropLast rest
      else if maxName < name.utf8ByteSize then .error .nameTooLong
      else
        match Entry.child? name children with
        | none => if rest = [] then .ok (.missing place name) else .error .notFound
        | some (.link target) =>
          if rest = [] ∧ !follow then .ok (.found (place ++ [name]) (.link target))
          else
            match links with
            | 0 => .error .tooManyLinks
            | links + 1 =>
              let start := if target.isAbsolute then [] else place
              walk d follow links start (target.names ++ rest)
        | some _ => walk d follow links (place ++ [name]) rest
    | some _ => .error .notADirectory
    | none => .error .notFound
termination_by (links, names.length)

/-- Where a path leads. -/
def resolve (d : Disk) (follow : Bool) (p : Path) : Except OsError Target :=
  if p.toList.contains '\x00' then .error .nullInPath
  else if p = "" then .error .notFound
  else if maxPath < p.utf8ByteSize then .error .nameTooLong
  else d.walk follow maxLinks (if p.isAbsolute then [] else d.cwd) p.names

/-- The entry that a path leads to through all links. -/
def entry (d : Disk) (p : Path) : Except OsError Entry :=
  match d.resolve true p with
  | .ok (.found _ e) => .ok e
  | .ok (.missing _ _) => .error .notFound
  | .error e => .error e

/-- Whether a path leads to something. -/
def isPresent (d : Disk) (p : Path) : Bool :=
  match d.entry p with
  | .ok _ => true
  | .error _ => false

/-- Whether what a path leads to must not be written. -/
def isReadOnly (d : Disk) (p : Path) : Except OsError Bool :=
  match d.entry p with
  | .ok (.dir readOnly _) => .ok readOnly
  | .ok _ => .ok false
  | .error e => .error e

/-- The bytes of a file. -/
def readBytes (d : Disk) (p : Path) : Except OsError ByteArray :=
  match d.entry p with
  | .ok (.file content) => .ok content
  | .ok (.dir _ _) => .error .isADirectory
  | .ok (.link _) => .error .tooManyLinks
  | .error e => .error e

/-- The text of a file. -/
def readText (d : Disk) (p : Path) : Except OsError String :=
  match d.readBytes p with
  | .error e => .error e
  | .ok bytes =>
    match String.fromUTF8? bytes with
    | some text => .ok text
    | none => .error .notText

/-- The disk with an entry under a name of the directory at a place. -/
def put (d : Disk) (dir : List String) (name : String) (e : Entry) : Disk :=
  { d with root := d.root.changeDir (Entry.putChild name e) dir }

/-- The disk without a name of the directory at a place. -/
def erase (d : Disk) (dir : List String) (name : String) : Disk :=
  { d with root := d.root.changeDir (fun cs => cs.filter fun c => c.1 != name) dir }

/-- The disk with another entry at a place. -/
def replaceAt (d : Disk) (place : List String) (e : Entry) : Disk :=
  match place.getLast? with
  | some name => d.put place.dropLast name e
  | none => { d with root := e }

/-- Writes a text to the file that a path leads to, and makes the file if there is none. -/
def writeText (d : Disk) (p : Path) (text : String) : Except OsError Disk :=
  let file := Entry.file text.toUTF8
  match d.resolve true p with
  | .ok (.found place (.file _)) => .ok (d.replaceAt place file)
  | .ok (.found _ _) => .error .isADirectory
  | .ok (.missing dir name) => .ok (d.put dir name file)
  | .error e => .error e

/-- Makes a directory under a name that is free. -/
def makeDir (d : Disk) (p : Path) : Except OsError Disk :=
  match d.resolve false p with
  | .ok (.found _ _) => .error .alreadyExists
  | .ok (.missing dir name) => .ok (d.put dir name (.dir false []))
  | .error e => .error e

/-- Puts a file with a text in the place of whatever file or link is at a path, in one step. -/
def replaceText (d : Disk) (p : Path) (text : String) : Except OsError Disk :=
  let file := Entry.file text.toUTF8
  match d.resolve false p with
  | .ok (.found _ (.dir _ _)) => .error .isADirectory
  | .ok (.found place _) => .ok (d.replaceAt place file)
  | .ok (.missing dir name) => .ok (d.put dir name file)
  | .error e => .error e

/-- Removes the file or link at a path. -/
def removeFile (d : Disk) (p : Path) : Except OsError Disk :=
  match d.resolve false p with
  | .ok (.found _ (.dir _ _)) => .error .isADirectory
  | .ok (.found place _) => .ok (d.erase place.dropLast (place.getLast?.getD ""))
  | .ok (.missing _ _) => .error .notFound
  | .error e => .error e

/-- Removes the directory at a path with all it holds. -/
def removeDir (d : Disk) (p : Path) : Except OsError Disk :=
  match d.resolve false p with
  | .ok (.found place (.dir _ _)) => .ok (d.erase place.dropLast (place.getLast?.getD ""))
  | .ok (.found _ _) => .error .notADirectory
  | .ok (.missing _ _) => .error .notFound
  | .error e => .error e

/-- The names in a directory in order, each with its entry. -/
def list (d : Disk) (p : Path) : List (String × Entry) :=
  match d.entry p with
  | .ok (.dir _ children) => children.mergeSort fun a b => a.1 ≤ b.1
  | _ => []

end Disk

end Keyplan.File
