import Chip8.Files.Path
import Chip8.Files.System
import Std.Data.HashMap

/-!
A tree of files, held as a value: which places there are, what lies at each, and what is not
permitted there. A place is the list of the names that lead to it. Paths that do not begin with
a slash are followed from the working directory.
-/

namespace Chip8

/-- The names on the way from the root, the last one first. -/
abbrev Place := List String

/-- What can lie at a place. -/
inductive Entry
  | directory
  | file (bytes : ByteArray)

/-- What a program wants at a place. -/
inductive Access
  /-- To find a name in a directory. -/
  | search
  /-- To read the bytes of a file. -/
  | read
  /-- To make an entry, or to give a file other bytes. -/
  | change

structure FileTree where
  entries : Std.HashMap Place Entry := {}
  /-- The working directory. -/
  cwd : Place := []
  /-- How the system answers where it does not permit an access. -/
  refusal? : Access → Place → Option Fault := fun _ _ => none

namespace FileTree

/-- What lies at a place. The root is a directory. -/
def get? (t : FileTree) (place : Place) : Option Entry :=
  if place.isEmpty then some .directory else t.entries[place]?

/-- Puts an entry at a place, instead of what is there. -/
def put (t : FileTree) (place : Place) (entry : Entry) : FileTree :=
  { t with entries := t.entries.insert place entry }

/-- The longest name that an entry can have, in bytes. -/
def maxNameSize : Nat := 255

/-- Follows names from a place. Every place but the last must be a directory. -/
def walk (t : FileTree) : Place → List String → Except Fault Place
  | here, [] => .ok here
  | here, name :: rest =>
    match t.get? here with
    | none => .error .notFound
    | some (.file _) => .error .notDirectory
    | some .directory =>
      match t.refusal? .search here with
      | some fault => .error fault
      | none =>
        if name = "." then t.walk here rest
        else if name = ".." then t.walk here.tail rest
        else if maxNameSize < name.utf8ByteSize then .error .nameTooLong
        else t.walk (name :: here) rest

/-- Where a path begins. -/
def origin (t : FileTree) (path : String) : Place :=
  if Path.isAbsolute path then [] else t.cwd

/-- The longest path, in bytes. -/
def maxPathSize : Nat := 4095

/-- What keeps a text from being a path at all. -/
def pathFault? (path : String) : Option Fault :=
  if path.toList.any (·.toNat == 0) then some .nullInPath
  else if maxPathSize < path.utf8ByteSize then some .nameTooLong
  else none

/-- The place that a path leads to, whether anything lies there or not. -/
def resolve (t : FileTree) (path : String) : Except Fault Place :=
  match pathFault? path with
  | some fault => .error fault
  | none => if path.isEmpty then .error .notFound else t.walk (t.origin path) (Path.names path)

def isFile (t : FileTree) (path : String) : Bool :=
  match t.resolve path with
  | .error _ => false
  | .ok place =>
    match t.get? place with
    | some (.file _) => true
    | _ => false

def read (t : FileTree) (path : String) : Except Fault ByteArray := do
  let place ← t.resolve path
  match t.get? place with
  | none => .error .notFound
  | some .directory => .error .isDirectory
  | some (.file bytes) =>
    match t.refusal? .read place with
    | some fault => .error fault
    | none => .ok bytes

def write (t : FileTree) (path : String) (bytes : ByteArray) : Except Fault FileTree := do
  let place ← t.resolve path
  match t.get? place with
  | some .directory => .error .isDirectory
  | _ =>
    match t.refusal? .change place with
    | some fault => .error fault
    | none => .ok (t.put place (.file bytes))

/-- Makes the directories that names lead through from a directory, as far as they are missing;
`made` says whether one was missing before. What was made stays when a later one cannot be made.
A file in the way counts as an entry that is already there if one was missing before it, or if
nothing follows it. -/
def makeDirs (made : Bool) (t : FileTree) (here : Place) :
    List String → Except Fault Unit × FileTree
  | [] => (.ok (), t)
  | name :: rest =>
    match t.refusal? .search here with
    | some fault => (.error fault, t)
    | none =>
      if name = "." then makeDirs made t here rest
      else if name = ".." then makeDirs made t here.tail rest
      else if maxNameSize < name.utf8ByteSize then (.error .nameTooLong, t)
      else match t.get? (name :: here) with
        | some .directory => makeDirs made t (name :: here) rest
        | some (.file _) =>
          (.error (if made || rest.isEmpty then .alreadyThere else .notDirectory), t)
        | none =>
          match t.refusal? .change (name :: here) with
          | some fault => (.error fault, t)
          | none => makeDirs true (t.put (name :: here) .directory) (name :: here) rest

def createDirs (t : FileTree) (path : String) : Except Fault Unit × FileTree :=
  match pathFault? path with
  | some fault => (.error fault, t)
  | none => makeDirs false t (t.origin path) (Path.names path)

instance : FileSystem (StateM FileTree) where
  isFile path := return (← get).isFile path
  read path := return (← get).read path
  createDirs path := modifyGet (·.createDirs path)
  write path bytes := do
    match (← get).write path bytes with
    | .ok t =>
      set t
      return .ok ()
    | .error e => return .error e

end FileTree

end Chip8
