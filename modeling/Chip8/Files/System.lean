/-!
What a program asks of the files around it, and why that may be refused. The calls are in a
monad, so that the same program runs on a tree of files held as a value and on a disk.
-/

namespace Chip8

/-- Why a call on files is refused. -/
inductive Fault
  | notFound
  | alreadyThere
  | notDirectory
  | isDirectory
  | nameTooLong
  /-- A path with a null character. -/
  | nullInPath
  /-- Text was asked for, and the bytes are none. -/
  | notText
  /-- Any other reason, in the words of the system. -/
  | other (message : String)
  deriving DecidableEq, Repr

def Fault.message : Fault → String
  | notFound => "No such file or directory (os error 2)"
  | alreadyThere => "File exists (os error 17)"
  | notDirectory => "Not a directory (os error 20)"
  | isDirectory => "Is a directory (os error 21)"
  | nameTooLong => "File name too long (os error 36)"
  | nullInPath => "file name contained an unexpected NUL byte"
  | notText => "stream did not contain valid UTF-8"
  | other message => message

class FileSystem (m : Type → Type) where
  /-- Whether a path leads to a file. -/
  isFile : String → m Bool
  read : String → m (Except Fault ByteArray)
  /-- Makes a directory and those above it that are missing. -/
  createDirs : String → m (Except Fault Unit)
  /-- Makes a file with these bytes, or gives the file that is there these bytes. -/
  write : String → ByteArray → m (Except Fault Unit)

namespace FileSystem

variable {m : Type → Type} [Monad m] [FileSystem m]

/-- The bytes of a file as text. -/
def readText (path : String) : m (Except Fault String) := do
  match ← read path with
  | .error e => return .error e
  | .ok bytes =>
    match String.fromUTF8? bytes with
    | some text => return .ok text
    | none => return .error .notText

end FileSystem

end Chip8
