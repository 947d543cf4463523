import Chip8.Text.Fields

/-!
Paths, as text. Names are separated by slashes, and a path that begins with one is absolute.
-/

namespace Chip8.Path

def isAbsolute (path : String) : Bool :=
  path.toList.head? == some '/'

/-- The names on the way that a path describes. A slash at the end asks for a directory, as a
dot behind it would. -/
def names (path : String) : List String :=
  let all := Text.fields '/' path.toList
  let kept := all.filter fun piece => !piece.isEmpty
  let slashed := if all.getLast? = some [] ∧ !kept.isEmpty then kept ++ [['.']] else kept
  slashed.map String.ofList

/-- The path of a name below `base`. -/
def join (base name : String) : String :=
  if base.isEmpty || base.toList.getLast? == some '/' then base ++ name
  else base ++ "/" ++ name

/-- The name of the file that a path leads to, if it leads to a name. -/
def fileName? (path : String) : Option (List Char) :=
  let named := (Text.fields '/' path.toList).filter fun piece => !piece.isEmpty && piece != ['.']
  named.getLast?.filter (· != ['.', '.'])

/-- What stands behind the last dot of the file's name, unless the name begins with that dot. -/
def extension? (path : String) : Option (List Char) := do
  let name ← fileName? path
  let after := (name.reverse.takeWhile (· != '.')).reverse
  if after.length + 1 < name.length then some after else none

end Chip8.Path
