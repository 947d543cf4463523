/-!
TOML values and tables. A table keeps its entries in the order in which they were written, and
remembers how it came about, because that decides who may add to it later.
-/

namespace Chip8.Toml

/-- How a table came about. -/
inductive TableKind
  /-- Written in braces; nothing can be added. -/
  | inline
  /-- Made by a dotted key; further dotted keys may add to it. -/
  | dotted
  /-- Made on the way to a header below it; it may still get a header of its own. -/
  | implicit
  /-- Has a header of its own. -/
  | headed
  deriving DecidableEq, Repr

inductive Value
  | text (s : String)
  | integer (n : Int)
  /-- A float, as it is written. -/
  | float (digits : String)
  | boolean (b : Bool)
  /-- A date, a time or both, as written. -/
  | date (digits : String)
  | array (items : List Value)
  | table (kind : TableKind) (entries : List (String × Value))
  /-- The tables with headers in double brackets, newest first. -/
  | tables (newest : List (String × Value)) (older : List (List (String × Value)))

/-- Entries in the order in which they were written. -/
abbrev Entries := List (String × Value)

namespace Entries

def get? (entries : Entries) (key : String) : Option Value :=
  entries.lookup key

/-- Puts a value in the place of the one that the key has. -/
def replace (entries : Entries) (key : String) (value : Value) : Entries :=
  entries.map fun (k, v) => if k = key then (k, value) else (k, v)

/-- Adds an entry behind the others. -/
def push (entries : Entries) (key : String) (value : Value) : Entries :=
  entries ++ [(key, value)]

/-- Adds a value under a key that has none. -/
def add? (entries : Entries) (key : String) (value : Value) : Option Entries :=
  match entries.get? key with
  | none => some (entries.push key value)
  | some _ => none

/-- Adds a pair with a dotted key. The keys before the last lead through tables without a header
of their own, and the newest of tables in double brackets; the table that gets the pair must
have been made by a dotted key. -/
def insert (entries : Entries) (value : Value) : (path : List String) → Option Entries
  | [] => none
  | [key] => add? entries key value
  | [key, last] =>
    match entries.get? key with
    | none => some (entries.push key (.table .dotted [(last, value)]))
    | some (.table .dotted inner) => do
      return entries.replace key (.table .dotted (← add? inner last value))
    | some _ => none
  | key :: path =>
    match entries.get? key with
    | none => do return entries.push key (.table .dotted (← insert [] value path))
    | some (.table kind inner) =>
      if kind = .dotted ∨ kind = .implicit then do
        return entries.replace key (.table kind (← insert inner value path))
      else none
    | some (.tables newest older) => do
      return entries.replace key (.tables (← insert newest value path) older)
    | some _ => none

/-- Changes the table that the keys of a header lead to, and makes the tables on the way that
are missing. Of tables in double brackets the newest is meant. -/
def modify (f : Entries → Option Entries) (entries : Entries) : (path : List String) →
    Option Entries
  | [] => f entries
  | key :: path =>
    match entries.get? key with
    | none => do return entries.push key (.table .implicit (← modify f [] path))
    | some (.table .inline _) => none
    | some (.table kind inner) => do
      return entries.replace key (.table kind (← modify f inner path))
    | some (.tables newest older) => do
      return entries.replace key (.tables (← modify f newest path) older)
    | some _ => none

/-- Gives a table its header; a table can have one. -/
def head (key : String) (entries : Entries) : Option Entries :=
  match entries.get? key with
  | none => some (entries.push key (.table .headed []))
  | some (.table .implicit inner) => some (entries.replace key (.table .headed inner))
  | some _ => none

/-- Begins the next of the tables in double brackets. -/
def headNext (key : String) (entries : Entries) : Option Entries :=
  match entries.get? key with
  | none => some (entries.push key (.tables [] []))
  | some (.tables newest older) => some (entries.replace key (.tables [] (newest :: older)))
  | some _ => none

end Entries

/-- One statement of a document. -/
inductive Statement
  /-- `a.b = value` -/
  | pair (path : List String) (value : Value)
  /-- `[a.b]` -/
  | header (path : List String)
  /-- `[[a.b]]` -/
  | nextHeader (path : List String)

/-- Carries out a statement; `current` is the header it stands under. -/
def Statement.apply (current : List String) (entries : Entries) :
    Statement → Option (List String × Entries)
  | .pair path value => do
    return (current, ← entries.modify (fun inner => inner.insert value path) current)
  | .header path => do
    let key ← path.getLast?
    return (path, ← entries.modify (Entries.head key) path.dropLast)
  | .nextHeader path => do
    let key ← path.getLast?
    return (path, ← entries.modify (Entries.headNext key) path.dropLast)

/-- The entries that a list of statements makes; `none` if two of them do not go together. -/
def ofStatements (statements : List Statement) : Option Entries :=
  let carryOut (state : List String × Entries) (s : Statement) := s.apply state.1 state.2
  (statements.foldlM carryOut ([], [])).map (·.2)

end Chip8.Toml
