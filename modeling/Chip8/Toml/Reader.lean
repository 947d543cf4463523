import Chip8.Text.CodePoint
import Chip8.Toml.Number
import Chip8.Toml.Value

/-!
Reading TOML. A reader takes its part from the front of the text and leaves the rest, or
fails; nobody asks where or why.
-/

namespace Chip8.Toml

/-- Takes a value from the front of a text. -/
abbrev Reader := StateT (List Char) Option

namespace Reader

/-- The next character, which stays. -/
def peek : Reader (Option Char) := do
  return (← get).head?

/-- Takes exactly this text. -/
def expect : List Char → Reader Unit
  | [] => pure ()
  | c :: cs => do
    let d :: rest ← get | failure
    if c = d then
      set rest
      expect cs
    else failure

/-- Takes the longest run of characters of a class. -/
def takeRun (p : Char → Bool) : Reader (List Char) := do
  let s ← get
  set (s.dropWhile p)
  return s.takeWhile p

/-- Blanks within a line. -/
def isSpace (c : Char) : Bool :=
  c = ' ' ∨ c = '\t'

def spaces : Reader Unit := do
  discard (takeRun isSpace)

/-- Control characters, which stand nowhere but in escapes; the tab is none of them. -/
def isControl (c : Char) : Bool :=
  (c.toNat < 0x20 && c != '\t') || c.toNat == 0x7F

/-- A line feed, behind a carriage return or not. -/
def newline : Reader Unit := do
  match ← get with
  | '\n' :: rest => set rest
  | '\r' :: '\n' :: rest => set rest
  | _ => failure

/-- A comment, if one is next, up to the end of its line. -/
def comment : Reader Unit := do
  if (← peek) = some '#' then discard (takeRun fun c => !isControl c)

/-! ### Strings -/

/-- The character that hexadecimal digits name. -/
def scalar? (digits : List Char) : Option Char := do
  let values ← digits.mapM Text.hexValue?
  Text.char? (values.foldl (fun n d => 16 * n + d) 0)

/-- The character that a letter stands for behind a backslash. -/
def escape? : Char → Option Char
  | 'b' => some '\x08'
  | 't' => some '\t'
  | 'n' => some '\n'
  | 'f' => some '\x0c'
  | 'r' => some '\r'
  | '"' => some '"'
  | '\\' => some '\\'
  | _ => none

/-- The rest of a string in double quotation marks, and what follows it. -/
def basicRest : List Char → Option (List Char × List Char)
  | [] => none
  | '"' :: rest => some ([], rest)
  | '\\' :: 'u' :: a :: b :: c :: d :: rest => do
    let e ← scalar? [a, b, c, d]
    let (cs, rest) ← basicRest rest
    return (e :: cs, rest)
  | '\\' :: 'U' :: a :: b :: c :: d :: a' :: b' :: c' :: d' :: rest => do
    let e ← scalar? [a, b, c, d, a', b', c', d']
    let (cs, rest) ← basicRest rest
    return (e :: cs, rest)
  | '\\' :: c :: rest => do
    let e ← escape? c
    let (cs, rest) ← basicRest rest
    return (e :: cs, rest)
  | c :: rest => do
    if isControl c || c == '\\' then none
    let (cs, rest) ← basicRest rest
    return (c :: cs, rest)

/-- The rest of a string in single quotation marks, in which nothing is escaped. -/
def literalRest : List Char → Option (List Char × List Char)
  | [] => none
  | c :: rest => do
    if c = '\x27' then return ([], rest)
    if isControl c then none
    let (cs, rest) ← literalRest rest
    return (c :: cs, rest)

/-- Where a string of several lines stands behind a backslash that ends a line. -/
inductive Fold
  /-- Nowhere near one. -/
  | off
  /-- Behind the backslash, before the end of its line. -/
  | line
  /-- Behind the end of the line: the blanks up to the next character do not count. -/
  | blanks
  deriving DecidableEq

/-- The rest of a string in three double quotation marks. One or two of the marks may stand
before the three that end it. -/
def basicLinesRest (fold : Fold) : List Char → Option (List Char × List Char)
  | [] => none
  | '\n' :: rest =>
    if fold = .off then do
      let (cs, rest) ← basicLinesRest .off rest
      return ('\n' :: cs, rest)
    else basicLinesRest .blanks rest
  | '\r' :: '\n' :: rest =>
    if fold = .off then do
      let (cs, rest) ← basicLinesRest .off rest
      return ('\n' :: cs, rest)
    else basicLinesRest .blanks rest
  | c :: rest =>
    if fold ≠ .off ∧ isSpace c then basicLinesRest fold rest
    else if fold = .line then none
    else match c, rest with
      | '"', '"' :: '"' :: '"' :: '"' :: rest => some (['"', '"'], rest)
      | '"', '"' :: '"' :: '"' :: rest => some (['"'], rest)
      | '"', '"' :: '"' :: rest => some ([], rest)
      | '\\', 'u' :: a :: b :: c :: d :: rest => do
        let e ← scalar? [a, b, c, d]
        let (cs, rest) ← basicLinesRest .off rest
        return (e :: cs, rest)
      | '\\', 'U' :: a :: b :: c :: d :: a' :: b' :: c' :: d' :: rest => do
        let e ← scalar? [a, b, c, d, a', b', c', d']
        let (cs, rest) ← basicLinesRest .off rest
        return (e :: cs, rest)
      | '\\', d :: rest =>
        match escape? d with
        | some e => do
          let (cs, rest) ← basicLinesRest .off rest
          return (e :: cs, rest)
        | none => basicLinesRest .line (d :: rest)
      | c, rest => do
        if isControl c || c == '\\' then none
        let (cs, rest) ← basicLinesRest .off rest
        return (c :: cs, rest)

/-- The rest of a string in three single quotation marks. -/
def literalLinesRest : List Char → Option (List Char × List Char)
  | [] => none
  | '\x27' :: '\x27' :: '\x27' :: '\x27' :: '\x27' :: rest => some (['\x27', '\x27'], rest)
  | '\x27' :: '\x27' :: '\x27' :: '\x27' :: rest => some (['\x27'], rest)
  | '\x27' :: '\x27' :: '\x27' :: rest => some ([], rest)
  | '\r' :: '\n' :: rest => do
    let (cs, rest) ← literalLinesRest rest
    return ('\n' :: cs, rest)
  | c :: rest => do
    if isControl c && c != '\n' then none
    let (cs, rest) ← literalLinesRest rest
    return (c :: cs, rest)

/-- A line break at once behind the opening marks does not count. -/
def dropFirstBreak : List Char → List Char
  | '\n' :: rest => rest
  | '\r' :: '\n' :: rest => rest
  | rest => rest

/-- A string of one line. -/
def shortText : Reader String := do
  match ← get with
  | '"' :: rest =>
    let (cs, rest) ← (basicRest rest : Option _)
    set rest
    return String.ofList cs
  | '\x27' :: rest =>
    let (cs, rest) ← (literalRest rest : Option _)
    set rest
    return String.ofList cs
  | _ => failure

/-- A string of any kind. -/
def text : Reader String := do
  match ← get with
  | '"' :: '"' :: '"' :: rest =>
    let (cs, rest) ← (basicLinesRest .off (dropFirstBreak rest) : Option _)
    set rest
    return String.ofList cs
  | '\x27' :: '\x27' :: '\x27' :: rest =>
    let (cs, rest) ← (literalLinesRest (dropFirstBreak rest) : Option _)
    set rest
    return String.ofList cs
  | _ => shortText

/-! ### Keys -/

/-- Characters of a key without quotation marks. -/
def isBare (c : Char) : Bool :=
  c.isAlphanum || c == '_' || c == '-'

def simpleKey : Reader String := do
  match ← peek with
  | some '"' | some '\x27' => shortText
  | _ =>
    let cs ← takeRun isBare
    if cs.isEmpty then failure
    return String.ofList cs

/-- Keys joined by dots, with blanks around the dots; at most `limit` of them. -/
def dottedKey : (limit : Nat) → Reader (List String)
  | 0 => failure
  | limit + 1 => do
    spaces
    let key ← simpleKey
    spaces
    if (← peek) = some '.' then
      expect ['.']
      return key :: (← dottedKey limit)
    else return [key]

/-- How many keys can be joined, and how deep brackets and braces can lie in each other. -/
def maxDepth : Nat := 79

/-- Keys joined by dots. -/
def key : Reader (List String) :=
  dottedKey maxDepth

/-! ### Values -/

/-- Characters of a number, a date or a word. -/
def isWord (c : Char) : Bool :=
  c.isAlphanum || c == '+' || c == '-' || c == '_' || c == '.' || c == ':'

/-- A boolean, a number or a date. A date may go on behind a blank with a time. -/
def scalar : Reader Value := do
  let word ← takeRun isWord
  let word ←
    if (dropDate? word) = some [] then do
      let rest ← get
      if rest.head? = some ' ' ∧ (rest.drop 1).head?.any Char.isDigit then
        expect [' ']
        pure (word ++ ' ' :: (← takeRun isWord))
      else pure word
    else pure word
  if word = "true".toList then return .boolean true
  else if word = "false".toList then return .boolean false
  else match integer? word with
    | some n => return .integer n
    | none =>
      if isFloat word then return .float (String.ofList word)
      else if isDate word then return .date (String.ofList word)
      else failure

/-- Blanks, line breaks and comments, as they may stand between the items of an array; at most
`fuel` lines. -/
def breaks : (fuel : Nat) → Reader Unit
  | 0 => failure
  | fuel + 1 => do
    spaces
    comment
    match ← peek with
    | some '\n' | some '\r' =>
      newline
      breaks fuel
    | _ => pure ()

mutual

/-- A value, in which brackets and braces lie at most `depth` deep in each other; `fuel` bounds
the values in it. -/
def value : (depth fuel : Nat) → Reader Value
  | _, 0 => failure
  | depth, fuel + 1 => do
    match ← peek, depth with
    | some '"', _ | some '\x27', _ => return .text (← text)
    | some '[', depth + 1 =>
      expect ['[']
      return .array (← items depth fuel)
    | some '{', depth + 1 =>
      expect ['{']
      spaces
      if (← peek) = some '}' then
        expect ['}']
        return .table .inline []
      else return .table .inline (← pairs depth fuel [])
    | _, _ => scalar

/-- The rest of an array, with its closing bracket. -/
def items : (depth fuel : Nat) → Reader (List Value)
  | _, 0 => failure
  | depth, fuel + 1 => do
    breaks (fuel + 1)
    if (← peek) = some ']' then
      expect [']']
      return []
    let item ← value depth fuel
    breaks (fuel + 1)
    match ← peek with
    | some ',' =>
      expect [',']
      return item :: (← items depth fuel)
    | _ =>
      expect [']']
      return [item]

/-- The rest of a table in braces, with its closing brace. -/
def pairs : (depth fuel : Nat) → Entries → Reader Entries
  | _, 0, _ => failure
  | depth, fuel + 1, entries => do
    let path ← key
    expect ['=']
    spaces
    let v ← value depth fuel
    let entries ← (entries.insert v path : Option _)
    spaces
    match ← peek with
    | some ',' =>
      expect [',']
      pairs depth fuel entries
    | _ =>
      expect ['}']
      return entries

end

/-! ### Documents -/

/-- A pair or a header. -/
def statement : Reader Statement := do
  match ← get with
  | '[' :: '[' :: _ =>
    expect ['[', '[']
    let path ← key
    expect [']', ']']
    return .nextHeader path
  | '[' :: _ =>
    expect ['[']
    let path ← key
    expect [']']
    return .header path
  | s =>
    let path ← key
    expect ['=']
    spaces
    return .pair path (← value maxDepth (2 * s.length))

/-- The statements of a document, at most one a line; at most `fuel` lines. -/
def statements : (fuel : Nat) → Reader (List Statement)
  | 0 => failure
  | fuel + 1 => do
    spaces
    let found ← match ← peek with
      | none | some '#' | some '\n' | some '\r' => pure []
      | _ => do pure [← statement]
    spaces
    comment
    if (← get).isEmpty then return found
    newline
    return found ++ (← statements fuel)

end Reader

/-- The entries of a document, in the order in which they are first named. One byte order mark
before them is passed over. -/
def document (s : List Char) : Option Entries := do
  let s := if s.head? = some '\uFEFF' then s.drop 1 else s
  let (statements, _) ← (Reader.statements (s.length + 1)).run s
  ofStatements statements

/-- The entries of a document, given as text. -/
def parse (s : String) : Option Entries :=
  document s.toList

end Chip8.Toml
