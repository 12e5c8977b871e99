import Postmortem.Toml.Scalar
import Postmortem.Toml.Table

/-!
# Settings files

A file is a sequence of lines: headings, keys with values, comments and empty lines. Its value is
an object.
-/

namespace Postmortem.Toml

open Text Scan

/-! ### Keys -/

/-- Whether a character can stand in a key without quotes. -/
def isKeyChar (c : Char) : Bool := c.isAlphanum || c == '_' || c == '-'

/-- Reads one part of a key. -/
def keyPart : Scan String :=
  lineText <|> do return .ofList (← span1 isKeyChar)

/-- The number of parts of a key and of levels of a value that is too large. -/
def nestingLimit : Nat := 80

/-- Reads at most some parts of a key with dots between them. -/
def keyParts : (parts : Nat) → Scan (List String)
  | 0 => failure
  | parts + 1 => do
    spaces
    let part ← keyPart
    spaces
    match ← optional (literal ".") with
    | some _ => return part :: (← keyParts parts)
    | none => return [part]

/-- Reads a key: the path to its table and its name there. -/
def key : Scan (List String × String) := do
  let parts ← keyParts (nestingLimit - 1)
  match parts.getLast? with
  | some name => return (parts.dropLast, name)
  | none => failure

/-! ### Values -/

/-- Skips a comment. -/
def comment : Scan Unit := do
  literal "#"
  let _ ← span isTextChar

/-- Skips white space, line breaks and comments. -/
def blankLines : (lines : Nat) → Scan Unit
  | 0 => spaces
  | lines + 1 => do
    spaces
    let ended : Scan Unit := do
      let _ ← optional comment
      newline
    match ← optional ended with
    | some _ => blankLines lines
    | none => return

/-- Skips white space, line breaks and comments. -/
def gap : Scan Unit := do blankLines (← get).length

mutual

/-- Reads a value; `depth` levels may be opened. -/
def value (fuel depth : Nat) : Scan Json :=
  match fuel with
  | 0 => failure
  | fuel + 1 => do
    match (← get).head?, depth with
    | some '[', depth + 1 =>
      literal "["
      gap
      return .arr (← items fuel depth)
    | some '\x7b', depth + 1 =>
      literal "\x7b"
      spaces
      return .obj (membersToJson (← pairs fuel depth []))
    | some _, _ => scalar
    | none, _ => failure

/-- Reads the rest of an array. -/
def items (fuel depth : Nat) : Scan (List Json) :=
  match fuel with
  | 0 => failure
  | fuel + 1 => do
    match ← optional (literal "]") with
    | some _ => return []
    | none =>
      let item ← value fuel depth
      gap
      match ← optional (literal ",") with
      | some _ =>
        gap
        return item :: (← items fuel depth)
      | none =>
        literal "]"
        return [item]

/-- Reads the rest of a table on one line, which has some members already. A comma is followed by
a member. -/
def pairs (fuel depth : Nat) (members : Members) : Scan Members :=
  match fuel with
  | 0 => failure
  | fuel + 1 => do
    let closed ← if members.isEmpty then optional (literal "\x7d") else pure none
    match closed with
    | some _ => return members
    | none =>
      let (path, name) ← key
      literal "="
      spaces
      let json ← value fuel depth
      spaces
      match members.write path name json with
      | none => failure
      | some members =>
        match ← optional (literal ",") with
        | some _ => pairs fuel depth members
        | none =>
          literal "\x7d"
          return members

end

/-! ### Lines -/

/-- A line that says something. -/
inductive Statement where
  | entry (path : List String) (name : String) (value : Json)
  | table (path : List String) (name : String)
  /-- One of several tables. -/
  | element (path : List String) (name : String)

/-- Skips the rest of a line. -/
def lineEnd : Scan Unit := do
  spaces
  let _ ← optional comment
  newline <|> atEnd

/-- Reads a heading. -/
def heading : Scan Statement := do
  literal "["
  match ← optional (literal "[") with
  | some _ =>
    let (path, name) ← key
    literal "]]"
    return .element path name
  | none =>
    let (path, name) ← key
    literal "]"
    return .table path name

/-- Reads a key and its value. -/
def entry : Scan Statement := do
  let (path, name) ← key
  literal "="
  spaces
  let json ← value (2 * (← get).length + 2) (nestingLimit - 1)
  return .entry path name json

/-- Reads at most some lines, up to the end of the file. -/
def statements : (lines : Nat) → Scan (List Statement)
  | 0 => failure
  | lines + 1 => do
    spaces
    match (← get).head? with
    | none => return []
    | some c =>
      let statement ←
        if ['#', '\n', '\r'].contains c then pure none
        else if c == '[' then pure (some (← heading))
        else pure (some (← entry))
      lineEnd
      return statement.toList ++ (← statements lines)

/-- The tables written so far, and the heading that was read last. -/
structure Draft where
  root : Members := []
  heading : Option (List String × String) := none

/-- The path of the table under the last heading. -/
def Draft.path (draft : Draft) : List String :=
  (draft.heading.map fun (path, name) => path ++ [name]).getD []

/-- Writes what a line says. -/
def Draft.write (draft : Draft) : Statement → Option Draft
  | .entry path name value => do
    let root ← Members.changeUnder (Members.write path name value) draft.path draft.root
    return { draft with root }
  | .table path name => do
    return ⟨← Members.openTable path name draft.root, some (path, name)⟩
  | .element path name => do
    return ⟨← Members.openElement path name draft.root, some (path, name)⟩

/-- A byte order mark, which may stand in front of a file. -/
def byteOrderMark : Char := '\ufeff'

/-- Reads a file. -/
def parse? (file : String) : Option Json := do
  let cs := file.toList
  let cs := if cs.head? == some byteOrderMark then cs.tail else cs
  let lines ← front? (statements (cs.length + 1)) cs
  let draft ← lines.foldlM Draft.write {}
  return .obj (membersToJson draft.root)

end Postmortem.Toml
