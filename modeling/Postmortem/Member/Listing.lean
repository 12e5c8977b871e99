import Postmortem.Member.Table
import Postmortem.Text.Field
import Postmortem.Text.Lines
import Postmortem.Text.Scan

/-!
# Member and type listings

The dump of a type's method table, and the answer to a search for a type name, which has one block
per module that was searched.
-/

namespace Postmortem

open Text Scan

namespace MemberTable

/-- The compile statuses in the column of a method row. -/
def statusColumns : List (List Char) :=
  ["PreJIT", "JIT", "NONE", "FCALL", "R2R"].map String.toList

/-- Reads a method row: entry point, descriptor, compile status and signature. -/
def member : Scan MemberInfo := do
  blanks
  let _entry ← columnThen (isHexColumn 8 16)
  let _descriptor ← columnThen (isHexColumn 8 16)
  let status ← columnThen statusColumns.contains
  let signature := String.ofList (← lastColumn)
  return { name := memberName signature, signature, compileStatus := .parse (.ofList status) }

/-- Reads one line. -/
def readLine (table : MemberTable) (line : List Char) : MemberTable :=
  match front? member line with
  | some m => { table with members := table.members ++ [m] }
  | none =>
    match labelled? line with
    | some ("Name", value) => { table with typeName := value? value }
    | _ => table

/-- Whether a text is the dump of a method table. -/
def isDump (text : String) : Bool :=
  mentions text "MethodDesc Table" || (mentions text "MethodDesc" && mentions text "JIT")

/-- The members in a dump, which names the type or has members. -/
def ofListing? (text : String) : Option MemberTable :=
  if isDump text then
    let table := (lines text.toList).foldl readLine {}
    if table.typeName.isSome || !table.members.isEmpty then some table else none
  else none

end MemberTable

namespace TypeLookup

/-- Stores a field of a block. -/
def store (lookup : TypeLookup) (label : String) (value : List Char) : TypeLookup :=
  match label with
  | "Assembly" => { lookup with assembly := value? value }
  | "MethodTable" => { lookup with methodTable := Address.read? value }
  | "EEClass" => { lookup with eeClass := Address.read? value }
  | "Name" => { lookup with name := value? value }
  | _ => lookup

/-- Reads blocks up to the end of the first that has a method table. -/
def readBlocks (lookup : TypeLookup) : List (List Char) → TypeLookup
  | [] => lookup
  | line :: rest =>
    match labelled? line with
    | some ("Module", _) => if lookup.methodTable.isNone then readBlocks {} rest else lookup
    | some (label, value) => readBlocks (lookup.store label value) rest
    | none => readBlocks lookup rest

/-- Whether a text is the answer to a search for a type. -/
def isAnswer (text : String) : Bool := mentions text "MethodTable:" || mentions text "Assembly:"

/-- The type that was found. -/
def ofListing? (text : String) : Option TypeLookup :=
  if isAnswer text then
    let lookup := readBlocks {} (lines text.toList)
    if lookup.methodTable.isSome then some lookup else none
  else none

end TypeLookup

end Postmortem
