import Postmortem.Stack.CallSite
import Postmortem.Stack.Section
import Postmortem.Text.Lines

/-!
# Stack tables with return addresses

Rows of number, stack pointer, return address and call site. The return address of a row is the
instruction pointer of the next row of its section.
-/

namespace Postmortem.ReturnTable

open Text Scan

/-- Whether a character belongs to an address that may be split by a backtick. -/
def isAddressChar (c : Char) : Bool := isHexDigit c || c == Address.backtick

/-- Whether the text is an address column. -/
def isAddressColumn (cs : List Char) : Bool :=
  cs.all isAddressChar && 8 ≤ cs.length && cs.length ≤ 17

/-- Whether the text is a row number. -/
def isRowNumber (cs : List Char) : Bool := cs.all isHexDigit && 2 ≤ cs.length

/-- Reads the call site. A row whose call site is blank still counts if two blanks stand there. -/
def callSite : Scan (List Char) := do
  let behind ← rest
  let site := trim behind
  guard (behind.head?.any isBlank && (!site.isEmpty || 2 ≤ behind.length))
  return site

/-- A row, as printed. -/
structure Row where
  number : List Char
  stackPointer : List Char
  returnAddress : List Char
  site : List Char

/-- Reads a row. -/
def row : Scan Row := do
  blanks
  let number ← columnThen isRowNumber
  let stackPointer ← columnThen isAddressColumn
  let returnAddress ← column
  guard (isAddressColumn returnAddress)
  return { number, stackPointer, returnAddress, site := ← callSite }

/-- The frame of a row, given the return address of the row before. -/
def Row.frame (row : Row) (previous : Option Address) : Frame :=
  let (site, source) := match cutAt? " [".toList row.site with
    | some (site, location) => (site, SourceLocation.read? ('[' :: location))
    | none => (row.site, none)
  let (moduleName, function) :=
    if (Address.read? site).isSome && !site.contains '!' then (none, none)
    else splitCallSite site
  { index := (readUnsigned? 16 64 row.number).getD 0
    instructionPointer := previous
    stackPointer := Address.read? row.stackPointer
    moduleName, function, source }

/-- Reads a heading: the thread's number and its OS id, which is hexadecimal. -/
def heading : Scan (List Char × List Char) := do
  blanks
  let _ ← optional (one fun c => c == '.' || c == '#')
  blanks
  let number ← span1 isDecimalDigit
  blanks1
  literal "Id:"
  blanks
  let _process ← span1 isHexDigit
  literal "."
  return (number, ← span1 isHexDigit)

/-- The sections read so far, and the return address of the last row. -/
structure State where
  sections : Sections := {}
  returnAddress : Option Address := none

/-- Reads one line. -/
def readLine (s : State) (line : List Char) : State :=
  match front? heading line with
  | some (number, os) =>
    { sections := s.sections.start (some (.parse (.ofList number)))
        (some (.parse ("0x" ++ .ofList os))) }
  | none =>
    match front? row line with
    | some row =>
      { sections := s.sections.addFrame (row.frame s.returnAddress)
        returnAddress := Address.read? row.returnAddress }
    | none => s

/-- Whether a text is such a table: it has the headings of its columns. -/
def isTable (text : String) : Bool :=
  mentions text "Child-SP" || (mentions text "Call Site" && mentions text "RetAddr")

/-- The sections of a text. -/
def sections (text : String) : List ThreadStack :=
  ((lines text.toList).foldl readLine {}).sections.close

end Postmortem.ReturnTable
