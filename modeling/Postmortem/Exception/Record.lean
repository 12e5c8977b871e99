import Postmortem.Stack.CallSite
import Postmortem.Text.Lines

/-!
# Exception records

One exception as the runtime-aware debugger prints it: a line per property and a table of the
places that it passed through. The output for a chain has one section per exception, with a rule
between sections.
-/

namespace Postmortem

open Text

/-- A printed exception. -/
structure ExceptionRecord where
  address : Option Address := none
  typeName : Option String := none
  message : Option String := none
  innerType : Option String := none
  innerAddress : Option Address := none
  hresult : Option String := none
  stackTrace : List String := []
  stackTraceString : Option String := none
deriving DecidableEq, Repr, Inhabited

/-- The base of a number that has no prefix. -/
inductive BareBase where
  | ten
  | sixteen
deriving DecidableEq, Repr

/-- The printed form of a 32-bit result code. -/
def resultCodeText (code : Nat) : String := .ofList ('0' :: 'x' :: hexPadded 8 code)

/-- Reads a 32-bit result code. Behind a prefix the digits are hexadecimal, a negative number is
decimal and stands for its complement, and other digits are read in the given base. -/
def readResultCode? (base : BareBase) (cs : List Char) : Option Nat :=
  let cs := trim cs
  if Address.hasPrefix cs then readUnsigned? 16 32 (Address.body cs)
  else if cs.head? == some '-' || base = .ten then
    ((readInt64? cs).filter fun n => -2 ^ 31 ≤ n ∧ n < 2 ^ 32).map fun n => (n % 2 ^ 32).toNat
  else readUnsigned? 16 32 cs

/-- A result code in its printed form: a prefix and eight digits. -/
def formatResultCode? (base : BareBase) (cs : List Char) : Option String :=
  (readResultCode? base cs).map resultCodeText

namespace ExceptionRecord

open Scan

/-- Reads a command that prints another exception, and gives that exception's address. -/
def printCommand : Scan (List Char) := do
  literal "PrintException" <|> literal "pe"
  blanks1
  let _ ← optional do literal "-nested"; blanks1
  let _ ← optional (literal "0x")
  let digits := (← span1 isHexDigit).take 16
  guard (6 ≤ digits.length)
  return digits

/-- Reads what is said about an inner exception: its type and, behind a comma, the command that
prints it. -/
def readInner? (cs : List Char) : Option (String × Option Address) :=
  let typeName := cs.takeWhile fun c => c != ',' && !isBlank c
  if typeName.isEmpty then none
  else
    let digits := match cs.drop typeName.length with
      | ',' :: behind => first? printCommand behind
      | _ => none
    some (.ofList typeName, digits.bind Address.read?)

/-- Stores a property. -/
def store (record : ExceptionRecord) (label : String) (value : List Char) : ExceptionRecord :=
  match label with
  | "Exception object" => { record with address := Address.read? value }
  | "Exception type" => { record with typeName := value? value }
  | "Message" => { record with message := value? value }
  | "InnerException" =>
    match (value? value).bind fun v => readInner? v.toList with
    | some (innerType, innerAddress) => { record with innerType := some innerType, innerAddress }
    | none => record
  | "StackTraceString" => { record with stackTraceString := value? value }
  | "HResult" => { record with hresult := formatResultCode? .sixteen value }
  | _ => record

/-- The record read so far, and whether the lines are those of the stack trace. -/
structure State where
  record : ExceptionRecord := {}
  inTrace : Bool := false

/-- Reads a property line. -/
def readProperty (s : State) (line : List Char) : State :=
  match labelled? line with
  | some ("StackTrace (generated)", _) => { s with inTrace := true }
  | some (label, value) => { s with record := s.record.store label value }
  | none => s

/-- Reads one line. The stack trace ends at a blank line and at a line of another form. -/
def readLine (s : State) (line : List Char) : State :=
  let trimmed := trim line
  if trimmed.isEmpty then { s with inTrace := false }
  else if s.inTrace then
    if "SP ".toList.isPrefixOf trimmed || trimmed == "<none>".toList then s
    else
      match pointerRow? line with
      | some (_, _, site) =>
        { s with record := { s.record with stackTrace := s.record.stackTrace ++ [.ofList site] } }
      | none => readProperty { s with inTrace := false } trimmed
  else readProperty s trimmed

/-- Whether a text is a printed exception. -/
def isPrinted (text : String) : Bool :=
  mentions text "Exception type:" || mentions text "Exception object:"

/-- The exception in a text, which has a type or an address. -/
def ofListing? (text : String) : Option ExceptionRecord :=
  if isPrinted text then
    let record := ((lines text.toList).foldl readLine {}).record
    if record.typeName.isSome || record.address.isSome then some record else none
  else none

end ExceptionRecord

/-- Whether a line is the rule between two sections. -/
def isNestedRule (line : List Char) : Bool :=
  "Nested exception".toList.isPrefixOf (trimStart line)

/-- The sections read so far, and the text of the section being read. -/
structure NestedReader where
  sections : List String := []
  current : String := ""

namespace NestedReader

/-- Ends the section being read. It is left out if there is no text in it. -/
def close (s : NestedReader) : NestedReader where
  sections := if s.current.toList.all isBlank then s.sections else s.sections ++ [s.current]

/-- Reads one line. A rule ends the section being read and belongs to none. -/
def readLine (s : NestedReader) (line : List Char) : NestedReader :=
  if isNestedRule line then s.close
  else { s with current := s.current ++ .ofList line ++ "\n" }

end NestedReader

/-- The sections of the output for a chain, outermost exception first. Sections without text are
left out. -/
def nestedSections (text : String) : List String :=
  ((lines text.toList).foldl NestedReader.readLine {}).close.sections

end Postmortem
