import Postmortem.Stack.CallSite
import Postmortem.Stack.Section
import Postmortem.Text.Lines
import Postmortem.Text.WordChar

/-!
# Walks of managed frames

The runtime-aware walker prints a row per managed frame and below it, indented, registers and the
blocks of parameters and locals. A detail line belongs to the frame row before it. Rows without a
method, such as transitions between managed and native code, are no frames.
-/

namespace Postmortem.ManagedWalk

open Text Scan

/-- Reads a heading, which may stand anywhere in its line: OS id and thread number. -/
def heading : Scan (List Char × Option (List Char)) := do
  literal "OS Thread Id:"
  blanks
  let os ← hexNumeral <|> span1 isDecimalDigit
  let number ← optional do
    blanks
    literal "("
    let digits ← span1 isDecimalDigit
    literal ")"
    return digits
  return (os, number)

/-- The call site behind a transition mark such as `[InlinedCallFrame: 0000001a7fe7a0]`. A
transition without a method has none. -/
def methodSite? (site : List Char) : Option (List Char) :=
  match site with
  | '[' :: _ =>
    match cutAt? [']'] site with
    | some (_, behind) =>
      let method := trim behind
      if method.isEmpty then none else some method
    | none => none
  | _ => some site

/-- A call site without its source location in brackets at the end. -/
def splitSource (site : List Char) : List Char × Option SourceLocation :=
  match cutAtLast? " [".toList site with
  | some (front, location) =>
    if [']'].isSuffixOf site then (front, SourceLocation.read? ('[' :: location))
    else (site, none)
  | none => (site, none)

/-- Reads a frame row. -/
def frame? (line : List Char) : Option Frame := do
  let (sp, ip, text) ← pointerRow? line
  let site ← methodSite? text
  let (site, source) := splitSource site
  let (moduleName, function) := splitCallSite site
  return { stackPointer := Address.read? sp
           instructionPointer := ip.bind Address.read?
           moduleName, function, source
           isRuntimeTracked := true }

/-- Reads a register, at the start of a word: a short name, an equals sign and four to sixteen
digits up to the end of the word. -/
def register (previous : Option Char) : Scan (String × String) := do
  guard (startsWord previous)
  let name ← span1 fun c => c.isLower || c.isDigit
  guard (name.head?.any Char.isLower && 2 ≤ name.length && name.length ≤ 6)
  literal "="
  let value ← span1 isHexDigit
  guard (4 ≤ value.length && value.length ≤ 16)
  let following ← get
  guard (startsWord following.head?)
  return (.ofList name, .ofList value)

/-- Reads a variable from a trimmed line: `name (location) = value`, with or without the
location. -/
def readVariable? (line : List Char) : Option Variable := do
  let (front, behind) := line.span fun c => !(['=', '(', ')'].contains c)
  guard (!front.isEmpty)
  let name := String.ofList (trim front)
  match behind with
  | '=' :: text => return { name, location := none, value := value? (← some? text) }
  | '(' :: text =>
    let (location, rest) ← cutAt? [')'] text
    match trimStart rest with
    | '=' :: text => return { name, location := value? location, value := value? (← some? text) }
    | _ => none
  | _ => none
where
  /-- The text, unless nothing is left of it. -/
  some? (text : List Char) : Option (List Char) := if text.isEmpty then none else some text

/-- The block of variables that is being read. -/
inductive Block where
  | none
  | parameters
  | locals
deriving DecidableEq, Inhabited

/-- Adds a variable to a frame. -/
def Block.store (block : Block) (v : Variable) (frame : Frame) : Frame :=
  match block with
  | .parameters => { frame with parameters := frame.parameters ++ [v] }
  | .locals => { frame with locals := frame.locals ++ [v] }
  | .none => frame

/-- The sections read so far, and the block that is being read. -/
structure State where
  sections : Sections := {}
  block : Block := .none

/-- Reads a detail line of the last frame: registers or a variable. -/
def readDetail (s : State) (line : List Char) : State :=
  let registers := (sweep register none line).1
  if !registers.isEmpty && !occursIn " = ".toList line then
    { s with sections := s.sections.modifyLast fun frame =>
        { frame with registers := frame.registers.insertAll registers } }
  else if line == "<no data>".toList then s
  else
    match readVariable? line with
    | some v => { s with sections := s.sections.modifyLast (s.block.store v) }
    | none => s

/-- Whether a line is a column heading or a failure of the walk. -/
def isRemark (line : List Char) : Bool :=
  "Child SP".toList.isPrefixOf line || "Failed to start".toList.isPrefixOf line

/-- Reads one line. Frame rows start in the first column; inside a block, an indented line is a
detail even if it looks like a frame row. -/
def readLine (s : State) (line : List Char) : State :=
  let trimmed := trim line
  match first? heading line with
  | some (os, number) =>
    { sections := s.sections.start (number.map fun n => .parse (.ofList n))
        (some (.parse (.ofList os))) }
  | none =>
    if trimmed == "PARAMETERS:".toList then { s with block := .parameters }
    else if trimmed == "LOCALS:".toList then { s with block := .locals }
    else if trimmed.isEmpty || isRemark trimmed then s
    else
      let indented := line.head?.any fun c => c == ' ' || c == '\t'
      let frame := if !indented || s.block == .none then frame? line else none
      match frame with
      | some frame => { sections := s.sections.addFrame frame }
      | none => if indented then readDetail s trimmed else { s with block := .none }

/-- Whether a text is such a walk. -/
def isWalk (text : String) : Bool := mentions text "OS Thread Id:" || mentions text "Child SP"

/-- The sections of a text. -/
def sections (text : String) : List ThreadStack :=
  ((lines text.toList).foldl readLine {}).sections.close.map fun stack =>
    { stack with frames := renumber stack.frames }

end Postmortem.ManagedWalk
