import Postmortem.Stack.CallSite
import Postmortem.Stack.Section
import Postmortem.Text.Lines
import Postmortem.Text.WordChar

/-!
# Backtraces of the native unwinder

Lines such as ``frame #1: 0x00007ff8 libc.so.6`raise + 20 at raise.c:51, sp=0x7ffe0010`` behind
headings such as `* thread #1, tid = 0x2a3c`.
-/

namespace Postmortem.Backtrace

open Text Scan

/-- Reads a frame line: its number, its instruction pointer and the rest. -/
def frameLine : Scan (List Char × List Char × List Char) := do
  blanks
  let _ ← optional (literal "*")
  blanks
  literal "frame #"
  let number ← span1 isDecimalDigit
  literal ":"
  blanks
  let ip ← hexNumeral
  return (number, ip, ← rest)

/-- Reads a stack pointer, at the start of a word. -/
def stackPointer (previous : Option Char) : Scan (List Char) := do
  guard (startsWord previous)
  literal "sp"
  blanks
  literal "="
  blanks
  hexNumeral

/-- Reads a frame. The stack pointer may stand anywhere in the rest of the line. -/
def frame? (line : List Char) : Option Frame := do
  let (number, ip, remainder) ← front? frameLine line
  let (pointers, kept) := sweep stackPointer none (trim remainder)
  let text := trim (trimWhere (· == ',') (trim kept))
  let (site, source) := match cutAtLast? " at ".toList text with
    | some (site, location) => (site, SourceLocation.read? location)
    | none => (text, none)
  let (moduleName, function) := match cutAt? [Address.backtick] site with
    | some (m, f) => (value? m, value? (dropDisplacement f))
    | none => (none, value? (dropDisplacement site))
  return { index := (readUnsigned? 10 64 number).getD 0
           instructionPointer := Address.read? ip
           stackPointer := pointers.head?.bind Address.read?
           moduleName, function, source }

/-- Reads the OS id behind a thread's number. -/
def osId : Scan (List Char) := do
  literal "tid = "
  hexNumeral <|> span1 isDecimalDigit

/-- Reads a heading: the thread's number and, behind a colon or comma, its OS id. -/
def heading : Scan (List Char × Option (List Char)) := do
  blanks
  let _ ← optional (literal "*")
  blanks
  literal "thread #"
  let number ← span1 isDecimalDigit
  match ← rest with
  | c :: cs => return (number, if c == ':' || c == ',' then first? osId cs else none)
  | [] => return (number, none)

/-- Reads one line. -/
def readLine (s : Sections) (line : List Char) : Sections :=
  match frame? line with
  | some frame => s.addFrame frame
  | none =>
    match front? heading line with
    | some (number, os) =>
      s.start (some (.parse (.ofList number))) (os.map fun id => .parse (.ofList id))
    | none => s

/-- Whether a text is a backtrace. -/
def isBacktrace (text : String) : Bool := mentions text "frame #"

/-- The sections of a text. -/
def sections (text : String) : List ThreadStack :=
  ((lines text.toList).foldl readLine {}).close

end Postmortem.Backtrace
