import Postmortem.Text.Lines
import Postmortem.Text.Scan
import Postmortem.Thread
import Postmortem.Thread.State

/-!
# The native thread list

One line per thread that the operating system knows: number, id, innermost frame, name and the
reason why it stopped.
-/

namespace Postmortem.NativeList

open Text Scan

/-- A line of the list: the thread, and whether the debugger has it selected. -/
structure Entry where
  thread : Thread
  selected : Bool

/-- A labelled part of a line. -/
inductive Field where
  | osId (text : List Char)
  | name (text : List Char)
  | stopReason (text : List Char)

/-- Reads a labelled part. -/
def field : Scan Field :=
  (do literal "tid = "; return .osId (← hexNumeral <|> span1 isDecimalDigit)) <|>
  (do literal "name = '"; let name ← span (· != '\''); literal "'"; return .name name) <|>
  (do literal "stop reason = "; return .stopReason (← rest))

/-- Reads the innermost frame: address, module and function. -/
def topFrame : Scan Frame := do
  let ip ← hexNumeral
  literal " "
  let moduleName ← span1 fun c => c != Address.backtick && !isBlank c && c != ','
  let _ ← one (· == Address.backtick)
  let function ← span1 fun c => c != ',' && c != '+'
  return { instructionPointer := Address.read? ip
           moduleName := some (.ofList moduleName)
           function := some (.ofList (trim function)) }

/-- A stop reason that has one of these words means that the thread faulted. -/
def faultWords : List String :=
  ["exception", "exc_", "sigsegv", "sigabrt", "sigbus", "sigill", "sigfpe", "sigtrap"]

/-- Whether a stop reason is a fault. -/
def isFault (reason : List Char) : Bool :=
  faultWords.any fun word => occursIn word.toList (asciiLower reason)

/-- Stores a labelled part in a thread; of two parts with one label the later wins. -/
def store (thread : Thread) : Field → Thread
  | .osId text => { thread with osThreadId := some (.parse (.ofList text)) }
  | .name text => { thread with name := some (.ofList text) }
  | .stopReason text =>
    let reason := trim text
    { thread with state := .ofList reason, isFaulting := isFault reason }

/-- Reads the head of a line: the selection mark, the thread's number and the rest. -/
def heading : Scan (Bool × List Char × List Char) := do
  blanks
  let mark ← optional (literal "*")
  blanks
  literal "thread #"
  let number ← span1 isDecimalDigit
  let _ ← one fun c => c == ':' || c == ','
  blanks
  return (mark.isSome, number, ← rest)

/-- Reads a line of the list. -/
def entry? (line : List Char) : Option Entry := do
  let (selected, number, parts) ← front? heading line
  let thread : Thread :=
    { id := .parse (.ofList number)
      state := "stopped"
      callStack := (first? topFrame parts).toList }
  return { thread := (sweep (fun _ => field) none parts).1.foldl store thread, selected }

/-- Whether a text is such a list. -/
def isList (text : String) : Bool := mentions text "thread #"

/-- The entries of a text. -/
def entries (text : String) : List Entry := (lines text.toList).filterMap entry?

/-- The threads of the entries. If none has faulted, the selected thread is where the process
stopped. -/
def threads (entries : List Entry) : List Thread :=
  let anyFault := entries.any (·.thread.isFaulting)
  entries.map fun entry =>
    { entry.thread with
      isFaulting := entry.thread.isFaulting || (!anyFault && entry.selected) }

/-- The wait flag of an entry. What a faulting thread stopped for is no wait. -/
def Entry.threadState (entry : Entry) : ThreadState :=
  let thread := entry.thread
  let top := thread.topFunction
  { thread := thread.osThreadId.getD thread.id
    waiting := top.any mentionsWait || (!thread.isFaulting && mentionsWait thread.state)
    description := match top with
      | some function => s!"{thread.state} in {function}"
      | none => thread.state }

end Postmortem.NativeList
