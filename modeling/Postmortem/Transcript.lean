import Postmortem.Object.Tree
import Postmortem.Session.Backend
import Postmortem.SortedMap

/-!
# Recorded sessions

A transcript holds what a debugger answered in a real session: the outputs of commands, the
commands that crashed or hung, and the objects that were inspected. It serves as the backend of an
analysis, and a command is known however it is spaced and marked.
-/

namespace Postmortem

open Text

/-- A recorded session. -/
structure Transcript where
  commands : SortedMap String := ⟨[]⟩
  crashes : List String := []
  timeouts : List String := []
  /-- Objects by their addresses, in any spelling. -/
  objects : SortedMap ObjectTree := ⟨[]⟩
deriving Repr, Inhabited

/-- A command without the marks in front and with single spaces. -/
def commandKey (command : String) : String :=
  .ofList (squeeze ((trim command.toList).dropWhile (· == '!')))

namespace Transcript

/-- What the transcript says about a command. Of several spellings of one command, the last one
counts. -/
def reply (t : Transcript) (command : String) : Reply :=
  let key := commandKey command
  if t.crashes.any fun c => commandKey c == key then .error (.crashed "recorded crash")
  else if t.timeouts.any fun c => commandKey c == key then .error .timedOut
  else
    match t.commands.entries.reverse.find? fun entry => commandKey entry.1 == key with
    | some (_, output) => .output output
    | none => .error .notRecorded

/-- The transcript as a backend. -/
def backend (t : Transcript) : Backend := ⟨t.reply⟩

/-- The object at an address. Of several spellings of one address, the last one counts. -/
def object? (t : Transcript) (address : Address) : Option ObjectTree :=
  (t.objects.entries.reverse.find? fun entry => Address.parse? entry.1 == some address).map
    Prod.snd

/-- The transcript's objects for inspection. -/
def introspector (t : Transcript) : Introspector where
  inspect _ address limits :=
    match t.object? address with
    | some tree => .ok (tree.limit limits)
    | none => .error (.notInspectable address)

end Transcript

end Postmortem
