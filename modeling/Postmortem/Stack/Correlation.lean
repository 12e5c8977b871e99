import Postmortem.Stack.Merge
import Postmortem.Stack.Section

/-!
# Stacks of a process

Every stack that was listed is attached to a thread. A native stack replaces the frames of its
thread, and a runtime stack is merged into them; a stack whose thread is not listed makes a thread
of its own, and so does a second runtime stack of one thread.
-/

namespace Postmortem

/-- Whether a stack with these ids is a thread's. OS ids are compared where both sides have one,
since each debugger numbers threads in its own way. -/
def Thread.owns (thread : Thread) (id os : Option ThreadId) : Bool :=
  match thread.osThreadId, os with
  | some a, some b => a.isSame b
  | _, _ => id.any fun id => thread.id.isSame id

/-- The thread of a stack that no listed thread owns. -/
def Thread.ofStack (stack : ThreadStack) : Thread :=
  { id := ((stack.threadId <|> stack.osThreadId).getD .empty)
    osThreadId := stack.osThreadId
    state := "unknown" }

/-- Attaches a native stack to its thread. -/
def attachNative (threads : List Thread) (stack : ThreadStack) : List Thread :=
  match threads.findIdx? fun t => t.owns stack.threadId stack.osThreadId with
  | some i =>
    threads.modify i fun t =>
      { t with osThreadId := t.osThreadId <|> stack.osThreadId, callStack := stack.frames }
  | none => threads ++ [{ Thread.ofStack stack with callStack := stack.frames }]

/-- A thread with the runtime frames that were found for it. -/
structure RuntimeSlot where
  thread : Thread
  runtime : Option (List Frame) := none

/-- Whether a runtime stack is a thread's: by its OS id if it has one. -/
def Thread.ownsRuntime (thread : Thread) (stack : ThreadStack) : Bool :=
  match stack.osThreadId with
  | some os => thread.hasId os
  | none => thread.owns stack.threadId none

/-- Assigns a runtime stack to its thread, or keeps it aside. -/
def assignRuntime (state : List RuntimeSlot × List ThreadStack) (stack : ThreadStack) :
    List RuntimeSlot × List ThreadStack :=
  let (slots, aside) := state
  match slots.findIdx? fun slot => slot.thread.ownsRuntime stack with
  | some i =>
    if (slots[i]?.bind RuntimeSlot.runtime).isNone then
      (slots.modify i fun slot => { slot with runtime := some stack.frames }, aside)
    else (slots, aside ++ [stack])
  | none => (slots, aside ++ [stack])

/-- The threads of a process with all their frames. -/
def correlate (layout : StackLayout) (threads : List Thread)
    (native runtime : List ThreadStack) : List Thread :=
  let attached := native.foldl attachNative threads
  let (slots, aside) := runtime.foldl assignRuntime (attached.map fun t => { thread := t }, [])
  let merged := slots.map fun slot =>
    { slot.thread with
      callStack := (layout.merge slot.thread.callStack (slot.runtime.getD [])).frames }
  let runtimeOnly := aside.map fun stack =>
    { Thread.ofStack stack with callStack := (layout.merge [] stack.frames).frames }
  merged ++ runtimeOnly

end Postmortem
