import Postmortem.Json.Fields
import Postmortem.Stack.Section
import Postmortem.Thread.State

/-!
# Threads and stacks as JSON

An address is written as its text and read from a text of any form or from a number.
-/

namespace Postmortem

open Json

namespace Address

def toJson (a : Address) : Json := .str a.text

def ofJson? : Json → Option Address
  | .str s => parse? s
  | json => (nat? 64 json).bind ofNat?

end Address

namespace SourceLocation

def toJson (source : SourceLocation) : Json :=
  .obj [("file", .str source.file), ("line", option nat source.line)]

def ofJson? (json : Json) : Option SourceLocation := do
  let fields ← fields? ["file", "line"] json
  return { file := ← fields.required "file" str?, line := ← fields.optional "line" (nat? 32) }

end SourceLocation

namespace Variable

def toJson (v : Variable) : Json :=
  .obj ([("name", .str v.name)] ++ optionalMember "location" .str v.location ++
    optionalMember "value" .str v.value)

def ofJson? (json : Json) : Option Variable := do
  let fields ← fields? ["name", "location", "value"] json
  return { name := ← fields.required "name" str?
           location := ← fields.optional "location" str?
           value := ← fields.optional "value" str? }

end Variable

/-- The name of a field of frames. -/
def FrameField.name : FrameField → String
  | .function => "function"
  | .moduleName => "module"
  | .source => "source"

namespace Frame

def toJson (frame : Frame) : Json :=
  .obj ([("index", nat frame.index),
    ("instruction_pointer", option Address.toJson frame.instructionPointer),
    ("stack_pointer", option Address.toJson frame.stackPointer),
    ("module", option .str frame.moduleName),
    ("function", option .str frame.function),
    ("source", option SourceLocation.toJson frame.source),
    ("is_runtime_tracked", .bool frame.isRuntimeTracked)] ++
    nonEmptyMapMember "registers" .str frame.registers ++
    nonEmptyMember "parameters" Variable.toJson frame.parameters ++
    nonEmptyMember "locals" Variable.toJson frame.locals)

def ofJson? (json : Json) : Option Frame := do
  let fields ← fields? ["index", "instruction_pointer", "stack_pointer", "module", "function",
    "source", "is_runtime_tracked", "registers", "parameters", "locals"] json
  return { index := ← fields.required "index" (nat? 64)
           instructionPointer := ← fields.optional "instruction_pointer" Address.ofJson?
           stackPointer := ← fields.optional "stack_pointer" Address.ofJson?
           moduleName := ← fields.optional "module" str?
           function := ← fields.optional "function" str?
           source := ← fields.optional "source" SourceLocation.ofJson?
           isRuntimeTracked := ← fields.required "is_runtime_tracked" bool?
           registers := ← fields.withDefault "registers" ⟨[]⟩ (map? str?)
           parameters := ← fields.withDefault "parameters" [] (list? Variable.ofJson?)
           locals := ← fields.withDefault "locals" [] (list? Variable.ofJson?) }

end Frame

namespace ThreadId

def toJson (id : ThreadId) : Json :=
  .obj ([("raw", .str id.raw)] ++ optionalMember "hex" nat id.hex ++
    optionalMember "decimal" nat id.decimal)

def ofJson? (json : Json) : Option ThreadId := do
  let fields ← fields? ["raw", "hex", "decimal"] json
  return { raw := ← fields.required "raw" str?
           hex := ← fields.optional "hex" (nat? 64)
           decimal := ← fields.optional "decimal" (nat? 64) }

end ThreadId

namespace Thread

def toJson (thread : Thread) : Json :=
  .obj ([("id", thread.id.toJson), ("os_thread_id", option ThreadId.toJson thread.osThreadId)] ++
    optionalMember "managed_id" nat thread.managedId ++
    optionalMember "name" .str thread.name ++
    [("state", .str thread.state), ("is_faulting", .bool thread.isFaulting),
      ("call_stack", list Frame.toJson thread.callStack),
      ("is_thread_pool", .bool thread.isThreadPool), ("lock_count", nat thread.lockCount)] ++
    optionalMember "exception" .str thread.exception)

def ofJson? (json : Json) : Option Thread := do
  let fields ← fields? ["id", "os_thread_id", "managed_id", "name", "state", "is_faulting",
    "call_stack", "is_thread_pool", "lock_count", "exception"] json
  return { id := ← fields.required "id" ThreadId.ofJson?
           osThreadId := ← fields.optional "os_thread_id" ThreadId.ofJson?
           managedId := ← fields.optional "managed_id" (nat? 32)
           name := ← fields.optional "name" str?
           state := ← fields.required "state" str?
           isFaulting := ← fields.required "is_faulting" bool?
           callStack := ← fields.required "call_stack" (list? Frame.ofJson?)
           isThreadPool := ← fields.required "is_thread_pool" bool?
           lockCount := ← fields.required "lock_count" (nat? 32)
           exception := ← fields.optional "exception" str? }

end Thread

namespace ThreadState

def toJson (state : ThreadState) : Json :=
  .obj [("thread", state.thread.toJson), ("waiting", .bool state.waiting),
    ("description", .str state.description)]

def ofJson? (json : Json) : Option ThreadState := do
  let fields ← fields? ["thread", "waiting", "description"] json
  return { thread := ← fields.required "thread" ThreadId.ofJson?
           waiting := ← fields.required "waiting" bool?
           description := ← fields.required "description" str? }

end ThreadState

namespace ThreadStack

def toJson (stack : ThreadStack) : Json :=
  .obj [("thread_id", option ThreadId.toJson stack.threadId),
    ("os_thread_id", option ThreadId.toJson stack.osThreadId),
    ("frames", list Frame.toJson stack.frames)]

def ofJson? (json : Json) : Option ThreadStack := do
  let fields ← fields? ["thread_id", "os_thread_id", "frames"] json
  return { threadId := ← fields.optional "thread_id" ThreadId.ofJson?
           osThreadId := ← fields.optional "os_thread_id" ThreadId.ofJson?
           frames := ← fields.required "frames" (list? Frame.ofJson?) }

end ThreadStack

end Postmortem
