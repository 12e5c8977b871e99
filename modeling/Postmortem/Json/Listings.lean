import Postmortem.Exception.Record
import Postmortem.Heap.Histogram
import Postmortem.Json.Threads
import Postmortem.LoadedModule
import Postmortem.Lock.Table
import Postmortem.Member.Table

/-!
# Modules, heaps, locks, members and exceptions as JSON
-/

namespace Postmortem

open Json

namespace LoadedModule

def toJson (m : LoadedModule) : Json :=
  .obj ([("name", .str m.name)] ++ optionalMember "path" .str m.path ++
    [("base_address", option Address.toJson m.baseAddress)] ++
    optionalMember "end_address" Address.toJson m.endAddress ++
    optionalMember "version" .str m.version ++ optionalMember "uuid" .str m.uuid)

def ofJson? (json : Json) : Option LoadedModule := do
  let fields ← fields? ["name", "path", "base_address", "end_address", "version", "uuid"] json
  return { name := ← fields.required "name" str?
           path := ← fields.optional "path" str?
           baseAddress := ← fields.optional "base_address" Address.ofJson?
           endAddress := ← fields.optional "end_address" Address.ofJson?
           version := ← fields.optional "version" str?
           uuid := ← fields.optional "uuid" str? }

end LoadedModule

namespace HeapEntry

def toJson (entry : HeapEntry) : Json :=
  .obj [("method_table", option Address.toJson entry.methodTable),
    ("type_name", .str entry.typeName), ("count", nat entry.count),
    ("total_size", nat entry.totalSize)]

def ofJson? (json : Json) : Option HeapEntry := do
  let fields ← fields? ["method_table", "type_name", "count", "total_size"] json
  return { methodTable := ← fields.optional "method_table" Address.ofJson?
           typeName := ← fields.required "type_name" str?
           count := ← fields.required "count" (nat? 64)
           totalSize := ← fields.required "total_size" (nat? 64) }

end HeapEntry

namespace HeapHistogram

def toJson (heap : HeapHistogram) : Json :=
  .obj ([("entries", list HeapEntry.toJson heap.entries)] ++
    optionalMember "total_objects" nat heap.totalObjects)

def ofJson? (json : Json) : Option HeapHistogram := do
  let fields ← fields? ["entries", "total_objects"] json
  return { entries := ← fields.required "entries" (list? HeapEntry.ofJson?)
           totalObjects := ← fields.optional "total_objects" (nat? 64) }

end HeapHistogram

namespace LockEntry

def toJson (lock : LockEntry) : Json :=
  .obj ([("lock_id", .str lock.lockId)] ++
    optionalMember "sync_block" Address.toJson lock.syncBlock ++
    [("monitor_held", nat lock.monitorHeld), ("recursion", nat lock.recursion),
      ("owner", option ThreadId.toJson lock.owner)] ++
    optionalMember "owner_index" nat lock.ownerIndex ++
    optionalMember "object" Address.toJson lock.object ++
    optionalMember "object_type" .str lock.objectType ++
    optionalMember "waiters" nat lock.waiters)

def ofJson? (json : Json) : Option LockEntry := do
  let fields ← fields? ["lock_id", "sync_block", "monitor_held", "recursion", "owner",
    "owner_index", "object", "object_type", "waiters"] json
  return { lockId := ← fields.required "lock_id" str?
           syncBlock := ← fields.optional "sync_block" Address.ofJson?
           monitorHeld := ← fields.required "monitor_held" (nat? 32)
           recursion := ← fields.required "recursion" (nat? 32)
           owner := ← fields.optional "owner" ThreadId.ofJson?
           ownerIndex := ← fields.optional "owner_index" (nat? 32)
           object := ← fields.optional "object" Address.ofJson?
           objectType := ← fields.optional "object_type" str?
           waiters := ← fields.optional "waiters" (nat? 32) }

end LockEntry

namespace LockTable

def toJson (locks : LockTable) : Json := .obj [("entries", list LockEntry.toJson locks.entries)]

def ofJson? (json : Json) : Option LockTable := do
  let fields ← fields? ["entries"] json
  return { entries := ← fields.required "entries" (list? LockEntry.ofJson?) }

end LockTable

namespace CompileStatus

/-- The name of a compile status in records. -/
def name : CompileStatus → String
  | .preJit => "pre_jit"
  | .jit => "jit"
  | .notCompiled => "not_compiled"
  | .fcall => "fcall"
  | .unknown => "unknown"

def toJson (status : CompileStatus) : Json := .str status.name

def ofJson? : Json → Option CompileStatus :=
  choice? ([preJit, jit, notCompiled, fcall, unknown].map fun status => (status.name, status))

end CompileStatus

namespace MemberInfo

def toJson (m : MemberInfo) : Json :=
  .obj [("name", .str m.name), ("signature", .str m.signature),
    ("compile_status", m.compileStatus.toJson)]

def ofJson? (json : Json) : Option MemberInfo := do
  let fields ← fields? ["name", "signature", "compile_status"] json
  return { name := ← fields.required "name" str?
           signature := ← fields.required "signature" str?
           compileStatus := ← fields.required "compile_status" CompileStatus.ofJson? }

end MemberInfo

namespace MemberTable

def toJson (table : MemberTable) : Json :=
  .obj [("type_name", option .str table.typeName),
    ("members", list MemberInfo.toJson table.members)]

def ofJson? (json : Json) : Option MemberTable := do
  let fields ← fields? ["type_name", "members"] json
  return { typeName := ← fields.optional "type_name" str?
           members := ← fields.required "members" (list? MemberInfo.ofJson?) }

end MemberTable

namespace TypeLookup

def toJson (lookup : TypeLookup) : Json :=
  .obj [("method_table", option Address.toJson lookup.methodTable),
    ("eeclass", option Address.toJson lookup.eeClass), ("name", option .str lookup.name),
    ("module", option .str lookup.assembly)]

def ofJson? (json : Json) : Option TypeLookup := do
  let fields ← fields? ["method_table", "eeclass", "name", "module"] json
  return { methodTable := ← fields.optional "method_table" Address.ofJson?
           eeClass := ← fields.optional "eeclass" Address.ofJson?
           name := ← fields.optional "name" str?
           assembly := ← fields.optional "module" str? }

end TypeLookup

namespace ExceptionRecord

def toJson (record : ExceptionRecord) : Json :=
  .obj [("address", option Address.toJson record.address),
    ("type_name", option .str record.typeName), ("message", option .str record.message),
    ("inner_type", option .str record.innerType),
    ("inner_address", option Address.toJson record.innerAddress),
    ("hresult", option .str record.hresult), ("stack_trace", strings record.stackTrace),
    ("stack_trace_string", option .str record.stackTraceString)]

end ExceptionRecord

end Postmortem
