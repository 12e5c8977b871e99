import Postmortem.Analysis.Run
import Postmortem.Json.Findings

/-!
# Reports as JSON
-/

namespace Postmortem

open Json

namespace CrashRecord

def toJson (crash : CrashRecord) : Json :=
  .obj [("command", .str crash.command), ("reason", .str crash.reason)]

def ofJson? (json : Json) : Option CrashRecord := do
  let fields ← fields? ["command", "reason"] json
  return { command := ← fields.required "command" str?
           reason := ← fields.required "reason" str? }

end CrashRecord

namespace UnavailableData

def toJson (data : UnavailableData) : Json :=
  .obj [("command", .str data.command), ("phrase", .str data.phrase)]

def ofJson? (json : Json) : Option UnavailableData := do
  let fields ← fields? ["command", "phrase"] json
  return { command := ← fields.required "command" str?
           phrase := ← fields.required "phrase" str? }

end UnavailableData

namespace AnalysisStatus

/-- The name of a status in records. -/
def name : AnalysisStatus → String
  | complete => "complete"
  | failed => "failed"

def toJson (status : AnalysisStatus) : Json := .str status.name

def ofJson? : Json → Option AnalysisStatus :=
  choice? ([complete, failed].map fun status => (status.name, status))

end AnalysisStatus

namespace ReportField

/-- The fields in the order of their declaration. -/
def all : List ReportField :=
  [threads, threadStates, callStacks, modules, exception, typeResolution, aot, heap, locks,
   deadlock]

/-- Reads the label of a field. -/
def ofJson? (json : Json) : Option ReportField := do
  let s ← str? json
  all.find? fun field => field.label == s

end ReportField

/-- Reads what a stage needs and adds. -/
def StageContract.ofJson? (json : Json) : Option StageContract := do
  let fields ← fields? ["name", "requires", "produces"] json
  return { name := ← fields.required "name" str?
           requires := ← fields.required "requires" (list? ReportField.ofJson?)
           produces := ← fields.required "produces" (list? ReportField.ofJson?) }

namespace AnalysisReport

def toJson (report : AnalysisReport) : Json :=
  .obj ([("status", report.status.toJson)] ++ optionalMember "error" .str report.error ++
    [("threads", list Thread.toJson report.threads)] ++
    optionalMember "faulting_thread" .str report.faultingThread ++
    [("modules", list LoadedModule.toJson report.modules)] ++
    optionalMember "exception" ExceptionChain.toJson report.exception ++
    optionalMember "type_resolution" TypeResolution.toJson report.typeResolution ++
    optionalMember "aot" AotClassification.toJson report.aot ++
    optionalMember "heap" HeapHistogram.toJson report.heap ++
    optionalMember "locks" LockTable.toJson report.locks ++
    optionalMember "deadlock" DeadlockAnalysis.toJson report.deadlock ++
    [("crash_log", list CrashRecord.toJson report.crashLog),
      ("unavailable", list UnavailableData.toJson report.unavailable),
      ("stages_run", strings report.stagesRun), ("commands_run", nat report.commandsRun)])

def ofJson? (json : Json) : Option AnalysisReport := do
  let fields ← fields? ["status", "error", "threads", "faulting_thread", "modules", "exception",
    "type_resolution", "aot", "heap", "locks", "deadlock", "crash_log", "unavailable",
    "stages_run", "commands_run"] json
  return { status := ← fields.required "status" AnalysisStatus.ofJson?
           error := ← fields.optional "error" str?
           threads := ← fields.required "threads" (list? Thread.ofJson?)
           faultingThread := ← fields.optional "faulting_thread" str?
           modules := ← fields.required "modules" (list? LoadedModule.ofJson?)
           exception := ← fields.optional "exception" ExceptionChain.ofJson?
           typeResolution := ← fields.optional "type_resolution" TypeResolution.ofJson?
           aot := ← fields.optional "aot" AotClassification.ofJson?
           heap := ← fields.optional "heap" HeapHistogram.ofJson?
           locks := ← fields.optional "locks" LockTable.ofJson?
           deadlock := ← fields.optional "deadlock" DeadlockAnalysis.ofJson?
           crashLog := ← fields.required "crash_log" (list? CrashRecord.ofJson?)
           unavailable := ← fields.required "unavailable" (list? UnavailableData.ofJson?)
           stagesRun := ← fields.required "stages_run" (list? str?)
           commandsRun := ← fields.required "commands_run" (nat? 64) }

end AnalysisReport

end Postmortem
