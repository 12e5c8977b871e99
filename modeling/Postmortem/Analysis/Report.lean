import Postmortem.Deadlock
import Postmortem.Deployment.Classification
import Postmortem.Exception.Chain
import Postmortem.Heap.Histogram
import Postmortem.Member.Resolution
import Postmortem.Session.Channel

/-!
# Reports of analyses

Everything that one analysis finds out. What could not be found out is left empty, and what went
wrong with the debugger is part of the report.
-/

namespace Postmortem

/-- Whether an analysis came to its end. -/
inductive AnalysisStatus where
  | complete
  /-- The analysis failed as a whole. -/
  | failed
deriving DecidableEq, Repr, Inhabited

/-- The findings of an analysis. -/
structure AnalysisReport where
  status : AnalysisStatus := .complete
  /-- Why the analysis failed. -/
  error : Option String := none
  threads : List Thread := []
  /-- The id of the thread that crashed. -/
  faultingThread : Option String := none
  modules : List LoadedModule := []
  exception : Option ExceptionChain := none
  typeResolution : Option TypeResolution := none
  aot : Option AotClassification := none
  heap : Option HeapHistogram := none
  locks : Option LockTable := none
  deadlock : Option DeadlockAnalysis := none
  crashLog : List CrashRecord := []
  unavailable : List UnavailableData := []
  stagesRun : List String := []
  commandsRun : Nat := 0
deriving DecidableEq, Repr, Inhabited

namespace AnalysisReport

/-- The report of an analysis that failed as a whole. -/
def failure (error : String) : AnalysisReport := { status := .failed, error := some error }

/-- Whether the analysis came to its end. -/
def isComplete (report : AnalysisReport) : Bool := report.status == .complete

/-- The thread that crashed. -/
def faulting? (report : AnalysisReport) : Option Thread := report.threads.find? Thread.isFaulting

/-- What the findings may suffer from. -/
def warnings (report : AnalysisReport) : List String :=
  (if report.crashLog.isEmpty then [] else
    [s!"{report.crashLog.length} debugger command(s) crashed or timed out: " ++
      ", ".intercalate (report.crashLog.map CrashRecord.command)]) ++
  (if report.threads.isEmpty && report.isComplete then ["no threads could be decoded"] else [])

end AnalysisReport

end Postmortem
