import Postmortem.Analysis.Report
import Postmortem.Text.ReportLine

/-!
# Texts of reports

The report on a crash for people. Each finding has a section, and a missing one has none.
-/

namespace Postmortem

/-- A section: an empty line, its title and its lines. -/
def titled (title : String) (lines : List String) : List String :=
  ["", s!"--- {title} ---"] ++ lines

namespace ExceptionNode

/-- The lines about an exception, indented by its depth. -/
def lines (node : ExceptionNode) : List String :=
  let indent := String.join (List.replicate node.depth "  ")
  if node.isCycle then [s!"{indent}↺ cycle back to an earlier exception"]
  else
    let detail (label value : String) : String := s!"{indent}  {label}: {value}"
    let typeName := node.typeName.getD "<unknown type>"
    [s!"{indent}{typeName} [{node.category}]"] ++
    (node.message.map (detail "Message")).toList ++
    (node.hresult.map (detail "HResult")).toList ++
    node.customFields.entries.map fun (name, value) => detail name value

end ExceptionNode

namespace TypeResolution

/-- The lines about a missing type or member. -/
def lines (resolution : TypeResolution) : List String :=
  let member := (resolution.expectedMember.map ("  Member: " ++ ·)).getD ""
  [s!"Type: {resolution.failedType}{member}"] ++
  (resolution.resolvedVia.map ("Resolved via instantiation: " ++ ·)).toList ++
  [s!"Diagnosis: {resolution.diagnosisText}"] ++
  (if resolution.similarMatches.isEmpty then [] else
    ["Similar members: " ++ ", ".intercalate resolution.similarMatches])

end TypeResolution

/-- The lines about a suspicion of trimming. -/
def TrimmingAnalysis.lines (trimming : TrimmingAnalysis) : List String :=
  let verdict := if trimming.likelyTrimmed then "likely" else "unlikely"
  [s!"Trimming {verdict} (confidence {trimming.confidence.label}, score {trimming.score})"] ++
  trimming.recommendations.map ("  - " ++ ·)

/-- The lines about a deployment. -/
def AotClassification.lines (aot : AotClassification) : List String :=
  let verdict := if aot.isAot then "yes" else "no"
  [s!"Ahead-of-time compiled: {verdict}"] ++
  (if aot.hasOnDemandCompiler then ["On-demand compiler loaded"] else []) ++
  (aot.indicators.map fun i => s!"  indicator {i.pattern} matched {i.matched}") ++
  (aot.trimming.map TrimmingAnalysis.lines).getD []

/-- The line about a contended lock. -/
def ContendedLock.line (lock : ContendedLock) : String :=
  let owner := (lock.owner.map ThreadId.raw).getD "-"
  s!"  lock {lock.lockId} owner {owner} waiters {lock.waiters}"

/-- The lines about locks. -/
def DeadlockAnalysis.lines (deadlock : DeadlockAnalysis) : List String :=
  (match deadlock.verdict with
    | .deadlock => [findingMark ++ "POSSIBLE DEADLOCK"]
    | .advisory => [warningMark ++ "LOCK ADVISORY"]
    | .none => []) ++
  [deadlock.description] ++ deadlock.contendedLocks.map ContendedLock.line

/-- The line about a row of a heap. -/
def HeapEntry.line (entry : HeapEntry) : String :=
  s!"  {padRight 50 entry.typeName} {padLeft 10 (toString entry.count)} " ++
    padLeft 14 (toString entry.totalSize)

namespace HeapHistogram

/-- How many rows a report shows. -/
def shownRows : Nat := 5

/-- The rows, those with the most bytes first. -/
def largestFirst (heap : HeapHistogram) : List HeapEntry :=
  heap.entries.mergeSort fun a b => b.totalSize ≤ a.totalSize

/-- The lines about a heap. -/
def lines (heap : HeapHistogram) : List String :=
  s!"{heap.totalCount} objects, {heap.totalSize} bytes" ::
    (heap.largestFirst.take shownRows).map HeapEntry.line

end HeapHistogram

/-- The line about a frame. -/
def Frame.line (frame : Frame) : String :=
  let mark := if frame.isRuntimeTracked then "*" else " "
  let source := (frame.source.map fun s => s!" at {s}").getD ""
  s!"{mark}{padLeft 3 (toString frame.index)} {frame.displayName}{source}"

namespace Thread

/-- How many frames a report shows. -/
def shownFrames : Nat := 12

/-- The lines about a call stack. -/
def stackLines (thread : Thread) : List String :=
  (thread.callStack.take shownFrames).map Frame.line ++
  (if shownFrames < thread.callStack.length then
    [s!"  ... {thread.callStack.length - shownFrames} more frames"]
  else [])

/-- The section about a thread. -/
def stackSection (thread : Thread) : List String :=
  let mark := if thread.isFaulting then " (faulting)" else ""
  titled s!"Thread {thread.id}{mark}" thread.stackLines

end Thread

namespace AnalysisReport

/-- The thread whose stack is shown: the one that crashed, or else the first one. -/
def shownThread? (report : AnalysisReport) : Option Thread :=
  report.faulting? <|> report.threads.head?

/-- A section about a finding, if there is one. -/
def findingSection {α : Type} (title : String) (lines : α → List String) (finding : Option α) :
    List String :=
  (finding.map fun a => titled title (lines a)).getD []

/-- The lines of a report on an analysis that came to its end. -/
def lines (report : AnalysisReport) : List String :=
  ["=== Crash Analysis ===", "",
    s!"Threads: {report.threads.length}  Modules: {report.modules.length}  " ++
      s!"Commands run: {report.commandsRun}"] ++
  report.warnings.map (warningMark ++ ·) ++
  findingSection "Exception" (fun chain => chain.nodes.flatMap ExceptionNode.lines)
    report.exception ++
  findingSection "Type Resolution" TypeResolution.lines report.typeResolution ++
  findingSection "Deployment" AotClassification.lines report.aot ++
  findingSection "Locks" DeadlockAnalysis.lines report.deadlock ++
  findingSection "Heap" HeapHistogram.lines report.heap ++
  (report.shownThread?.map Thread.stackSection).getD []

/-- The report as a text. -/
def text (report : AnalysisReport) : String :=
  match report.status with
  | .complete => linesText report.lines
  | .failed =>
    linesText [findingMark ++ "ANALYSIS FAILED", "",
      "Error: " ++ report.error.getD "unknown error"]

end AnalysisReport

end Postmortem
