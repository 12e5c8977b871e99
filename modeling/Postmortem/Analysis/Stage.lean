import Postmortem.Analysis.Report
import Postmortem.LoadedModule.Listing
import Postmortem.Lock.Listing
import Postmortem.Session.Catalog
import Postmortem.Session.Channel
import Postmortem.Session.Commands
import Postmortem.Stack.Correlation
import Postmortem.Stack.Listing
import Postmortem.Thread.Listing

/-!
# Stages of an analysis

An analysis is a list of stages that fill one report. A stage tells what it needs from earlier
stages and what it adds. Data that cannot be had is left out; only an overflow breaks a stage down,
and the analysis with it.
-/

namespace Postmortem

/-- What a stage can need or add. -/
inductive ReportField where
  | threads
  | threadStates
  | callStacks
  | modules
  | exception
  | typeResolution
  | aot
  | heap
  | locks
  | deadlock
deriving DecidableEq, Repr, Inhabited

/-- How far an analysis has come. -/
structure Progress where
  channel : Channel
  report : AnalysisReport := {}
  /-- Which threads wait; the lock stage needs it. -/
  threadStates : List ThreadState := []
  /-- The overflow that a stage broke down with. -/
  overflow : Option Overflow := none

namespace Progress

variable {α : Type}

/-- Fetches data together with the text that shows it. -/
def fetchText (read? : String → Option α) (commands : List String) :
    StateM Progress (Option (String × α)) := fun progress =>
  let (found, channel) := Channel.fetchText read? commands progress.channel
  (found, { progress with channel })

/-- Fetches data. -/
def fetch (read? : String → Option α) (commands : List String) : StateM Progress (Option α) := do
  return (← fetchText read? commands).map Prod.snd

/-- Changes the report. -/
def record (change : AnalysisReport → AnalysisReport) : StateM Progress Unit :=
  modify fun progress => { progress with report := change progress.report }

end Progress

/-- What a stage needs and what it adds. -/
structure StageContract where
  name : String
  requires : List ReportField
  produces : List ReportField
deriving DecidableEq, Repr, Inhabited

/-- A stage of an analysis. -/
structure Stage extends StageContract where
  run : Config → Introspector → StateM Progress Unit

namespace Stage

open Progress

/-- Lists the threads. -/
def threads : Stage where
  name := "threads"
  requires := []
  produces := [.threads, .threadStates]
  run _ _ := do
    match ← fetchText Thread.ofListing? Commands.threads with
    | some (text, threads) =>
      modify fun progress =>
        { progress with
          report :=
            { progress.report with
              threads, faultingThread := (threads.find? Thread.isFaulting).map (·.id.raw) }
          threadStates := (ThreadState.ofListing? text).getD [] }
    | none => return

/-- Adds the call stacks to the threads. -/
def callStacks : Stage where
  name := "stacks"
  requires := [.threads]
  produces := [.callStacks]
  run config _ := do
    let native ← fetch ThreadStack.ofNativeListing? Commands.nativeStacks
    let runtime ← fetch ThreadStack.ofRuntimeListing? Commands.runtimeStacks
    record fun report =>
      let threads := correlate config.stackLayout report.threads (native.getD [])
        (runtime.getD [])
      { report with
        threads
        faultingThread := report.faultingThread <|>
          (threads.find? Thread.isFaulting).map (·.id.raw) }

/-- Lists the modules. -/
def modules : Stage where
  name := "modules"
  requires := []
  produces := [.modules]
  run _ _ := do
    match ← fetch LoadedModule.ofListing? Commands.modules with
    | some modules => record fun report => { report with modules }
    | none => return

/-- Reads the exception. Any output counts, whether or not it is an exception. -/
def exception : Stage where
  name := "exception"
  requires := []
  produces := [.exception]
  run config introspector := do
    match ← fetch some Commands.exception with
    | some text =>
      let walk := ChainWalk.ofText introspector config.inspectLimits config.maxExceptionDepth text
      record fun report => { report with exception := walk.chain? }
    | none => return

/-- Diagnoses the first resolution failure of the exception. -/
def typeResolution : Stage where
  name := "type_resolution"
  requires := [.exception]
  produces := [.typeResolution]
  run config _ := do
    let progress ← get
    let failure := progress.report.exception.bind ExceptionChain.resolutionFailure?
    match failure.bind ExceptionNode.message with
    | some message =>
      let (found, types) := TypeResolution.ofMessage? config.maxMembers message
        TypeSession.catalog ⟨progress.channel.session, progress.report.heap⟩
      set { progress with
        channel := { progress.channel with session := types.session }
        report := { progress.report with typeResolution := found, heap := types.heap } }
    | none => return

/-- Classifies the deployment. This stage breaks down if the score overflows. -/
def aot : Stage where
  name := "aot"
  requires := [.callStacks, .modules, .exception]
  produces := [.aot]
  run config _ := modify fun progress =>
    let report := progress.report
    let node := report.exception.map fun chain =>
      chain.resolutionFailure?.getD chain.outermost
    match AotClassification.ofProcess config report.modules report.threads
        (node.bind ExceptionNode.typeName) with
    | .ok aot => { progress with report := { report with aot := some aot } }
    | .error overflow => { progress with overflow := some overflow }

/-- Lists the heap, unless an earlier stage did. -/
def heap : Stage where
  name := "heap"
  requires := []
  produces := [.heap]
  run _ _ := do
    if (← get).report.heap.isNone then
      let heap ← fetch HeapHistogram.ofListing? Commands.heap
      record fun report => { report with heap }

/-- Judges the locks. -/
def locks : Stage where
  name := "locks"
  requires := [.threadStates]
  produces := [.locks, .deadlock]
  run _ _ := do
    match ← fetch LockTable.ofListing? Commands.locks with
    | some locks =>
      let states := (← get).threadStates
      record fun report =>
        { report with deadlock := some (analyzeLocks locks states), locks := some locks }
    | none => return

/-- The stages of a full analysis. -/
def all : List Stage :=
  [threads, callStacks, modules, exception, typeResolution, aot, heap, locks]

end Stage

end Postmortem
