import Postmortem.Analysis.Stage

/-!
# Runs of analyses

Stages run only if the configuration is valid and no stage needs what no earlier one adds. A full
analysis always has a report: if it cannot run, or if its backend or a stage breaks down, the report
says so and holds nothing else.
-/

namespace Postmortem

/-- The name of a field in messages. -/
def ReportField.label : ReportField → String
  | threads => "Threads"
  | threadStates => "ThreadStates"
  | callStacks => "CallStacks"
  | modules => "Modules"
  | exception => "Exception"
  | typeResolution => "TypeResolution"
  | aot => "Aot"
  | heap => "Heap"
  | locks => "Locks"
  | deadlock => "Deadlock"

/-- Why an analysis failed as a whole. -/
inductive AnalysisError where
  | invalidConfig (problem : ConfigProblem)
  /-- A stage needs a field that no earlier stage adds. -/
  | stageOrder (stage : String) (field : ReportField)
  | breakdown (message : Option String)
deriving DecidableEq, Repr

/-- The text of an error. -/
def AnalysisError.message : AnalysisError → String
  | invalidConfig problem => s!"invalid analyzer configuration: {problem.message}"
  | stageOrder stage field =>
    s!"stage '{stage}' requires '{field.label}' which no earlier stage produces"
  | breakdown message => "analysis panicked: " ++ message.getD "unknown panic"

/-- The first stage that needs what neither an earlier stage nor a given list has. -/
def orderError? (produced : List ReportField) : List StageContract → Option AnalysisError
  | [] => none
  | stage :: stages =>
    match stage.requires.find? fun field => !produced.contains field with
    | some field => some (.stageOrder stage.name field)
    | none => orderError? (produced ++ stage.produces) stages

/-- Runs one stage and notes it. -/
def Stage.step (config : Config) (introspector : Introspector) (stage : Stage) :
    StateM Progress Unit := do
  stage.run config introspector
  Progress.record fun report => { report with stagesRun := report.stagesRun ++ [stage.name] }

/-- Runs stages one after the other, up to one that breaks down. -/
def Progress.afterStages (config : Config) (introspector : Introspector)
    (stages : List Stage) (progress : Progress) : Progress :=
  match stages, progress.overflow with
  | [], _ => progress
  | _ :: _, some _ => progress
  | stage :: rest, none =>
    afterStages config introspector rest (stage.step config introspector progress).2

/-- A report and the session that it comes from. -/
structure AnalysisRun where
  report : AnalysisReport
  session : Session
  /-- The overflow that a stage broke down with. -/
  overflow : Option Overflow := none

/-- The message of the breakdown that ended a run. No stage begins after one has broken down, so that
a breakdown of the backend came first. -/
def AnalysisRun.breakdown? (run : AnalysisRun) : Option (Option String) :=
  run.session.breakdown? <|> run.overflow.map fun overflow => some overflow.message

/-- The run that the last stage leaves behind. -/
def Progress.finish (progress : Progress) : AnalysisRun :=
  let session := progress.channel.session
  { report :=
      { progress.report with
        unavailable := progress.channel.unavailable
        crashLog := session.crashLog
        commandsRun := session.executed.length }
    session
    overflow := progress.overflow }

/-- Runs stages against a backend. A run that broke down (`AnalysisRun.breakdown?`) has no result. -/
def runStages (stages : List Stage) (config : Config) (backend : Backend)
    (introspector : Introspector) : Except AnalysisError AnalysisRun :=
  match config.problem?, orderError? [] (stages.map Stage.toStageContract) with
  | some problem, _ => .error (.invalidConfig problem)
  | none, some error => .error error
  | none, none =>
    let start : Progress := { channel := config.openChannel backend }
    .ok (start.afterStages config introspector stages).finish

/-- Runs a full analysis. -/
def analyze (config : Config) (backend : Backend) (introspector : Introspector) : AnalysisRun :=
  match runStages Stage.all config backend introspector with
  | .ok run =>
    match run.breakdown? with
    | some message => { run with report := .failure (AnalysisError.breakdown message).message }
    | none => run
  | .error e => { report := .failure e.message, session := (config.openChannel backend).session }

end Postmortem
