import Postmortem.Proofs.Analysis.Course
import Postmortem.Proofs.Analysis.CrashIsolation

/-!
# How analyses end

An analysis whose configuration is rejected ends before its first command. Any other comes to
its end, whatever the debugger answers, unless the score of the deployment overflows: no stage
touches what the report says about the run (`Stage.keeps_outline`), so after any stages that do not
break down the report has not failed and names just these (`Progress.outline_afterStages`). Its
commands are those of the stages and the questions that the first resolution failure of the
exception gives rise to (`TypeSession.IsQuestion`).

* `analyze_of_problem`, `analyze_completes`: a rejected and an accepted configuration.
* `analyze_fails_or_completes`: **an analysis fails with the problem of its configuration and
  runs nothing, or it is complete and runs nothing but its own commands iff its score fits.**
* `not_completes_of_heavyWeight`: under a heavy weight, an analysis can fail on the way.
-/

namespace Postmortem

/-! ## What a report says about the run -/

/-- What a report says about the run itself: whether and why it failed, and its stages. -/
def AnalysisReport.outline (report : AnalysisReport) :
    AnalysisStatus × Option String × List String :=
  (report.status, report.error, report.stagesRun)

namespace Progress

variable {α : Type} {outline : AnalysisStatus × Option String × List String}

theorem keeps_fetchText (read? : String → Option α) (commands : List String) :
    Keeps (fun p => p.report.outline = outline) (fetchText read? commands) := by
  intro p h
  rw [fetchText_eq]
  exact h

theorem keeps_fetch (read? : String → Option α) (commands : List String) :
    Keeps (fun p => p.report.outline = outline) (fetch read? commands) :=
  (keeps_fetchText read? commands).bind fun _ => Keeps.pure _

end Progress

namespace Stage

open Progress

variable (config : Config) (introspector : Introspector)
variable (outline : AnalysisStatus × Option String × List String)

theorem keeps_outline_typeResolution :
    Keeps (fun p => p.report.outline = outline) (typeResolution.run config introspector) := by
  intro p h
  unfold typeResolution
  simp only [bind, StateT.bind, get, getThe, MonadStateOf.get, StateT.get, pure]
  cases (p.report.exception.bind ExceptionChain.resolutionFailure?).bind ExceptionNode.message with
  | none => exact h
  | some message => exact h

/-- **No stage touches what the report says about the run.** -/
theorem keeps_outline : ∀ stage ∈ Stage.all,
    Keeps (fun p => p.report.outline = outline) (stage.run config introspector) := by
  unfold Stage.all
  simp only [List.forall_mem_cons]
  refine ⟨?threads, ?callStacks, ?modules, ?exception,
    keeps_outline_typeResolution config introspector outline, ?aot, ?heap, ?locks, nofun⟩
  case threads =>
    refine (keeps_fetchText _ _).bind fun found => ?_
    cases found <;> exact fun _ h => h
  case callStacks =>
    exact (keeps_fetch _ _).bind fun _ => (keeps_fetch _ _).bind fun _ _ h => h
  case modules =>
    refine (keeps_fetch _ _).bind fun found => ?_
    cases found <;> exact fun _ h => h
  case exception =>
    refine (keeps_fetch _ _).bind fun found => ?_
    cases found <;> exact fun _ h => h
  case aot =>
    intro p h
    unfold aot
    simp only [modify, modifyGet, MonadStateOf.modifyGet, StateT.modifyGet]
    split <;> exact h
  case heap =>
    intro p h
    unfold heap
    simp only [bind, StateT.bind, get, getThe, MonadStateOf.get, StateT.get, pure]
    cases p.report.heap.isNone with
    | false => exact h
    | true => exact (keeps_fetch HeapHistogram.ofListing? Commands.heap).bind (fun _ _ h => h) p h
  case locks =>
    refine (keeps_fetch _ _).bind fun found => ?_
    cases found <;> exact fun _ h => h

end Stage

/-- The outline of a report, with the names of further stages. -/
def AnalysisReport.outlineWith (report : AnalysisReport) (names : List String) :
    AnalysisStatus × Option String × List String :=
  (report.outline.1, report.outline.2.1, report.outline.2.2 ++ names)

/-- A stage adds its name to those of the stages before it. -/
theorem Progress.outline_step (config : Config) (introspector : Introspector) {stage : Stage}
    (hstage : stage ∈ Stage.all) (p : Progress) :
    (stage.step config introspector p).2.report.outline =
      p.report.outlineWith [stage.name] := by
  have hrun := Stage.keeps_outline config introspector p.report.outline stage hstage p rfl
  show (stage.run config introspector p).2.report.outlineWith [stage.name] = _
  unfold AnalysisReport.outlineWith
  rw [hrun]

/-- **After any stages that do not break down the report says as much of the run as before, and
names these stages.** -/
theorem Progress.outline_afterStages (config : Config) (introspector : Introspector)
    (stages : List Stage) (p : Progress) (hall : ∀ stage ∈ stages, stage ∈ Stage.all)
    (hrunning : (p.afterStages config introspector stages).overflow = none) :
    (p.afterStages config introspector stages).report.outline =
      p.report.outlineWith (stages.map (·.name)) := by
  induction stages generalizing p with
  | nil =>
    unfold AnalysisReport.outlineWith
    rw [afterStages_nil, List.map_nil, List.append_nil]
  | cons stage rest ih =>
    cases hp : p.overflow with
    | some overflow =>
      rw [afterStages_of_overflow hp, hp] at hrunning
      cases hrunning
    | none =>
      have hstep := outline_step config introspector (hall stage List.mem_cons_self) p
      rw [afterStages_cons hp] at hrunning ⊢
      rw [ih _ (fun s hs => hall s (List.mem_cons_of_mem _ hs)) hrunning]
      unfold AnalysisReport.outlineWith
      rw [hstep]
      unfold AnalysisReport.outlineWith
      rw [List.append_assoc]
      rfl

theorem Progress.outline_finish (p : Progress) : p.finish.report.outline = p.report.outline := rfl

theorem Progress.commandsRun_finish (p : Progress) :
    p.finish.report.commandsRun = p.finish.session.executed.length := rfl

/-! ## Questions -/

/-- The message of the first resolution failure of the exception. -/
def AnalysisReport.failureMessage? (report : AnalysisReport) : Option String :=
  (report.exception.bind ExceptionChain.resolutionFailure?).bind ExceptionNode.message

/-- **The questions that a message gives rise to**: the type that it names is looked up; the
heap is listed if the type is generic and was not found; and where the type is located, its
members are listed. -/
inductive TypeSession.IsQuestion (outcome : String → Outcome) (message : String) : String → Prop
  | lookUp {request : MemberRequest} (h : MemberRequest.parse? message = some request) :
    IsQuestion outcome message (lookUpCommand request.typeName)
  | heap {request : MemberRequest} (h : MemberRequest.parse? message = some request)
    (hlists : listsHeap outcome none request.typeName = true) :
    IsQuestion outcome message heapCommand
  | members {request : MemberRequest} {methodTable : Address}
    (h : MemberRequest.parse? message = some request)
    (hlocated : (located outcome none request.typeName).1 = some methodTable) :
    IsQuestion outcome message (membersCommand methodTable)

/-- The commands of a diagnosis are questions of the message that is diagnosed. -/
theorem isQuestion_of_mem_diagnosisCommands {config : Config} {introspector : Introspector}
    {outcome : String → Outcome} {command : String}
    (h : command ∈ diagnosisCommands config introspector outcome) :
    ∃ message, ((shownException config introspector outcome).bind
        ExceptionChain.resolutionFailure?).bind ExceptionNode.message = some message ∧
      TypeSession.IsQuestion outcome message command := by
  unfold diagnosisCommands at h
  cases hmissing : missingMember? config introspector outcome with
  | none =>
    rw [hmissing] at h
    cases h
  | some request =>
    obtain ⟨message, hmessage, hparse⟩ := Option.bind_eq_some_iff.1 hmissing
    refine ⟨message, hmessage, ?_⟩
    rw [hmissing, Option.elim_some] at h
    unfold TypeSession.questions TypeSession.searches at h
    rcases List.mem_append.1 h with hsearch | hmembers
    · rcases List.mem_cons.1 hsearch with rfl | hheap
      · exact .lookUp hparse
      · cases hlists : TypeSession.listsHeap outcome none request.typeName with
        | false =>
          rw [hlists] at hheap
          cases hheap
        | true =>
          rw [hlists, if_pos rfl, List.mem_singleton] at hheap
          subst hheap
          exact .heap hparse hlists
    · obtain ⟨methodTable, hlocated, rfl⟩ := List.mem_map.1 hmembers
      exact .members hparse (Option.mem_toList.1 hlocated)

/-! ## Full analyses -/

/-- **A run that has come to its end**: all stages were run, all commands are counted, and each
command is one of a stage, or a question of the first resolution failure. -/
structure AnalysisRun.Completes (run : AnalysisRun) : Prop where
  isComplete : run.report.isComplete = true
  error : run.report.error = none
  stagesRun : run.report.stagesRun = Stage.all.map (·.name)
  commandsRun : run.report.commandsRun = run.session.executed.length
  commands : ∀ command ∈ run.session.executed,
    command ∈ Commands.early ++ Commands.late ∨
      ∃ message, run.report.failureMessage? = some message ∧
        TypeSession.IsQuestion run.session.outcome message command

/-- **A rejected configuration ends the analysis** before it runs anything. -/
theorem analyze_of_problem {config : Config} {problem : ConfigProblem}
    (h : config.problem? = some problem) (backend : Backend) (introspector : Introspector) :
    analyze config backend introspector =
      { report := .failure ("invalid analyzer configuration: " ++ problem.message)
        session := (config.openChannel backend).session } := by
  unfold analyze runStages
  rw [h]
  cases orderError? [] (Stage.all.map Stage.toStageContract) <;> rfl

/-- **An accepted configuration lets the analysis come to its end**, if the score fits. -/
theorem analyze_completes {config : Config} {backend : Backend} (introspector : Introspector)
    (hc : config.isValid = true) (hb : backend.Steady)
    (hfits : ShownScoreFits config introspector (config.openChannel backend).session.outcome) :
    (analyze config backend introspector).Completes := by
  let start : Progress := { channel := config.openChannel backend }
  obtain ⟨hsession, -, -⟩ := analyze_reports introspector hc hb hfits
  have hshows := analyze_shows introspector hc hb hfits
  obtain ⟨report, hreached, -⟩ := Progress.afterStages_shows config introspector
    (show start.report = {} from rfl) rfl rfl hfits
  have houtline : (analyze config backend introspector).report.outline =
      (.complete, none, Stage.all.map (·.name)) := by
    rw [analyze_eq_finish introspector hc hb hfits, Progress.outline_finish,
      Progress.outline_afterStages config introspector Stage.all _ (fun _ h => h) hreached.running]
    rfl
  obtain ⟨hstatus, hrest⟩ := Prod.mk.inj houtline
  obtain ⟨herror, hstages⟩ := Prod.mk.inj hrest
  refine ⟨?isComplete, ?error, ?stagesRun, ?commandsRun, ?commands⟩
  case isComplete =>
    unfold AnalysisReport.isComplete
    rw [hstatus]
    rfl
  case error => exact herror
  case stagesRun => exact hstages
  case commandsRun => rw [analyze_eq_finish introspector hc hb hfits, Progress.commandsRun_finish]
  case commands =>
    intro command hcommand
    have houtcome : (analyze config backend introspector).session.outcome =
        (config.openChannel backend).session.outcome := by
      rw [hsession]
      rfl
    have hmessage : (analyze config backend introspector).report.failureMessage? =
        ((shownException config introspector (config.openChannel backend).session.outcome).bind
          ExceptionChain.resolutionFailure?).bind ExceptionNode.message := by
      unfold AnalysisReport.failureMessage?
      rw [hshows.exception]
    rw [houtcome, hmessage]
    rw [hsession] at hcommand
    have hmem : command ∈ course config introspector
        (config.openChannel backend).session.outcome := hcommand
    -- the diagnosis is the only part whose commands depend on what was found
    unfold course at hmem
    rcases List.mem_append.1 hmem with hmem | hbehind
    · rcases List.mem_append.1 hmem with hbefore | hdiagnosis
      · exact .inl (List.mem_append_left _ (commandsBefore_sublist.mem hbefore))
      · exact .inr (isQuestion_of_mem_diagnosisCommands hdiagnosis)
    · exact .inl (List.mem_append_right _ (commandsBehind_sublist.mem hbehind))

/-- **A run that a score ended**: the report has failed with the message of the overflow, and no
command was run behind those that diagnose what is missing. -/
structure AnalysisRun.BreaksDown (run : AnalysisRun) (config : Config)
    (introspector : Introspector) (outcome : String → Outcome) : Prop where
  report : ∃ overflow : Overflow,
    run.report = .failure ("analysis panicked: " ++ overflow.message) ∧
      (AotClassification.ofEvidence config (shownModules outcome)
        (shownThreads config outcome)).score config.evidenceWeights = .error overflow
  executed : run.session.executed =
    commandsBefore outcome ++ diagnosisCommands config introspector outcome

theorem AnalysisRun.BreaksDown.not_completes {run : AnalysisRun} {config : Config}
    {introspector : Introspector} {outcome : String → Outcome}
    (h : run.BreaksDown config introspector outcome) : ¬ run.Completes := by
  intro hcompletes
  obtain ⟨overflow, hreport, -⟩ := h.report
  have herror := hcompletes.error
  rw [hreport] at herror
  cases herror

/-- **A score that overflows ends the analysis.** -/
theorem analyze_breaksDown {config : Config} {backend : Backend}
    (introspector : Introspector) (hc : config.isValid = true) (hb : backend.Steady)
    (hfits : ¬ ShownScoreFits config introspector (config.openChannel backend).session.outcome) :
    (analyze config backend introspector).BreaksDown config introspector
      (config.openChannel backend).session.outcome := by
  obtain ⟨hsession, overflow, hreport, haot⟩ := analyze_overflows introspector hc hb hfits
  refine ⟨⟨overflow, hreport, (AotClassification.ofProcess_eq_error_iff.1 haot).2⟩, ?_⟩
  rw [hsession]
  show course config introspector _ = _
  unfold course commandsBehind
  rw [if_neg hfits, List.append_nil]

/-- **An analysis of a recorded session fails with the problem of its configuration and runs
nothing, or it is complete and runs nothing but its own commands iff its score fits.** -/
theorem analyze_fails_or_completes (config : Config) (introspector : Introspector)
    (t : Transcript) :
    (∀ problem, config.problem? = some problem →
      (analyze config t.backend introspector).report =
          { status := .failed
            error := some ("invalid analyzer configuration: " ++ problem.message) } ∧
        (analyze config t.backend introspector).session.executed = []) ∧
      (config.isValid = true →
        ((analyze config t.backend introspector).Completes ↔
          ShownScoreFits config introspector (config.openChannel t.backend).session.outcome) ∧
        (¬ ShownScoreFits config introspector (config.openChannel t.backend).session.outcome →
          (analyze config t.backend introspector).BreaksDown config introspector
            (config.openChannel t.backend).session.outcome)) := by
  refine ⟨fun problem hproblem => ?rejected, fun hvalid => ?accepted⟩
  case rejected =>
    rw [analyze_of_problem hproblem]
    exact ⟨rfl, rfl⟩
  case accepted =>
    have hbreaks := analyze_breaksDown introspector hvalid t.backend_steady
    refine ⟨⟨fun hcompletes => ?_, analyze_completes introspector hvalid t.backend_steady⟩, hbreaks⟩
    by_contra hfits
    exact (hbreaks hfits).not_completes hcompletes

/-- A session that shows an exception about a field of a generic type, and an instance of it on
the heap. -/
def missingCacheField : Transcript where
  commands := ⟨[
    ("dumpheap -stat", "Statistics:\n00002000 1 2 Cache`1[[Key]]\n"),
    ("printexception -nested",
      "Exception type: MissingFieldException\nMessage: Field not found: 'Cache<Key>.F'")]⟩

/-- The members of the instance are listed, unless the configuration is rejected. -/
theorem analyze_fails_or_completes_instance :
    (analyze { maxExceptionDepth := 0 } missingCacheField.backend
        missingCacheField.introspector).report.error =
      some "invalid analyzer configuration: max_exception_depth must be >= 1" ∧
    (analyze { maxExceptionDepth := 0 } missingCacheField.backend
      missingCacheField.introspector).session.executed = [] ∧
    (analyze {} missingCacheField.backend missingCacheField.introspector).Completes ∧
    "dumpmt -md 0000000000002000" ∈
      (analyze {} missingCacheField.backend missingCacheField.introspector).session.executed := by
  obtain ⟨hreport, hnothing⟩ := (analyze_fails_or_completes { maxExceptionDepth := 0 }
    missingCacheField.introspector missingCacheField).1 .zeroExceptionDepth (by decide +kernel)
  refine ⟨?_, hnothing, ?_, by decide +kernel⟩
  · rw [hreport]
    decide +kernel
  · exact ((analyze_fails_or_completes {} missingCacheField.introspector missingCacheField).2
      (by decide +kernel)).1.2 (shownScoreFits_of_greatestScore _ _ (by decide +kernel))

/-- A session that shows a missing method, and a module of a program that was compiled ahead of
time. -/
def compiledAhead : Transcript where
  commands := ⟨[
    ("image list", "[0] 0x1000 /app/libbootstrapper.so\n"),
    ("printexception -nested", "Exception type: System.MissingMethodException\n")]⟩

/-- **A valid configuration does not let every analysis come to its end.** The score of one
indicator of great weight, and of what follows from it, overflows. -/
theorem not_completes_of_heavyWeight :
    ¬ ∀ (config : Config) (objects t : Transcript), config.isValid = true →
      (analyze config t.backend objects.introspector).Completes := by
  intro h
  let heavy : Config := { evidenceWeights := { perIndicator := 4294967291 } }
  have hcomplete := (h heavy {} compiledAhead (by decide +kernel)).isComplete
  have hfailed : (analyze heavy compiledAhead.backend
      (Transcript.introspector {})).report.isComplete = false := by decide +kernel
  rw [hfailed] at hcomplete
  cases hcomplete

end Postmortem
