import Postmortem.Proofs.Analysis.Course
import Postmortem.Proofs.Analysis.CrashIsolation

/-!
# What the debugger could not give

A command can leave an analysis without output: it fails, the transcript does not know it,
or its answer says that the data is unavailable. The report surfaces such a command if it
says so (`AnalysisRun.Surfaces`). Failures are noted by the session, whoever runs the
command; unavailable data is noted where it is fetched, and the look-ups of a diagnosis
(`lookUps`) do not fetch. A report that failed because the score overflowed surfaces nothing.

* `notMem_fetched_of_mem_lookUps`, `mem_fetched_or_mem_lookUps`: a command whose data is
  unavailable is either fetched or looked up.
* `analyze_surfaces_iff`: **the crash log holds the failures in order, and every command
  without output is surfaced iff no look-up of the diagnosis is unavailable**, unless the score
  overflows.
-/

namespace Postmortem

/-- **The report of a run surfaces a command**: if the command had no output, the report says
why. -/
@[mk_iff]
structure AnalysisRun.Surfaces (run : AnalysisRun) (command : String) : Prop where
  failure : ∀ cause, run.session.backend.reply command = .error cause → cause ≠ .notRecorded →
    { command, reason := cause.message command run.session.timeout } ∈ run.report.crashLog
  notRecorded : run.session.backend.reply command = .error .notRecorded →
    { command, phrase := notRecordedPhrase } ∈ run.report.unavailable
  refusal : ∀ text, run.session.backend.reply command = .output text →
    ∀ phrase, unavailablePhrase? text = some phrase →
      { command, phrase } ∈ run.report.unavailable

/-- A command is surfaced iff what came of it is in the list for it. -/
theorem AnalysisRun.surfaces_iff_outcome {run : AnalysisRun} (hb : run.session.backend.Steady)
    (command : String) : run.Surfaces command ↔
      (∀ reason, run.session.outcome command = .failed reason →
        { command, reason } ∈ run.report.crashLog) ∧
      ∀ phrase, run.session.outcome command = .unavailable phrase →
        { command, phrase } ∈ run.report.unavailable := by
  rw [surfaces_iff]
  unfold Session.outcome
  cases h : run.session.backend.reply command with
  | output text =>
    simp only [Reply.outcome]
    cases hphrase : unavailablePhrase? text <;> simp [hphrase]
  | error cause => cases cause <;> simp [Reply.outcome]
  | breakdown message => exact absurd h (hb command message)

section Course

variable {config : Config} {introspector : Introspector} {outcome : String → Outcome}

/-- No look-up is a command of a stage. -/
theorem notMem_fetched_of_mem_lookUps {command : String}
    (h : command ∈ lookUps config introspector outcome) :
    command ∉ fetched config introspector outcome := by
  intro hfetched
  obtain ⟨typeName, methodTable, hlookUps⟩ := lookUps_sublist config introspector outcome
  have hnodup : (Commands.early ++ [TypeSession.lookUpCommand typeName,
      TypeSession.membersCommand methodTable] ++ Commands.late).Nodup :=
    (nodup_commandKeys typeName methodTable).of_map
  have hmem := hlookUps.subset h
  rw [List.append_assoc, List.nodup_append] at hnodup
  obtain ⟨-, hrest, hearly⟩ := hnodup
  rw [List.nodup_append] at hrest
  obtain ⟨-, -, hlate⟩ := hrest
  rcases List.mem_append.1 hfetched with hbefore | hbehind
  · exact hearly command (commandsBefore_sublist.subset hbefore) command
      (List.mem_append_left _ hmem) rfl
  · exact hlate command hmem command (commandsBehind_sublist.subset hbehind) rfl

/-- **A command of the course is fetched, or looked up**, if its data is unavailable. -/
theorem mem_fetched_or_mem_lookUps {command phrase : String}
    (hfits : ShownScoreFits config introspector outcome)
    (h : command ∈ course config introspector outcome)
    (hout : outcome command = .unavailable phrase) :
    command ∈ fetched config introspector outcome ∨
      command ∈ lookUps config introspector outcome := by
  unfold fetched
  rcases List.mem_append.1 h with h | hbehind
  · rcases List.mem_append.1 h with hbefore | hdiagnosis
    · exact .inl (List.mem_append_left _ hbefore)
    · rcases mem_diagnosisCommands.1 hdiagnosis with hlookUp | ⟨hlists, rfl⟩
      · exact .inr hlookUp
      -- what the diagnosis cannot list, the heap stage lists again
      · have hshown : TypeSession.shownHeap outcome = none := by
          unfold TypeSession.shownHeap
          rw [hout]
          rfl
        exact .inl (List.mem_append_right _ (heapCommand_mem_commandsBehind hfits hlists hshown))
  · exact .inl (List.mem_append_right _ hbehind)

theorem mem_course_of_mem_lookUps {command : String}
    (h : command ∈ lookUps config introspector outcome) :
    command ∈ course config introspector outcome := by
  unfold course
  exact List.mem_append_left _ (List.mem_append_right _ (mem_diagnosisCommands.2 (.inl h)))

end Course

section Analyses

variable {config : Config} (hc : config.isValid = true) (introspector : Introspector)
  (t : Transcript)

include hc

theorem executed_analyze : (analyze config t.backend introspector).session.executed =
    course config introspector (config.openChannel t.backend).session.outcome := by
  rw [analyze_session introspector hc t.backend_steady]
  rfl

/-- What came of a command decides whether a full analysis surfaces it. -/
theorem analyze_surfaces_iff_outcome (command : String) :
    (analyze config t.backend introspector).Surfaces command ↔
      (∀ reason, (config.openChannel t.backend).session.outcome command = .failed reason →
        { command, reason } ∈ (analyze config t.backend introspector).report.crashLog) ∧
      ∀ phrase, (config.openChannel t.backend).session.outcome command = .unavailable phrase →
        { command, phrase } ∈ (analyze config t.backend introspector).report.unavailable := by
  have hsession := analyze_session introspector hc t.backend_steady
  have hout : (analyze config t.backend introspector).session.outcome =
      (config.openChannel t.backend).session.outcome := by
    rw [hsession]
    rfl
  have hsteady : (analyze config t.backend introspector).session.backend.Steady := by
    rw [hsession]
    exact t.backend_steady
  rw [AnalysisRun.surfaces_iff_outcome hsteady, hout]

/-- If the score fits, all is surfaced but the look-ups of the diagnosis. -/
theorem surfaces_iff_of_fits
    (hfits : ShownScoreFits config introspector (config.openChannel t.backend).session.outcome) :
    (∀ command ∈ course config introspector (config.openChannel t.backend).session.outcome,
        (analyze config t.backend introspector).Surfaces command) ↔
      ∀ command ∈ lookUps config introspector (config.openChannel t.backend).session.outcome,
        ((config.openChannel t.backend).session.outcome command).isUnavailable = false := by
  obtain ⟨-, hlog, hunavailable⟩ := analyze_reports introspector hc t.backend_steady hfits
  set outcome := (config.openChannel t.backend).session.outcome with houtcome
  constructor
  · intro h command hlookUp
    have hsurfaces := h command (mem_course_of_mem_lookUps hlookUp)
    rw [analyze_surfaces_iff_outcome hc, ← houtcome] at hsurfaces
    cases hcommand : outcome command with
    | output text => rfl
    | failed reason => rfl
    | unavailable phrase =>
      have hmem := hsurfaces.2 phrase hcommand
      rw [hunavailable] at hmem
      exact absurd (mem_refusals.1 hmem).1 (notMem_fetched_of_mem_lookUps hlookUp)
  · intro h command hmem
    rw [analyze_surfaces_iff_outcome hc, ← houtcome, hlog, hunavailable]
    refine ⟨fun reason hfailed => mem_failures.2 ⟨hmem, hfailed⟩, fun phrase hrefused => ?_⟩
    rcases mem_fetched_or_mem_lookUps hfits hmem hrefused with hfetched | hlookUp
    · exact mem_refusals.2 ⟨hfetched, hrefused⟩
    · have hok := h command hlookUp
      rw [hrefused] at hok
      cases hok

/-- If the score overflows, nothing is surfaced. -/
theorem surfaces_iff_of_overflow
    (hfits : ¬ ShownScoreFits config introspector (config.openChannel t.backend).session.outcome)
    (command : String) : (analyze config t.backend introspector).Surfaces command ↔
      ((config.openChannel t.backend).session.outcome command).output?.isSome = true := by
  obtain ⟨-, overflow, hreport, -⟩ := analyze_overflows introspector hc t.backend_steady hfits
  rw [analyze_surfaces_iff_outcome hc, hreport]
  cases (config.openChannel t.backend).session.outcome command <;>
    simp [AnalysisReport.failure, Outcome.output?]

end Analyses

theorem failures_eq_nil_iff {outcome : String → Outcome} {commands : List String} :
    [] = failures outcome commands ↔ ∀ command ∈ commands, (outcome command).isFailed = false := by
  rw [eq_comm, ← List.map_eq_nil_iff, map_command_failures, List.filter_eq_nil_iff]
  simp

/-- **The crash log holds the failures in order, and every command without output is
surfaced iff no look-up of the diagnosis is unavailable.** Where the score overflows, the crash log
is empty and no command without output is surfaced. -/
theorem analyze_surfaces_iff {config : Config} (hc : config.isValid = true)
    (introspector : Introspector) (t : Transcript) :
    let outcome := (config.openChannel t.backend).session.outcome
    let run := analyze config t.backend introspector
    (ShownScoreFits config introspector outcome →
      run.report.crashLog = failures outcome run.session.executed ∧
        ((∀ command ∈ run.session.executed, run.Surfaces command) ↔
          ∀ command ∈ lookUps config introspector outcome,
            (outcome command).isUnavailable = false)) ∧
    (¬ ShownScoreFits config introspector outcome →
      (run.report.crashLog = failures outcome run.session.executed ↔
          ∀ command ∈ run.session.executed, (outcome command).isFailed = false) ∧
        ((∀ command ∈ run.session.executed, run.Surfaces command) ↔
          ∀ command ∈ run.session.executed, (outcome command).output?.isSome = true)) := by
  intro outcome run
  have hexecuted : run.session.executed = course config introspector outcome :=
    executed_analyze hc introspector t
  refine ⟨fun hfits => ?fits, fun hfits => ?overflows⟩
  case fits =>
    rw [hexecuted]
    exact ⟨(analyze_reports introspector hc t.backend_steady hfits).2.1,
      surfaces_iff_of_fits hc introspector t hfits⟩
  case overflows =>
    obtain ⟨-, overflow, hreport, -⟩ := analyze_overflows introspector hc t.backend_steady hfits
    have hlog : run.report.crashLog = [] := by
      rw [hreport]
      rfl
    rw [hlog]
    exact ⟨failures_eq_nil_iff,
      forall₂_congr fun command _ => surfaces_iff_of_overflow hc introspector t hfits command⟩

/-- A session that shows an exception about a field, and answers some searches for types. -/
def withAnswers (searches : List (String × String)) : Transcript :=
  { commands := ⟨("printexception -nested",
      "Exception type: MissingFieldException\nMessage: Field not found: 'Cache.F'") :: searches⟩ }

/-- The type is searched for, but not there; all the rest is not recorded. -/
theorem analyze_surfaces_searched :
    Config.isValid {} = true ∧
      ∀ command ∈ (analyze {} (withAnswers [("name2ee *!Cache", "Module: App.dll")]).backend
          Introspector.none).session.executed,
        (analyze {} (withAnswers [("name2ee *!Cache", "Module: App.dll")]).backend
          Introspector.none).Surfaces command := by
  have hvalid : Config.isValid {} = true := by decide +kernel
  have hiff := analyze_surfaces_iff hvalid Introspector.none
    (withAnswers [("name2ee *!Cache", "Module: App.dll")])
  have hall : ∀ command ∈ lookUps {} Introspector.none
      (Config.openChannel {}
        (withAnswers [("name2ee *!Cache", "Module: App.dll")]).backend).session.outcome,
      ((Config.openChannel {}
        (withAnswers [("name2ee *!Cache", "Module: App.dll")]).backend).session.outcome
          command).isUnavailable = false := by decide +kernel
  have hfits : ShownScoreFits {} Introspector.none (Config.openChannel {}
      (withAnswers [("name2ee *!Cache", "Module: App.dll")]).backend).session.outcome :=
    shownScoreFits_of_greatestScore _ _ (by decide +kernel)
  exact ⟨hvalid, (hiff.1 hfits).2.2 hall⟩

/-- A search that is not recorded is silent. -/
theorem not_surfaces_of_unrecorded :
    ¬ ∀ (config : Config) (objects t : Transcript), config.isValid = true →
      ∀ command ∈ (analyze config t.backend objects.introspector).session.executed,
        (analyze config t.backend objects.introspector).Surfaces command := by
  intro h
  have hrun := h {} {} (withAnswers []) (by decide +kernel)
  have hmiss : ∃ run, run = analyze {} (withAnswers []).backend (Transcript.introspector {}) ∧
      "name2ee *!Cache" ∈ run.session.executed ∧
      run.session.backend.reply "name2ee *!Cache" = .error .notRecorded ∧
      { command := "name2ee *!Cache", phrase := notRecordedPhrase } ∉ run.report.unavailable :=
    ⟨_, rfl, by decide +kernel⟩
  obtain ⟨run, hanalyze, hexecuted, hreply, hsilent⟩ := hmiss
  rw [← hanalyze] at hrun
  exact hsilent ((hrun _ hexecuted).notRecorded hreply)

end Postmortem
