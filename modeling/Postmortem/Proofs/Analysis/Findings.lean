import Postmortem.Analysis.Run
import Postmortem.Proofs.Deployment.Overflow
import Postmortem.Proofs.Session.Fetch

/-!
# What an analysis finds

Each stage adds to the report what its commands give (`Reached.threads`, …,
`Reached.locks`), and no command gives anything else because others have run before it. So
every finding is a function of the outcomes of its own commands (`AnalysisReport.Shows`).

The heap has two ways into the report: the diagnosis of a missing type may list it, and
the heap stage lists it otherwise. Both show the same heap (`Reached.typeResolution`,
`Reached.heap`).

One stage can break down: the deployment has no score if that overflows (`ShownScoreFits`), and then
neither this stage nor one behind it adds anything (`Progress.afterStages_overflow`).

* `analyze_shows`: if the score fits, **the report of a full analysis holds what its commands
  show**.
* `analyze_of_overflow`: otherwise it holds the message of the overflow.
-/

namespace Postmortem

/-! ## Findings -/

section Findings

variable (config : Config) (introspector : Introspector) (outcome : String → Outcome)

/-- The output that lists the threads, and the threads in it. -/
def threadTable : Option (String × List Thread) :=
  firstReadable Thread.ofListing? outcome Commands.threads

/-- The threads as they are listed. -/
def listedThreads : List Thread := (threadTable outcome).elim [] Prod.snd

/-- Which threads wait. -/
def shownStates : List ThreadState :=
  (threadTable outcome).elim [] fun t => (ThreadState.ofListing? t.1).getD []

/-- Threads with the call stacks that the outputs show. -/
def withStacks (threads : List Thread) : List Thread :=
  correlate config.stackLayout threads
    (((firstReadable ThreadStack.ofNativeListing? outcome Commands.nativeStacks).map
      Prod.snd).getD [])
    (((firstReadable ThreadStack.ofRuntimeListing? outcome Commands.runtimeStacks).map
      Prod.snd).getD [])

/-- The threads with their call stacks. -/
def shownThreads : List Thread := withStacks config outcome (listedThreads outcome)

/-- The id of the thread that crashed, as it is listed or else as its stack shows it. -/
def shownFaultingThread : Option String :=
  ((listedThreads outcome).find? Thread.isFaulting).map (·.id.raw) <|>
    ((shownThreads config outcome).find? Thread.isFaulting).map (·.id.raw)

/-- The modules. -/
def shownModules : List LoadedModule :=
  (firstReadable LoadedModule.ofListing? outcome Commands.modules).elim [] Prod.snd

/-- The chain of exceptions. -/
def shownException : Option ExceptionChain :=
  (firstReadable some outcome Commands.exception).elim none fun t =>
    (ChainWalk.ofText introspector config.inspectLimits config.maxExceptionDepth t.2).chain?

/-- The type of the exception that the deployment is judged for. -/
def shownExceptionType : Option String :=
  ((shownException config introspector outcome).map fun chain =>
    chain.resolutionFailure?.getD chain.outermost).bind ExceptionNode.typeName

/-- Whether the score of the deployment fits, if trimming is considered at all. -/
def ShownScoreFits : Prop :=
  AotClassification.ScoreFits config (shownModules outcome) (shownThreads config outcome)
    (shownExceptionType config introspector outcome)

instance : Decidable (ShownScoreFits config introspector outcome) :=
  inferInstanceAs (Decidable (AotClassification.ScoreFits _ _ _ _))

/-- How the process was deployed, by its exact score. -/
def shownAot : AotClassification :=
  .ofExactScore config (shownModules outcome) (shownThreads config outcome)
    (shownExceptionType config introspector outcome)

/-- The locks. -/
def shownLocks : Option LockTable :=
  (firstReadable LockTable.ofListing? outcome Commands.locks).map Prod.snd

/-- The judgement on the locks. -/
def shownDeadlock : Option DeadlockAnalysis :=
  (shownLocks outcome).map fun locks => analyzeLocks locks (shownStates outcome)

end Findings

/-- Where the greatest score of the configuration fits, the score does, whatever is shown. -/
theorem shownScoreFits_of_greatestScore {config : Config} (introspector : Introspector)
    (outcome : String → Outcome) (h : config.greatestScore < 2 ^ 32) :
    ShownScoreFits config introspector outcome :=
  AotClassification.scoreFits_of_greatestScore h

theorem firstReadable_heap (outcome : String → Outcome) :
    (firstReadable HeapHistogram.ofListing? outcome Commands.heap).map Prod.snd =
      TypeSession.shownHeap outcome := by
  unfold firstReadable TypeSession.shownHeap Commands.heap TypeSession.heapCommand
  rw [List.findSome?_cons, List.findSome?_nil]
  cases (outcome "dumpheap -stat").output? with
  | none => rfl
  | some text =>
    simp only [Option.bind_some]
    cases HeapHistogram.ofListing? text <;> rfl

/-! ## Stages -/

namespace Progress

variable {α : Type}

theorem fetchText_eq (read? : String → Option α) (commands : List String) (p : Progress) :
    fetchText read? commands p = (firstReadable read? p.channel.session.outcome commands,
      { p with channel := (Channel.fetchText read? commands p.channel).2 }) := by
  unfold fetchText
  rw [← Channel.fetchText_fst]
  rfl

theorem fetch_eq (read? : String → Option α) (commands : List String) (p : Progress) :
    fetch read? commands p =
      ((firstReadable read? p.channel.session.outcome commands).map Prod.snd,
        { p with channel := (Channel.fetchText read? commands p.channel).2 }) := by
  unfold fetch
  simp only [bind, StateT.bind, fetchText_eq]
  rfl

end Progress

/-- **A point of an analysis** that began with a session: the session has the same backend
and timeout, this is the report and these are the states of the threads, and no stage has broken
down. -/
structure Reached (start : Session) (p : Progress) (report : AnalysisReport)
    (states : List ThreadState) : Prop where
  setup : p.channel.session.setup = start.setup
  report : p.report = report
  threadStates : p.threadStates = states
  running : p.overflow = none

namespace Reached

open Progress

variable (config : Config) (introspector : Introspector)
variable {start : Session} {p : Progress} {r : AnalysisReport} {states : List ThreadState}

theorem outcome (h : Reached start p r states) : p.channel.session.outcome = start.outcome :=
  Session.outcome_congr h.setup

theorem setup_fetch {α : Type} (h : Reached start p r states) (read? : String → Option α)
    (commands : List String) :
    (Channel.fetchText read? commands p.channel).2.session.setup = start.setup := by
  rw [Channel.setup_fetchText, h.setup]

theorem threads (h : Reached start p r states) (ht : r.threads = []) (hf : r.faultingThread = none)
    (hs : states = []) :
    Reached start (Stage.threads.step config introspector p).2
      { r with
        threads := listedThreads start.outcome
        faultingThread := ((listedThreads start.outcome).find? Thread.isFaulting).map (·.id.raw)
        stagesRun := r.stagesRun ++ ["threads"] }
      (shownStates start.outcome) := by
  have hsetup := h.setup_fetch Thread.ofListing? Commands.threads
  unfold Stage.step Stage.threads listedThreads shownStates threadTable
  simp only [bind, StateT.bind, fetchText_eq, h.outcome]
  cases firstReadable Thread.ofListing? start.outcome Commands.threads with
  | none =>
    -- what cannot be read leaves the report as it was, without threads
    refine ⟨hsetup, ?_, h.threadStates.trans hs, h.running⟩
    show { p.report with stagesRun := p.report.stagesRun ++ ["threads"] } =
      { r with threads := [], faultingThread := none, stagesRun := r.stagesRun ++ ["threads"] }
    rw [h.report, ← ht, ← hf]
  | some t => exact ⟨hsetup, by rw [← h.report]; rfl, rfl, h.running⟩

theorem callStacks (h : Reached start p r states) :
    Reached start (Stage.callStacks.step config introspector p).2
      { r with
        threads := withStacks config start.outcome r.threads
        faultingThread := r.faultingThread <|>
          ((withStacks config start.outcome r.threads).find? Thread.isFaulting).map (·.id.raw)
        stagesRun := r.stagesRun ++ ["stacks"] }
      states := by
  obtain ⟨hsetup, rfl, rfl, hrunning⟩ := h
  have houtcome : (Channel.fetchText ThreadStack.ofNativeListing? Commands.nativeStacks
      p.channel).2.session.outcome = start.outcome :=
    Session.outcome_congr ((Channel.setup_fetchText _ _ _).trans hsetup)
  unfold Stage.step Stage.callStacks withStacks
  simp only [bind, StateT.bind, fetch_eq, houtcome, Session.outcome_congr hsetup]
  refine ⟨?_, rfl, rfl, hrunning⟩
  exact ((Channel.setup_fetchText _ _ _).trans (Channel.setup_fetchText _ _ _)).trans hsetup

theorem modules (h : Reached start p r states) (hm : r.modules = []) :
    Reached start (Stage.modules.step config introspector p).2
      { r with
        modules := shownModules start.outcome
        stagesRun := r.stagesRun ++ ["modules"] }
      states := by
  have hsetup := h.setup_fetch LoadedModule.ofListing? Commands.modules
  unfold Stage.step Stage.modules shownModules
  simp only [bind, StateT.bind, fetch_eq, h.outcome]
  cases firstReadable LoadedModule.ofListing? start.outcome Commands.modules with
  | none =>
    refine ⟨hsetup, ?_, h.threadStates, h.running⟩
    show { p.report with stagesRun := p.report.stagesRun ++ ["modules"] } =
      { r with modules := [], stagesRun := r.stagesRun ++ ["modules"] }
    rw [h.report, ← hm]
  | some t => exact ⟨hsetup, by rw [← h.report]; rfl, h.threadStates, h.running⟩

theorem exception (h : Reached start p r states) (he : r.exception = none) :
    Reached start (Stage.exception.step config introspector p).2
      { r with
        exception := shownException config introspector start.outcome
        stagesRun := r.stagesRun ++ ["exception"] }
      states := by
  have hsetup := h.setup_fetch some Commands.exception
  unfold Stage.step Stage.exception shownException
  simp only [bind, StateT.bind, fetch_eq, h.outcome]
  cases firstReadable some start.outcome Commands.exception with
  | none =>
    refine ⟨hsetup, ?_, h.threadStates, h.running⟩
    show { p.report with stagesRun := p.report.stagesRun ++ ["exception"] } =
      { r with exception := none, stagesRun := r.stagesRun ++ ["exception"] }
    rw [h.report, ← he]
  | some t => exact ⟨hsetup, by rw [← h.report]; rfl, h.threadStates, h.running⟩

/-- The diagnosis may leave a heap behind, and it is the heap that the session shows. -/
theorem typeResolution (h : Reached start p r states) : ∃ found heap,
    Reached start (Stage.typeResolution.step config introspector p).2
      { r with
        typeResolution := found
        heap
        stagesRun := r.stagesRun ++ ["type_resolution"] }
      states ∧
    (heap = r.heap ∨ heap = TypeSession.shownHeap start.outcome) := by
  obtain ⟨hsetup, rfl, rfl, hrunning⟩ := h
  unfold Stage.step Stage.typeResolution
  simp only [bind, StateT.bind, get, getThe, MonadStateOf.get, StateT.get, pure]
  cases (p.report.exception.bind ExceptionChain.resolutionFailure?).bind ExceptionNode.message with
  | none => exact ⟨_, _, ⟨hsetup, rfl, rfl, hrunning⟩, Or.inl rfl⟩
  | some message =>
    let types : TypeSession := ⟨p.channel.session, p.report.heap⟩
    have hkeeps := TypeResolution.ofMessage?_keeps (TypeSession.catalog_preserves types)
      config.maxMembers message types ⟨rfl, Or.inl rfl⟩
    have hheap := hkeeps.heap
    rw [Session.outcome_congr hsetup] at hheap
    exact ⟨_, _, ⟨hkeeps.setup.trans hsetup, rfl, rfl, hrunning⟩, hheap⟩

theorem aot (h : Reached start p r states) {c : AotClassification}
    (hc : AotClassification.ofProcess config r.modules r.threads
      ((r.exception.map fun chain => chain.resolutionFailure?.getD chain.outermost).bind
        ExceptionNode.typeName) = .ok c) :
    Reached start (Stage.aot.step config introspector p).2
      { r with aot := some c, stagesRun := r.stagesRun ++ ["aot"] } states := by
  obtain ⟨hsetup, rfl, rfl, hrunning⟩ := h
  unfold Stage.step Stage.aot
  simp only [bind, StateT.bind, modify, modifyGet, MonadStateOf.modifyGet, StateT.modifyGet, pure,
    hc]
  exact ⟨hsetup, rfl, rfl, hrunning⟩

/-- Without a score the stage breaks down, and has run nothing. -/
theorem aot_overflow (h : Reached start p r states) {overflow : Overflow}
    (ho : AotClassification.ofProcess config r.modules r.threads
      ((r.exception.map fun chain => chain.resolutionFailure?.getD chain.outermost).bind
        ExceptionNode.typeName) = .error overflow) :
    (Stage.aot.step config introspector p).2.overflow = some overflow ∧
      (Stage.aot.step config introspector p).2.channel = p.channel := by
  obtain ⟨hsetup, rfl, rfl, hrunning⟩ := h
  unfold Stage.step Stage.aot
  simp only [bind, StateT.bind, modify, modifyGet, MonadStateOf.modifyGet, StateT.modifyGet, pure,
    ho]
  exact ⟨rfl, rfl⟩

/-- However the heap came into the report, it is the heap that the session shows. -/
theorem heap (h : Reached start p r states)
    (hh : r.heap = none ∨ r.heap = TypeSession.shownHeap start.outcome) :
    Reached start (Stage.heap.step config introspector p).2
      { r with
        heap := TypeSession.shownHeap start.outcome
        stagesRun := r.stagesRun ++ ["heap"] }
      states := by
  have hsetup := h.setup_fetch HeapHistogram.ofListing? Commands.heap
  have houtcome := h.outcome
  obtain ⟨hstart, rfl, rfl, hrunning⟩ := h
  unfold Stage.step Stage.heap
  simp only [bind, StateT.bind, get, getThe, MonadStateOf.get, StateT.get, pure]
  cases hp : p.report.heap with
  | some known =>
    -- the diagnosis of a missing type has listed the heap
    have hknown : TypeSession.shownHeap start.outcome = p.report.heap := by
      rcases hh with hh | hh
      · rw [hp] at hh
        cases hh
      · exact hh.symm
    rw [hknown]
    exact ⟨hstart, rfl, rfl, hrunning⟩
  | none =>
    simp only [Option.isNone_none, if_true, StateT.bind, fetch_eq, houtcome, firstReadable_heap]
    exact ⟨hsetup, rfl, rfl, hrunning⟩

theorem locks (h : Reached start p r states) (hl : r.locks = none) (hd : r.deadlock = none) :
    Reached start (Stage.locks.step config introspector p).2
      { r with
        locks := shownLocks start.outcome
        deadlock := (shownLocks start.outcome).map fun locks => analyzeLocks locks states
        stagesRun := r.stagesRun ++ ["locks"] }
      states := by
  have hsetup := h.setup_fetch LockTable.ofListing? Commands.locks
  unfold Stage.step Stage.locks shownLocks
  simp only [bind, StateT.bind, fetch_eq, h.outcome]
  cases firstReadable LockTable.ofListing? start.outcome Commands.locks with
  | none =>
    refine ⟨hsetup, ?_, h.threadStates, h.running⟩
    show { p.report with stagesRun := p.report.stagesRun ++ ["locks"] } =
      { r with locks := none, deadlock := none, stagesRun := r.stagesRun ++ ["locks"] }
    rw [h.report, ← hl, ← hd]
  | some t => exact ⟨hsetup, by rw [← h.report, ← h.threadStates]; rfl, h.threadStates, h.running⟩

end Reached

/-! ## Full analyses -/

/-- **A full report of what commands show**: each finding depends on its own commands. -/
structure AnalysisReport.Shows (config : Config) (introspector : Introspector)
    (outcome : String → Outcome) (report : AnalysisReport) : Prop where
  status : report.status = .complete
  threads : report.threads = shownThreads config outcome
  faultingThread : report.faultingThread = shownFaultingThread config outcome
  modules : report.modules = shownModules outcome
  exception : report.exception = shownException config introspector outcome
  aot : report.aot = some (shownAot config introspector outcome)
  heap : report.heap = TypeSession.shownHeap outcome
  locks : report.locks = shownLocks outcome
  deadlock : report.deadlock = shownDeadlock outcome

namespace Progress

variable {config : Config} {introspector : Introspector} {start p : Progress}

theorem afterStages_nil : p.afterStages config introspector [] = p := by
  unfold afterStages
  rfl

theorem afterStages_cons (h : p.overflow = none) (stage : Stage) (stages : List Stage) :
    p.afterStages config introspector (stage :: stages) =
      (stage.step config introspector p).2.afterStages config introspector stages :=
  afterStages.eq_3 config introspector p stage stages h

/-- Nothing is run behind a stage that broke down. -/
theorem afterStages_of_overflow {overflow : Overflow} (h : p.overflow = some overflow)
    (stages : List Stage) : p.afterStages config introspector stages = p := by
  cases stages with
  | nil => exact afterStages_nil
  | cons stage rest => exact afterStages.eq_2 config introspector p stage rest overflow h

/-- Stages in a row run as those in front and then those behind. -/
theorem afterStages_append (stages rest : List Stage) (p : Progress) :
    p.afterStages config introspector (stages ++ rest) =
      (p.afterStages config introspector stages).afterStages config introspector rest := by
  induction stages generalizing p with
  | nil => rw [afterStages_nil, List.nil_append]
  | cons stage stages ih =>
    cases h : p.overflow with
    | none => rw [List.cons_append, afterStages_cons h, afterStages_cons h, ih]
    | some overflow => rw [afterStages_of_overflow h, afterStages_of_overflow h,
        afterStages_of_overflow h]

end Progress

/-- The stages in front of the classification. -/
def Stage.early : List Stage := [threads, callStacks, modules, exception, typeResolution]

theorem Stage.all_eq : Stage.all = early ++ [aot, heap, locks] := rfl

section Runs

variable (config : Config) (introspector : Introspector) {start : Progress}

/-- The report in front of the classification. -/
def earlyReport (outcome : String → Outcome) (found : Option TypeResolution)
    (heap : Option HeapHistogram) : AnalysisReport where
  threads := shownThreads config outcome
  faultingThread := shownFaultingThread config outcome
  modules := shownModules outcome
  exception := shownException config introspector outcome
  typeResolution := found
  heap := heap
  stagesRun := Stage.early.map (·.name)

namespace Progress

section Early

variable (hstart : start.report = {}) (hs : start.threadStates = []) (ho : start.overflow = none)

include hstart hs ho

/-- No stage in front of the classification breaks down. -/
theorem afterStages_early : start.afterStages config introspector Stage.early =
    Stage.early.foldl (fun p stage => (stage.step config introspector p).2) start := by
  have h₀ : Reached start.channel.session start {} [] := ⟨rfl, hstart, hs, ho⟩
  have h₁ := h₀.threads config introspector rfl rfl rfl
  have h₂ := h₁.callStacks config introspector
  have h₃ := h₂.modules config introspector rfl
  have h₄ := h₃.exception config introspector rfl
  unfold Stage.early
  rw [afterStages_cons h₀.running, afterStages_cons h₁.running, afterStages_cons h₂.running,
    afterStages_cons h₃.running, afterStages_cons h₄.running, afterStages_nil]
  rfl

theorem reached_early : ∃ found heap,
    Reached start.channel.session (start.afterStages config introspector Stage.early)
      (earlyReport config introspector start.channel.session.outcome found heap)
      (shownStates start.channel.session.outcome) ∧
    (heap = none ∨ heap = TypeSession.shownHeap start.channel.session.outcome) := by
  have h₀ : Reached start.channel.session start {} [] := ⟨rfl, hstart, hs, ho⟩
  have h₁ := h₀.threads config introspector rfl rfl rfl
  have h₂ := (h₁.callStacks config introspector).modules config introspector rfl
  obtain ⟨found, heap, h₃, hheap⟩ :=
    (h₂.exception config introspector rfl).typeResolution config introspector
  rw [afterStages_early config introspector hstart hs ho]
  exact ⟨found, heap, h₃, hheap⟩

end Early

section Late

variable (hstart : start.report = {}) (hs : start.threadStates = []) (ho : start.overflow = none)
  (hfits : ShownScoreFits config introspector start.channel.session.outcome)

include hstart hs ho hfits

/-- If the score fits, no other stage breaks down either, and the report holds what the commands
of the session show. -/
theorem reached_late : ∃ report,
    Reached start.channel.session
        ([Stage.aot, Stage.heap, Stage.locks].foldl
          (fun p stage => (stage.step config introspector p).2)
          (start.afterStages config introspector Stage.early))
        report (shownStates start.channel.session.outcome) ∧
      report.Shows config introspector start.channel.session.outcome ∧
      start.afterStages config introspector Stage.all =
        [Stage.aot, Stage.heap, Stage.locks].foldl
          (fun p stage => (stage.step config introspector p).2)
          (start.afterStages config introspector Stage.early) := by
  obtain ⟨found, heap, h₅, hheap⟩ := reached_early config introspector hstart hs ho
  have h₆ := h₅.aot config introspector (AotClassification.ofProcess_eq_ok_iff.2 ⟨hfits, rfl⟩)
  have h₇ := h₆.heap config introspector hheap
  have h₈ := h₇.locks config introspector rfl rfl
  refine ⟨_, h₈, ⟨rfl, rfl, rfl, rfl, rfl, rfl, rfl, rfl, rfl⟩, ?_⟩
  rw [Stage.all_eq, afterStages_append, afterStages_cons h₅.running, afterStages_cons h₆.running,
    afterStages_cons h₇.running, afterStages_nil]
  rfl

/-- **After all stages the report holds what the commands of the session show**, if the score
fits. -/
theorem afterStages_shows : ∃ report,
    Reached start.channel.session (start.afterStages config introspector Stage.all) report
      (shownStates start.channel.session.outcome) ∧
    report.Shows config introspector start.channel.session.outcome := by
  obtain ⟨report, hreached, hshows, hall⟩ := reached_late config introspector hstart hs ho hfits
  rw [hall]
  exact ⟨report, hreached, hshows⟩

end Late

/-- **If the score overflows, the analysis ends with the stages in front of it.** -/
theorem afterStages_overflow (hstart : start.report = {}) (hs : start.threadStates = [])
    (ho : start.overflow = none) {overflow : Overflow}
    (haot : AotClassification.ofProcess config (shownModules start.channel.session.outcome)
      (shownThreads config start.channel.session.outcome)
      (shownExceptionType config introspector start.channel.session.outcome) = .error overflow) :
    (start.afterStages config introspector Stage.all).overflow = some overflow ∧
      (start.afterStages config introspector Stage.all).channel =
        (start.afterStages config introspector Stage.early).channel := by
  obtain ⟨found, heap, h₅, -⟩ := reached_early config introspector hstart hs ho
  have hbroken := h₅.aot_overflow config introspector haot
  rw [Stage.all_eq, afterStages_append, afterStages_cons h₅.running,
    afterStages_of_overflow hbroken.1]
  exact hbroken

end Progress

end Runs

/-- Whether a backend never breaks down, whatever it is asked. -/
def Backend.Steady (backend : Backend) : Prop :=
  ∀ command message, backend.reply command ≠ .breakdown message

theorem Session.breakdown?_eq_none {s : Session} (h : s.backend.Steady) : s.breakdown? = none := by
  unfold Session.breakdown?
  rw [List.findSome?_eq_none_iff]
  intro command _
  unfold Session.breakdownOf?
  split
  · rename_i message hreply
    exact absurd hreply (h command message)
  · rfl

section Analyses

variable {config : Config} {backend : Backend} (introspector : Introspector)

/-- The stages of a full analysis run, if its configuration is valid. -/
theorem runStages_all (hc : config.isValid = true) :
    runStages Stage.all config backend introspector =
      .ok (({ channel := config.openChannel backend } : Progress).afterStages config introspector
        Stage.all).finish := by
  have horder : orderError? [] (Stage.all.map Stage.toStageContract) = none := by decide
  unfold runStages
  rw [Option.isNone_iff_eq_none.1 hc, horder]

/-- **A full analysis comes to its end**: if its configuration is valid, its backend does not
break down and its score fits, it runs all stages. -/
theorem analyze_eq_finish (hc : config.isValid = true) (hb : backend.Steady)
    (hfits : ShownScoreFits config introspector (config.openChannel backend).session.outcome) :
    analyze config backend introspector =
      (({ channel := config.openChannel backend } : Progress).afterStages config introspector
        Stage.all).finish := by
  let start : Progress := { channel := config.openChannel backend }
  obtain ⟨report, hreached, -⟩ := Progress.afterStages_shows config introspector
    (show start.report = {} from rfl) rfl rfl hfits
  have hsteady :
      (start.afterStages config introspector Stage.all).channel.session.backend.Steady := by
    rw [(Prod.mk.inj hreached.setup).1]
    exact hb
  unfold analyze AnalysisRun.breakdown?
  rw [runStages_all introspector hc]
  simp only [Progress.finish]
  rw [Session.breakdown?_eq_none hsteady, hreached.running]
  rfl

/-- **A full analysis shows what the commands of its backend show.** -/
theorem analyze_shows (hc : config.isValid = true) (hb : backend.Steady)
    (hfits : ShownScoreFits config introspector (config.openChannel backend).session.outcome) :
    (analyze config backend introspector).report.Shows config introspector
      (config.openChannel backend).session.outcome := by
  let start : Progress := { channel := config.openChannel backend }
  obtain ⟨report, hreached, hshows⟩ := Progress.afterStages_shows config introspector
    (show start.report = {} from rfl) rfl rfl hfits
  rw [analyze_eq_finish introspector hc hb hfits]
  unfold Progress.finish
  rw [hreached.report]
  exact ⟨hshows.status, hshows.threads, hshows.faultingThread, hshows.modules, hshows.exception,
    hshows.aot, hshows.heap, hshows.locks, hshows.deadlock⟩

/-- **A full analysis whose score overflows has a failed report**, and runs no command behind those
that diagnose what is missing. -/
theorem analyze_of_overflow (hc : config.isValid = true) (hb : backend.Steady)
    {overflow : Overflow}
    (haot : AotClassification.ofProcess config
      (shownModules (config.openChannel backend).session.outcome)
      (shownThreads config (config.openChannel backend).session.outcome)
      (shownExceptionType config introspector (config.openChannel backend).session.outcome) =
        .error overflow) :
    (analyze config backend introspector).report =
        .failure ("analysis panicked: " ++ overflow.message) ∧
      (analyze config backend introspector).session =
        (({ channel := config.openChannel backend } : Progress).afterStages config introspector
          Stage.early).channel.session := by
  let start : Progress := { channel := config.openChannel backend }
  have hstart : start.report = {} := rfl
  obtain ⟨found, heap, hreached, -⟩ := Progress.reached_early config introspector hstart rfl rfl
  obtain ⟨hoverflow, hchannel⟩ :=
    Progress.afterStages_overflow config introspector hstart rfl rfl haot
  have hsteady :
      (start.afterStages config introspector Stage.early).channel.session.backend.Steady := by
    rw [(Prod.mk.inj hreached.setup).1]
    exact hb
  unfold analyze AnalysisRun.breakdown?
  rw [runStages_all introspector hc]
  simp only [Progress.finish]
  rw [hchannel, Session.breakdown?_eq_none hsteady, hoverflow]
  exact ⟨rfl, rfl⟩

end Analyses

end Postmortem
