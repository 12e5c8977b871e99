import Postmortem.Proofs.Analysis.Findings
import Postmortem.Transcript

/-!
# Crashes stay local

A command that crashes takes away what it would have shown, and nothing else. Two analyses
of one transcript, of which the second one has more crashes, agree on every finding whose
own commands (`Finding.sources`) are spared.

A transcript knows a command by its key, so a crash recorded as `!lm` is a crash of `lm` too:
a finding is spared if no crash has the key of one of its commands
(`not_agrees_of_notMem`).

All this is about analyses whose score fits (`ShownScoreFits`); any other one has no findings.

* `Finding.agrees_of_shows`: a finding is a function of what its sources give.
* `analyze_withCrashes`: **crashes change no finding whose sources they spare, and the
  analysis comes to its end.**
-/

namespace Postmortem

/-! ## Findings and their sources -/

/-- A finding of a full analysis. -/
inductive Finding where
  | modules
  | heap
  | locks
  | deadlock
  /-- The threads with their call stacks. -/
  | threads
  | faultingThread
  | exception
  | aot
deriving DecidableEq, Repr, Inhabited

namespace Finding

/-- The commands that threads and their call stacks come from. -/
def threadSources : List String :=
  Commands.threads ++ (Commands.nativeStacks ++ Commands.runtimeStacks)

/-- The commands that a finding comes from. -/
def sources : Finding → List String
  | modules => Commands.modules
  | heap => Commands.heap
  | locks => Commands.locks
  | deadlock => Commands.locks ++ Commands.threads
  | threads => threadSources
  | faultingThread => threadSources
  | exception => Commands.exception
  | aot => threadSources ++ (Commands.modules ++ Commands.exception)

/-- Whether two reports have the same finding. -/
def Agrees (r r' : AnalysisReport) : Finding → Prop
  | modules => r.modules = r'.modules
  | heap => r.heap = r'.heap
  | locks => r.locks = r'.locks
  | deadlock => r.deadlock = r'.deadlock
  | threads => r.threads = r'.threads
  | faultingThread => r.faultingThread = r'.faultingThread
  | exception => r.exception = r'.exception
  | aot => r.aot = r'.aot

end Finding

/-! ## Two runs -/

section Congruence

variable {config : Config} {introspector : Introspector} {outcome outcome' : String → Outcome}

theorem threadTable_congr (h : ∀ s ∈ Commands.threads, outcome s = outcome' s) :
    threadTable outcome = threadTable outcome' :=
  firstReadable_congr _ h

theorem listedThreads_congr (h : ∀ s ∈ Commands.threads, outcome s = outcome' s) :
    listedThreads outcome = listedThreads outcome' := by
  unfold listedThreads
  rw [threadTable_congr h]

theorem shownThreads_congr (h : ∀ s ∈ Finding.threadSources, outcome s = outcome' s) :
    shownThreads config outcome = shownThreads config outcome' := by
  obtain ⟨hlist, hstacks⟩ := List.forall_mem_append.1 h
  obtain ⟨hnative, hruntime⟩ := List.forall_mem_append.1 hstacks
  unfold shownThreads withStacks
  rw [listedThreads_congr hlist, firstReadable_congr _ hnative, firstReadable_congr _ hruntime]

theorem shownModules_congr (h : ∀ s ∈ Commands.modules, outcome s = outcome' s) :
    shownModules outcome = shownModules outcome' := by
  unfold shownModules
  rw [firstReadable_congr _ h]

theorem shownException_congr (h : ∀ s ∈ Commands.exception, outcome s = outcome' s) :
    shownException config introspector outcome = shownException config introspector outcome' := by
  unfold shownException
  rw [firstReadable_congr _ h]

theorem shownHeap_congr (h : ∀ s ∈ Commands.heap, outcome s = outcome' s) :
    TypeSession.shownHeap outcome = TypeSession.shownHeap outcome' := by
  rw [← firstReadable_heap, ← firstReadable_heap, firstReadable_congr _ h]

theorem shownLocks_congr (h : ∀ s ∈ Commands.locks, outcome s = outcome' s) :
    shownLocks outcome = shownLocks outcome' := by
  unfold shownLocks
  rw [firstReadable_congr _ h]

/-- **A finding is a function of what its sources give.** -/
theorem Finding.agrees_of_shows {r r' : AnalysisReport} (f : Finding)
    (hr : r.Shows config introspector outcome) (hr' : r'.Shows config introspector outcome')
    (h : ∀ s ∈ f.sources, outcome s = outcome' s) : f.Agrees r r' := by
  cases f with
  | modules => exact hr.modules.trans ((shownModules_congr h).trans hr'.modules.symm)
  | heap => exact hr.heap.trans ((shownHeap_congr h).trans hr'.heap.symm)
  | locks => exact hr.locks.trans ((shownLocks_congr h).trans hr'.locks.symm)
  | deadlock =>
    obtain ⟨hlocks, hthreads⟩ := List.forall_mem_append.1 h
    show r.deadlock = r'.deadlock
    rw [hr.deadlock, hr'.deadlock]
    unfold shownDeadlock shownStates
    rw [shownLocks_congr hlocks, threadTable_congr hthreads]
  | threads => exact hr.threads.trans ((shownThreads_congr h).trans hr'.threads.symm)
  | faultingThread =>
    show r.faultingThread = r'.faultingThread
    rw [hr.faultingThread, hr'.faultingThread]
    unfold shownFaultingThread
    rw [listedThreads_congr (List.forall_mem_append.1 h).1, shownThreads_congr h]
  | exception => exact hr.exception.trans ((shownException_congr h).trans hr'.exception.symm)
  | aot =>
    obtain ⟨hthreads, hrest⟩ := List.forall_mem_append.1 h
    obtain ⟨hmodules, hexception⟩ := List.forall_mem_append.1 hrest
    show r.aot = r'.aot
    rw [hr.aot, hr'.aot]
    unfold shownAot shownExceptionType
    rw [shownThreads_congr hthreads, shownModules_congr hmodules, shownException_congr hexception]

end Congruence

/-! ## Transcripts with more crashes -/

namespace Transcript

/-- The transcript of a session in which some commands crashed as well. -/
def withCrashes (t : Transcript) (crashed : List String) : Transcript :=
  { t with crashes := t.crashes ++ crashed }

theorem backend_steady (t : Transcript) : t.backend.Steady := by
  intro command message
  show t.reply command ≠ .breakdown message
  unfold reply
  simp only
  split
  · exact Reply.noConfusion
  · split
    · exact Reply.noConfusion
    · split <;> exact Reply.noConfusion

/-- Commands with other keys are answered as before. -/
theorem reply_withCrashes {t : Transcript} {crashed : List String} {command : String}
    (h : ∀ c ∈ crashed, commandKey c ≠ commandKey command) :
    (t.withCrashes crashed).reply command = t.reply command := by
  have hnone : (crashed.any fun c => commandKey c == commandKey command) = false := by
    rw [List.any_eq_false]
    intro c hc heq
    exact h c hc (eq_of_beq heq)
  unfold reply withCrashes
  simp only [List.any_append, hnone, Bool.or_false]

theorem outcome_withCrashes (config : Config) {t : Transcript} {crashed : List String}
    {command : String} (h : ∀ c ∈ crashed, commandKey c ≠ commandKey command) :
    (config.openChannel (t.withCrashes crashed).backend).session.outcome command =
      (config.openChannel t.backend).session.outcome command := by
  show ((t.withCrashes crashed).reply command).outcome command _ =
    (t.reply command).outcome command _
  rw [reply_withCrashes h]
  rfl

end Transcript

/-- Whether no crash has the key of a source of the finding. -/
def Finding.Spared (f : Finding) (crashed : List String) : Prop :=
  ∀ s ∈ f.sources, ∀ c ∈ crashed, commandKey c ≠ commandKey s

instance (f : Finding) (crashed : List String) : Decidable (f.Spared crashed) :=
  inferInstanceAs (Decidable (∀ s ∈ f.sources, ∀ c ∈ crashed, commandKey c ≠ commandKey s))

/-- **Crashes change no finding whose sources they spare, and the analysis comes to its end**, where
the scores fit. -/
theorem analyze_withCrashes {config : Config} (hc : config.isValid = true)
    (introspector : Introspector) (t : Transcript) (crashed : List String)
    (hfits : ShownScoreFits config introspector
      (config.openChannel (t.withCrashes crashed).backend).session.outcome) :
    (analyze config (t.withCrashes crashed).backend introspector).report.isComplete = true ∧
      (ShownScoreFits config introspector (config.openChannel t.backend).session.outcome →
        ∀ f : Finding, f.Spared crashed →
          f.Agrees (analyze config (t.withCrashes crashed).backend introspector).report
            (analyze config t.backend introspector).report) := by
  have hshows := analyze_shows introspector hc (t.withCrashes crashed).backend_steady hfits
  refine ⟨?_, fun hfits' f hf => ?_⟩
  · unfold AnalysisReport.isComplete
    rw [hshows.status]
    rfl
  · exact f.agrees_of_shows hshows (analyze_shows introspector hc t.backend_steady hfits')
      fun s hs => Transcript.outcome_withCrashes config (hf s hs)

/-- A session that lists a heap of one object. -/
def oneObject : Transcript :=
  { commands := ⟨[("dumpheap -stat", "Statistics:\n00002000 1 2 MyApp.Cache\n")]⟩ }

/-- The heap is found although the modules and the stacks are not. -/
theorem analyze_withCrashes_heap :
    Config.isValid {} = true ∧ Finding.heap.Spared ["!lm", "bt  all"] ∧
      (analyze {} (oneObject.withCrashes ["!lm", "bt  all"]).backend
        oneObject.introspector).report.isComplete = true ∧
      (analyze {} (oneObject.withCrashes ["!lm", "bt  all"]).backend
        oneObject.introspector).report.heap =
          (analyze {} oneObject.backend oneObject.introspector).report.heap := by
  have hvalid : Config.isValid {} = true := by decide +kernel
  have hspared : Finding.heap.Spared ["!lm", "bt  all"] := by decide +kernel
  have hfits : ∀ outcome, ShownScoreFits {} oneObject.introspector outcome :=
    fun outcome => shownScoreFits_of_greatestScore _ outcome (by decide +kernel)
  obtain ⟨hcomplete, hagrees⟩ := analyze_withCrashes hvalid oneObject.introspector oneObject
    ["!lm", "bt  all"] (hfits _)
  exact ⟨hvalid, hspared, hcomplete, hagrees (hfits _) .heap hspared⟩

/-- It is not enough that no source is among the crashes, as it may crash under another
spelling. -/
theorem not_agrees_of_notMem :
    ¬ ∀ (config : Config) (objects t : Transcript) (crashed : List String),
      config.isValid = true →
        (analyze config (t.withCrashes crashed).backend objects.introspector).report.isComplete
            = true ∧
          ∀ f : Finding, (∀ s ∈ f.sources, s ∉ crashed) →
            f.Agrees (analyze config (t.withCrashes crashed).backend objects.introspector).report
              (analyze config t.backend objects.introspector).report := by
  intro h
  have hheap := (h {} {} oneObject ["!dumpheap -stat"] (by decide +kernel)).2 .heap
    (by decide +kernel)
  have hdiffers : (analyze {} (oneObject.withCrashes ["!dumpheap -stat"]).backend
      (Transcript.introspector {})).report.heap ≠
        (analyze {} oneObject.backend (Transcript.introspector {})).report.heap := by
    decide +kernel
  exact hdiffers hheap

end Postmortem
