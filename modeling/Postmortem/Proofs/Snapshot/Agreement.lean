import Postmortem.Proofs.Analysis.Completion
import Postmortem.Proofs.Stack.Attribution
import Postmortem.Snapshot.Capture

/-!
# Snapshots agree with reports

A snapshot is captured by three fetches in a row. A full analysis asks more commands, in another
order, may list the heap while it diagnoses a missing type, and gives its threads call stacks. Both
show of one process what its commands show (`fetchSnapshot_fst`, `analyze_shows`), and the threads
that have got their call stacks are still the listed ones. But a snapshot has no score that could
overflow, and a report that failed for it shows nothing.

* `agreesWith_of_shows`: a snapshot of what commands show agrees with every report of it.
* `captureSnapshot_agreesWith`: **a captured snapshot agrees with the report of a full analysis iff
  the score of the analysis fits**, or nothing was captured.
* `not_agreesWith_of_heavyWeight`: under a heavy weight, they may disagree.
-/

namespace Postmortem

/-- **A snapshot that tells the same as a report**: the same heap and modules, and threads that
come first among those of the report, where they have call stacks. -/
structure Snapshot.AgreesWith (snapshot : Snapshot) (report : AnalysisReport) : Prop where
  heap : report.heap = snapshot.heap
  modules : report.modules = snapshot.modules
  threads : ∀ (i : ℕ) (listed : Thread), snapshot.threads[i]? = some listed →
    ∃ reported, report.threads[i]? = some reported ∧ reported.Continues listed

/-- The snapshot that the outcomes of commands show. -/
def shownSnapshot (outcome : String → Outcome) : Snapshot where
  heap := TypeSession.shownHeap outcome
  threads := listedThreads outcome
  modules := shownModules outcome

theorem Channel.fetch_fst {α : Type} (read? : String → Option α) (commands : List String)
    (channel : Channel) : (Channel.fetch read? commands channel).1 =
      (firstReadable read? channel.session.outcome commands).map Prod.snd := by
  rw [← Channel.fetchText_fst]
  rfl

theorem Channel.outcome_fetch {α : Type} (read? : String → Option α) (commands : List String)
    (channel : Channel) :
    (Channel.fetch read? commands channel).2.session.outcome = channel.session.outcome :=
  Session.outcome_congr (Channel.setup_fetchText read? commands channel)

/-- **The three fetches find what their commands show**, whatever was run before. -/
theorem fetchSnapshot_fst (channel : Channel) :
    (fetchSnapshot channel).1 = shownSnapshot channel.session.outcome := by
  have hheap := Channel.fetch_fst HeapHistogram.ofListing? Commands.heap channel
  have houtcome := Channel.outcome_fetch HeapHistogram.ofListing? Commands.heap channel
  set channel₁ := (Channel.fetch HeapHistogram.ofListing? Commands.heap channel).2
  have hthreads := Channel.fetch_fst Thread.ofListing? Commands.threads channel₁
  have houtcome₁ := Channel.outcome_fetch Thread.ofListing? Commands.threads channel₁
  set channel₂ := (Channel.fetch Thread.ofListing? Commands.threads channel₁).2
  have hmodules := Channel.fetch_fst LoadedModule.ofListing? Commands.modules channel₂
  rw [firstReadable_heap] at hheap
  rw [houtcome] at hthreads
  rw [houtcome₁, houtcome] at hmodules
  have hgetD : ∀ {β : Type} (found : Option (String × List β)),
      (found.map Prod.snd).getD [] = found.elim [] Prod.snd := by
    intro β found
    cases found <;> rfl
  have hsnapshot : (fetchSnapshot channel).1 =
      { heap := (Channel.fetch HeapHistogram.ofListing? Commands.heap channel).1
        threads := (Channel.fetch Thread.ofListing? Commands.threads channel₁).1.getD []
        modules := (Channel.fetch LoadedModule.ofListing? Commands.modules channel₂).1.getD [] } :=
    rfl
  rw [hsnapshot, hheap, hthreads, hmodules, hgetD, hgetD]
  rfl

/-- **A snapshot of what commands show agrees with every report of it.** -/
theorem Snapshot.agreesWith_of_shows {config : Config} {introspector : Introspector}
    {outcome : String → Outcome} {report : AnalysisReport}
    (h : report.Shows config introspector outcome) :
    (shownSnapshot outcome).AgreesWith report := by
  refine ⟨h.heap, h.modules, fun i listed hi => ?_⟩
  rw [h.threads]
  exact correlate_continues config.stackLayout _ _ hi

/-- A snapshot agrees with a failed report iff it is empty. -/
theorem Snapshot.agreesWith_failure_iff {snapshot : Snapshot} {message : String} :
    snapshot.AgreesWith (.failure message) ↔ snapshot = {} := by
  constructor
  · intro h
    have hheap : snapshot.heap = none := h.heap.symm
    have hmodules : snapshot.modules = [] := h.modules.symm
    have hthreads : snapshot.threads = [] := by
      cases hlist : snapshot.threads with
      | nil => rfl
      | cons listed rest =>
        obtain ⟨reported, hreported, -⟩ := h.threads 0 listed (by rw [hlist]; rfl)
        cases hreported
    cases snapshot
    cases hheap
    cases hmodules
    cases hthreads
    rfl
  · rintro rfl
    exact ⟨rfl, rfl, fun i listed hi => by cases hi⟩

/-- **A captured snapshot agrees with the report of a full analysis iff the score of the analysis
fits**, or nothing was captured; for every transcript, every introspector and every valid
configuration. -/
theorem captureSnapshot_agreesWith {config : Config} (hc : config.isValid = true)
    (introspector : Introspector) (t : Transcript) :
    (captureSnapshot config t.backend).snapshot.AgreesWith
        (analyze config t.backend introspector).report ↔
      ShownScoreFits config introspector (config.openChannel t.backend).session.outcome ∨
        (captureSnapshot config t.backend).snapshot = {} := by
  by_cases hfits : ShownScoreFits config introspector (config.openChannel t.backend).session.outcome
  · have hsnapshot : (captureSnapshot config t.backend).snapshot =
        shownSnapshot (config.openChannel t.backend).session.outcome := fetchSnapshot_fst _
    refine iff_of_true ?_ (.inl hfits)
    rw [hsnapshot]
    exact Snapshot.agreesWith_of_shows (analyze_shows introspector hc t.backend_steady hfits)
  · obtain ⟨-, overflow, hreport, -⟩ := analyze_overflows introspector hc t.backend_steady hfits
    rw [hreport, Snapshot.agreesWith_failure_iff, or_iff_right hfits]

/-- A session that shows an exception about a field of a generic type, a thread and the heap. -/
def missingGenericField : Transcript where
  commands := ⟨[
    ("clrthreads",
      "ID OSID ThreadOBJ\n0 1 2a3c 000001D4A1B2C3D0 2a020 Preemptive 0:0 0 -1 MTA (Finalizer)\n"),
    ("dumpheap -stat", "Statistics:\n00002000 1 2 Cache`1[[Key]]\n"),
    ("image list", "[0] 0x1000 /app/App.dll\n"),
    ("printexception -nested",
      "Exception type: MissingFieldException\nMessage: Field not found: 'Cache<Key>.F'")]⟩

/-- The analysis lists the heap for its diagnosis, the snapshot before anything else. -/
theorem captureSnapshot_agreesWith_missingGenericField :
    Config.isValid {} = true ∧
      (captureSnapshot {} missingGenericField.backend).snapshot.heap.isSome = true ∧
      (captureSnapshot {} missingGenericField.backend).snapshot.threads.map (·.name) =
        [some "Finalizer"] ∧
      (captureSnapshot {} missingGenericField.backend).snapshot.AgreesWith
        (analyze {} missingGenericField.backend missingGenericField.introspector).report := by
  have hvalid : Config.isValid {} = true := by decide +kernel
  have hfits : ShownScoreFits {} missingGenericField.introspector
      (Config.openChannel {} missingGenericField.backend).session.outcome :=
    shownScoreFits_of_greatestScore _ _ (by decide +kernel)
  exact ⟨hvalid, by decide +kernel, by decide +kernel,
    (captureSnapshot_agreesWith hvalid _ missingGenericField).2 (.inl hfits)⟩

/-- The module that the snapshot lists is not in the failed report. -/
theorem not_agreesWith_of_heavyWeight :
    ¬ ∀ (config : Config) (objects t : Transcript), config.isValid = true →
      (captureSnapshot config t.backend).snapshot.AgreesWith
        (analyze config t.backend objects.introspector).report := by
  intro h
  let heavy : Config := { evidenceWeights := { perIndicator := 4294967291 } }
  have hmodules := (h heavy {} compiledAhead (by decide +kernel)).modules
  have hdiffers :
      (analyze heavy compiledAhead.backend (Transcript.introspector {})).report.modules ≠
        (captureSnapshot heavy compiledAhead.backend).snapshot.modules := by decide +kernel
  exact hdiffers hmodules

end Postmortem
