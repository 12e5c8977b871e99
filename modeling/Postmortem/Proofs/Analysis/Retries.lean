import Postmortem.Proofs.Analysis.Course
import Postmortem.Proofs.Analysis.CrashIsolation

/-!
# Commands that failed are not run again

A transcript knows a command by its key, and the commands of an analysis have different
keys (`nodup_commandKeys`). So a failed command could only be run again if the analysis had
two reasons to run it. The heap is the one kind of data with two: the diagnosis of a generic
type lists it, and the heap stage lists it again unless the diagnosis left a heap behind, or the
analysis ended in between with a score that overflowed.

* `nodup_failed_course`: apart from that, the failed commands of an analysis have different keys.
* `analyze_noRetry_iff`: **no failed command is run again iff the diagnosis does not list a
  heap that cannot be listed**, or ends the analysis.
-/

namespace Postmortem

/-- No command is run again after it failed. -/
def Session.NoRetry (s : Session) : Prop :=
  s.executed.Pairwise fun earlier later =>
    (s.outcome earlier).isFailed = true → commandKey later ≠ commandKey earlier

instance (s : Session) : Decidable s.NoRetry := inferInstanceAs (Decidable (List.Pairwise _ _))

/-! ## Keys of commands -/

/-- What the transcript says about a command depends on the key of the command. -/
theorem Transcript.reply_congr (t : Transcript) {a b : String} (h : commandKey a = commandKey b) :
    t.reply a = t.reply b := by
  unfold reply
  rw [h]

theorem Reply.isFailed_outcome (reply : Reply) (a b : String) (timeout : Duration) :
    (reply.outcome a timeout).isFailed = (reply.outcome b timeout).isFailed := by
  rcases reply with text | cause | message
  · rfl
  · cases cause <;> rfl
  · rfl

/-- Whether a command fails depends on the key of the command. -/
theorem Transcript.isFailed_congr (config : Config) (t : Transcript) {a b : String}
    (h : commandKey a = commandKey b) :
    ((config.openChannel t.backend).session.outcome a).isFailed =
      ((config.openChannel t.backend).session.outcome b).isFailed := by
  show ((t.reply a).outcome a _).isFailed = ((t.reply b).outcome b _).isFailed
  rw [t.reply_congr h, Reply.isFailed_outcome]

/-! ## Failed commands -/

section Failed

variable {config : Config} {introspector : Introspector} {outcome : String → Outcome}

/-- Whether the heap is listed twice, and fails: the diagnosis lists it, and so does the heap
stage. -/
def ListsFailingHeap (config : Config) (introspector : Introspector)
    (outcome : String → Outcome) : Prop :=
  ShownScoreFits config introspector outcome ∧
    diagnosisListsHeap config introspector outcome = true ∧
      (outcome TypeSession.heapCommand).isFailed = true

/-- **The failed commands of an analysis have different keys**, unless it lists a failing heap
twice. -/
theorem nodup_failed_course (h : ¬ ListsFailingHeap config introspector outcome) :
    (((course config introspector outcome).filter
      fun command => (outcome command).isFailed).map commandKey).Nodup := by
  by_cases hfits : ShownScoreFits config introspector outcome
  · -- each failed command is one of a stage or a look-up
    obtain ⟨typeName, methodTable, hlookUps⟩ := lookUps_sublist config introspector outcome
    have hsub : ((course config introspector outcome).filter
        fun command => (outcome command).isFailed).Sublist
          (Commands.early ++ [TypeSession.lookUpCommand typeName,
            TypeSession.membersCommand methodTable] ++ Commands.late) := by
      unfold course
      rw [List.filter_append, List.filter_append,
        filter_diagnosisCommands fun hheap => h ⟨hfits, hheap⟩]
      exact ((List.filter_sublist.trans commandsBefore_sublist).append
        (List.filter_sublist.trans hlookUps)).append
          (List.filter_sublist.trans commandsBehind_sublist)
    exact (hsub.map commandKey).nodup (nodup_commandKeys typeName methodTable)
  · -- nothing is run behind the diagnosis, so that the heap is listed once
    obtain ⟨typeName, methodTable, hasked⟩ := diagnosisCommands_sublist config introspector outcome
    have hnone : commandsBehind config introspector outcome = [] := if_neg hfits
    have hsub : ((course config introspector outcome).filter
        fun command => (outcome command).isFailed).Sublist
          (Commands.early ++ [TypeSession.lookUpCommand typeName, TypeSession.heapCommand,
            TypeSession.membersCommand methodTable] ++ Commands.locks) := by
      unfold course
      rw [hnone, List.append_nil]
      exact (List.filter_sublist.trans (commandsBefore_sublist.append hasked)).trans
        (List.sublist_append_left _ _)
    have hperm : (Commands.early ++ [TypeSession.lookUpCommand typeName, TypeSession.heapCommand,
        TypeSession.membersCommand methodTable] ++ Commands.locks).Perm
          (Commands.early ++ [TypeSession.lookUpCommand typeName,
            TypeSession.membersCommand methodTable] ++ Commands.late) := by
      rw [List.append_assoc, List.append_assoc]
      exact (((List.Perm.swap _ _ []).cons _).append_right Commands.locks).append_left _
    exact (hsub.map commandKey).nodup
      ((hperm.map commandKey).nodup_iff.2 (nodup_commandKeys typeName methodTable))

/-- A heap that cannot be listed is listed twice if the diagnosis lists it. -/
theorem heapCommand_twice (h : ListsFailingHeap config introspector outcome) :
    [TypeSession.heapCommand, TypeSession.heapCommand].Sublist
      ((course config introspector outcome).filter fun command => (outcome command).isFailed) := by
  obtain ⟨hfits, hlists, hfailed⟩ := h
  have hdiagnosis : TypeSession.heapCommand ∈ diagnosisCommands config introspector outcome :=
    mem_diagnosisCommands.2 (.inr ⟨hlists, rfl⟩)
  have hshown : TypeSession.shownHeap outcome = none := by
    unfold TypeSession.shownHeap
    cases hout : outcome TypeSession.heapCommand <;> simp_all [Outcome.isFailed, Outcome.output?]
  have hbehind := heapCommand_mem_commandsBehind hfits hlists hshown
  have hkept : [TypeSession.heapCommand, TypeSession.heapCommand] =
      [TypeSession.heapCommand, TypeSession.heapCommand].filter
        fun command => (outcome command).isFailed := by
    simp [hfailed]
  rw [hkept]
  refine List.Sublist.filter _ ?_
  unfold course
  exact ((List.singleton_sublist.2 hdiagnosis).trans
    (List.sublist_append_right _ _)).append (List.singleton_sublist.2 hbehind)

end Failed

/-- Whether a command is run again after it failed shows in the failed commands. -/
theorem noRetry_iff (config : Config) (t : Transcript) (commands : List String) :
    ((config.openChannel t.backend).session.after commands).NoRetry ↔
      ((commands.filter fun command =>
        ((config.openChannel t.backend).session.outcome command).isFailed).map commandKey).Nodup := by
  unfold Session.NoRetry List.Nodup
  rw [List.pairwise_map, List.pairwise_filter]
  show commands.Pairwise _ ↔ _
  refine List.Pairwise.iff fun earlier later => ?_
  simp only [Session.outcome_after]
  constructor
  · intro h hfailed _ hkey
    exact h hfailed hkey.symm
  · intro h hfailed hkey
    exact h hfailed ((t.isFailed_congr config hkey).trans hfailed) hkey.symm

/-- **No failed command is run again, and none is in the crash log twice, iff the diagnosis
does not list a heap that cannot be listed**, or the analysis ends with it. -/
theorem analyze_noRetry_iff {config : Config} (hc : config.isValid = true)
    (introspector : Introspector) (t : Transcript) :
    let outcome := (config.openChannel t.backend).session.outcome
    let run := analyze config t.backend introspector
    (run.session.NoRetry ↔ ¬ ListsFailingHeap config introspector outcome) ∧
      ((run.report.crashLog.map CrashRecord.command).Nodup ↔
        ¬ ListsFailingHeap config introspector outcome) := by
  intro outcome run
  have hgood : ¬ ListsFailingHeap config introspector outcome →
      (((course config introspector outcome).filter
        fun command => (outcome command).isFailed).map commandKey).Nodup := nodup_failed_course
  have hbad : ((course config introspector outcome).filter
      fun command => (outcome command).isFailed).Nodup →
        ¬ ListsFailingHeap config introspector outcome :=
    fun hnodup h => List.nodup_iff_sublist.1 hnodup _ (heapCommand_twice h)
  have hnoRetry : run.session.NoRetry ↔ ¬ ListsFailingHeap config introspector outcome := by
    show (analyze config t.backend introspector).session.NoRetry ↔ _
    rw [analyze_session introspector hc t.backend_steady, noRetry_iff]
    exact ⟨fun h => hbad h.of_map, hgood⟩
  refine ⟨hnoRetry, ?_⟩
  by_cases hfits : ShownScoreFits config introspector outcome
  · obtain ⟨-, hlog, -⟩ := analyze_reports introspector hc t.backend_steady hfits
    rw [hlog, map_command_failures]
    exact ⟨hbad, fun h => (hgood h).of_map⟩
  · -- a failed report has an empty crash log
    obtain ⟨-, overflow, hreport, -⟩ := analyze_overflows introspector hc t.backend_steady hfits
    rw [hreport]
    exact iff_of_true List.nodup_nil fun h => hfits h.1

/-- A session that shows an exception about a field of a type, and crashes when it lists its
heap. -/
def withoutHeap (typeName : String) : Transcript :=
  { commands := ⟨[("printexception -nested",
      "Exception type: MissingFieldException\nMessage: Field not found: '" ++ typeName ++ ".F'")]⟩
    crashes := ["dumpheap -stat"] }

/-- The type is not generic, so its diagnosis does not need the heap. -/
theorem analyze_noRetry_plainType :
    Config.isValid {} = true ∧
      (analyze {} (withoutHeap "Cache").backend Introspector.none).session.NoRetry ∧
      ((analyze {} (withoutHeap "Cache").backend
        Introspector.none).report.crashLog.map CrashRecord.command).Nodup := by
  have hvalid : Config.isValid {} = true := by decide +kernel
  have hiff := analyze_noRetry_iff hvalid Introspector.none (withoutHeap "Cache")
  have hplain : diagnosisListsHeap {} Introspector.none
      (Config.openChannel {} (withoutHeap "Cache").backend).session.outcome = false := by
    decide +kernel
  have hnot : ¬ ListsFailingHeap {} Introspector.none
      (Config.openChannel {} (withoutHeap "Cache").backend).session.outcome := by
    rintro ⟨-, h, -⟩
    rw [hplain] at h
    cases h
  exact ⟨hvalid, hiff.1.2 hnot, hiff.2.2 hnot⟩

/-- The diagnosis of a generic type lists the heap, which crashes, and so does the heap stage. -/
theorem not_noRetry_of_genericType :
    ¬ ∀ (config : Config) (objects t : Transcript), config.isValid = true →
      (analyze config t.backend objects.introspector).session.NoRetry ∧
        ((analyze config t.backend objects.introspector).report.crashLog.map
          CrashRecord.command).Nodup := by
  intro h
  have hnodup := (h {} {} (withoutHeap "Cache<Key>") (by decide +kernel)).2
  have htwice : ((analyze {} (withoutHeap "Cache<Key>").backend
      (Transcript.introspector {})).report.crashLog.map CrashRecord.command) =
        ["dumpheap -stat", "dumpheap -stat"] := by decide +kernel
  rw [htwice] at hnodup
  exact absurd hnodup (by decide)

end Postmortem
