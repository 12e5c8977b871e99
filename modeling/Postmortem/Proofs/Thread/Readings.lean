import Postmortem.Proofs.Thread.Waits
import Postmortem.Snapshot.ThreadDiff
import Postmortem.Thread.Listing

/-!
# Two readings of a thread listing

A thread listing is read twice: for its threads and for who of them waits. Both readings go by the
same rows, fall back to the other form of listings together, and name a thread alike.

In the runtime's table the one reading takes the wait from two bits of the state, while the
comparison of snapshots finds it in the names of all the bits that the other reading has printed.

* `isWaiting_thread`: these are the same for every row, whatever stands in its state column.
* `readings_agree`: **the two readings of a listing agree.**
-/

namespace Postmortem

/-! ## Optional lists that correspond -/

section Correspondence

variable {α β : Type} {r : α → β → Prop} {x x' : Option (List α)} {y y' : Option (List β)}

/-- Lists that correspond are empty together. -/
theorem nonEmpty?_rel {xs : List α} {ys : List β} (h : List.Forall₂ r xs ys) :
    Option.Rel (List.Forall₂ r) (nonEmpty? xs) (nonEmpty? ys) := by
  cases h with
  | nil => exact .none
  | cons hhead htail => exact .some (.cons hhead htail)

theorem ite_rel (p : Prop) [Decidable p] (h : Option.Rel (List.Forall₂ r) x y) :
    Option.Rel (List.Forall₂ r) (if p then x else none) (if p then y else none) := by
  split
  · exact h
  · exact .none

/-- What corresponds falls back together. -/
theorem orElse_rel (h : Option.Rel (List.Forall₂ r) x y)
    (h' : Option.Rel (List.Forall₂ r) x' y') :
    Option.Rel (List.Forall₂ r) (x <|> x') (y <|> y') := by
  cases h with
  | some hlists => exact .some hlists
  | none => exact h'

theorem isSome_and_forall₂_of_rel (h : Option.Rel (List.Forall₂ r) x y) :
    y.isSome = x.isSome ∧ List.Forall₂ r (x.getD []) (y.getD []) := by
  cases h with
  | some hlists => exact ⟨rfl, hlists⟩
  | none => exact ⟨rfl, .nil⟩

end Correspondence

/-! ## Threads and their wait flags -/

/-- The wait flag is under the id of the thread: its OS id, or else its own. -/
def Flags (thread : Thread) (state : ThreadState) : Prop :=
  state.thread = thread.osThreadId.getD thread.id

/-- Rows of the runtime's table are read alike. -/
theorem RuntimeTable.forall₂_flags (rows : List Row) :
    List.Forall₂ Flags (rows.map Row.thread) (rows.map Row.threadState) := by
  rw [List.forall₂_map_left_iff, List.forall₂_map_right_iff, List.forall₂_same]
  exact fun _ _ => rfl

/-- So are entries of the native list: where the process stopped makes no difference to the ids. -/
theorem NativeList.forall₂_flags (entries : List Entry) :
    List.Forall₂ Flags (threads entries) (entries.map Entry.threadState) := by
  unfold threads
  rw [List.forall₂_map_left_iff, List.forall₂_map_right_iff, List.forall₂_same]
  exact fun _ _ => rfl

/-- **The two readings of a listing fall back together, and name the threads alike.** -/
theorem ofListing?_rel (text : String) : Option.Rel (List.Forall₂ Flags)
    (Thread.ofListing? text) (ThreadState.ofListing? text) :=
  orElse_rel (ite_rel _ (nonEmpty?_rel (RuntimeTable.forall₂_flags _)))
    (ite_rel _ (nonEmpty?_rel (NativeList.forall₂_flags _)))

namespace RuntimeTable

/-- **The printed state of a thread names a wait iff one of the waiting bits is set.** A thread
without any bits runs. -/
theorem isWaiting_thread (row : Row) : row.thread.isWaiting = row.threadState.waiting := by
  have hstate : mentionsWait row.thread.state = isWaitingState row.stateBits := by
    show mentionsWait (", ".intercalate _) = _
    rw [mentionsWait_intercalate, ← mentionsWait_describeState]
    by_cases hnone : (describeState row.stateBits).isEmpty = true
    · rw [if_pos hnone, List.isEmpty_iff.1 hnone]
      decide +kernel
    · rw [if_neg hnone]
  -- a row has no frames, so only the state can name a wait
  show (mentionsWait row.thread.state || false) = isWaitingState row.stateBits
  rw [Bool.or_false, hstate]

/-- A text is read as the runtime's table: it looks like one and has rows. -/
def Reads (text : String) : Prop := isTable text = true ∧ rows text ≠ []

theorem ofListing?_of_reads {text : String} (h : Reads text) :
    Thread.ofListing? text = some ((rows text).map Row.thread) ∧
      ThreadState.ofListing? text = some ((rows text).map Row.threadState) := by
  have hsome : ∀ {α : Type} (f : Row → α),
      nonEmpty? ((rows text).map f) = some ((rows text).map f) := by
    intro α f
    obtain ⟨row, rest, hrows⟩ := List.exists_cons_of_ne_nil h.2
    rw [hrows]
    rfl
  unfold Thread.ofListing? ThreadState.ofListing?
  rw [if_pos h.1, if_pos h.1, hsome, hsome]
  exact ⟨rfl, rfl⟩

end RuntimeTable

/-- **The two readings of a thread listing agree.** -/
theorem readings_agree (text : String) :
    (ThreadState.ofListing? text).isSome = (Thread.ofListing? text).isSome ∧
    List.Forall₂ (fun thread state => state.thread = thread.osThreadId.getD thread.id)
      ((Thread.ofListing? text).getD []) ((ThreadState.ofListing? text).getD []) ∧
    (RuntimeTable.Reads text →
      List.Forall₂ (fun thread state => state.waiting = thread.isWaiting)
        ((Thread.ofListing? text).getD []) ((ThreadState.ofListing? text).getD [])) := by
  obtain ⟨hsome, hflags⟩ := isSome_and_forall₂_of_rel (ofListing?_rel text)
  refine ⟨hsome, hflags, fun hreads => ?_⟩
  obtain ⟨hthreads, hstates⟩ := RuntimeTable.ofListing?_of_reads hreads
  rw [hthreads, hstates, Option.getD_some, Option.getD_some, List.forall₂_map_left_iff,
    List.forall₂_map_right_iff, List.forall₂_same]
  exact fun row _ => (RuntimeTable.isWaiting_thread row).symm

/-- A thread in an interruptible wait, and one whose state does not fit in 32 bits. -/
theorem readings_agree_states :
    let text := "OSID ThreadOBJ\n" ++
      "3 2c10 000001D4 3021220 Preemptive 0:0 0 0 MTA\n" ++
      "4 2d00 000001D5 202000000 Preemptive 0:0 0 0 MTA\n"
    RuntimeTable.Reads text ∧
      ((ThreadState.ofListing? text).getD []).map ThreadState.waiting = [true, false] ∧
      List.Forall₂ (fun thread state => state.waiting = thread.isWaiting)
        ((Thread.ofListing? text).getD []) ((ThreadState.ofListing? text).getD []) := by
  intro text
  have hreads : RuntimeTable.Reads text := ⟨by decide +kernel, by decide +kernel⟩
  exact ⟨hreads, by decide +kernel, (readings_agree text).2.2 hreads⟩

end Postmortem
