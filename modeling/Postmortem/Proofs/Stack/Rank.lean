import Mathlib.Tactic
import Postmortem.Stack.Merge

/-!
# Ranks of frames

A known rank is never estimated away, and it orders frames as their stack pointers
do. The frames of one list all get a rank or none of them does.

* `rank_le_rank_iff`: ranks order stack pointers from the inside out, whichever way
  stacks grow.
* `estimate_of_mem`: at a position whose rank is known, the estimate is that rank.
* `normalize_inOrder`: the normal form of every list of frames is in order
  (`InOrder`).
-/

namespace Postmortem

/-- Whether the first stack pointer is at most as far out on the stack as the second. -/
def StackGrowth.Inward : StackGrowth → Address → Address → Prop
  | .downward, a, b => a.value ≤ b.value
  | .upward, a, b => b.value ≤ a.value

namespace StackLayout

variable {layout : StackLayout} {known : List (ℕ × ℕ)} {frames : List Frame}

theorem toNat_le_maxAddress (a : Address) : a.toNat ≤ maxAddress := by
  have := a.value.toNat_lt
  unfold maxAddress Address.toNat
  omega

/-- **Ranks order stack pointers from the inside out.** -/
theorem rank_le_rank_iff (a b : Address) :
    layout.rank a ≤ layout.rank b ↔ layout.growth.Inward a b := by
  have ha := toNat_le_maxAddress a
  have hb := toNat_le_maxAddress b
  unfold rank StackGrowth.Inward
  cases layout.growth with
  | downward => simp only [UInt64.le_iff_toNat_le]; rfl
  | upward =>
    simp only [UInt64.le_iff_toNat_le]
    unfold Address.toNat at *
    omega

/-! ## Known ranks -/

theorem mem_knownRanks {i r : ℕ} :
    (i, r) ∈ layout.knownRanks frames ↔
      ∃ f, frames[i]? = some f ∧ layout.rankOf f = some r := by
  unfold knownRanks
  rw [List.mem_filterMap]
  constructor
  · rintro ⟨⟨f, j⟩, hf, hr⟩
    obtain ⟨s, hs, he⟩ := Option.map_eq_some_iff.1 hr
    cases he
    exact ⟨f, List.mem_zipIdx_iff_getElem?.1 hf, hs⟩
  · rintro ⟨f, hf, hr⟩
    exact ⟨(f, i), List.mem_zipIdx_iff_getElem?.2 hf, by simp [hr]⟩

/-- The known ranks are listed by position. -/
theorem knownRanks_pairwise (frames : List Frame) :
    (layout.knownRanks frames).Pairwise fun p q => p.1 < q.1 := by
  have h : frames.zipIdx.Pairwise fun p q => p.2 < q.2 := by
    rw [← List.pairwise_map (f := Prod.snd) (R := (· < ·)), List.zipIdx_map_snd]
    exact List.pairwise_lt_range'
  refine h.filterMap _ fun p q hpq p' hp q' hq => ?_
  obtain ⟨r, -, rfl⟩ := Option.map_eq_some_iff.1 hp
  obtain ⟨s, -, rfl⟩ := Option.map_eq_some_iff.1 hq
  exact hpq

/-! ## Estimates -/

/-- **A known rank is its own estimate.** -/
theorem estimate_of_mem (hs : known.Pairwise fun p q => p.1 < q.1) {i r : ℕ}
    (h : (i, r) ∈ known) : layout.estimate known i = some r := by
  obtain ⟨below, above, rfl⟩ := List.append_of_mem h
  obtain ⟨-, ha, hb⟩ := List.pairwise_append.1 hs
  have hbelow : ∀ p ∈ below, p.1 < i := fun p hp => hb p hp (i, r) List.mem_cons_self
  have habove : ∀ p ∈ above, i < p.1 := fun p hp => (List.pairwise_cons.1 ha).1 p hp
  -- both searches stop at the position itself
  have hup : (below ++ (i, r) :: above).find? (fun p => i ≤ p.1) = some (i, r) := by
    refine List.find?_eq_some_iff_append.2 ⟨by simp, below, above, rfl, fun p hp => ?_⟩
    simpa using hbelow p hp
  have hdown : (below ++ (i, r) :: above).reverse.find? (fun p => p.1 ≤ i) = some (i, r) := by
    refine List.find?_eq_some_iff_append.2
      ⟨by simp, above.reverse, below.reverse, by simp, fun p hp => ?_⟩
    simpa using habove p (List.mem_reverse.1 hp)
  unfold estimate
  rw [hdown, hup]
  simp

/-- There is an estimate wherever any rank is known. -/
theorem estimate_eq_none_iff {i : ℕ} : layout.estimate known i = none ↔ known = [] := by
  constructor
  · intro h
    have hfind : known.reverse.find? (fun p => p.1 ≤ i) = none ∧
        known.find? (fun p => i ≤ p.1) = none := by
      unfold estimate at h
      split at h
      · split at h <;> cases h
      · cases h
      · cases h
      · exact ⟨‹_›, ‹_›⟩
    rw [List.eq_nil_iff_forall_not_mem]
    intro p hp
    have hlow := List.find?_eq_none.1 hfind.1 p (List.mem_reverse.2 hp)
    have hhigh := List.find?_eq_none.1 hfind.2 p hp
    simp only [decide_eq_true_eq, not_le] at hlow hhigh
    omega
  · rintro rfl
    rfl

/-! ## Normal forms -/

theorem mem_withRanks {f : RankedFrame} :
    f ∈ layout.withRanks frames ↔
      ∃ i, frames[i]? = some f.frame ∧ f.rank = layout.estimate (layout.knownRanks frames) i := by
  unfold withRanks
  rw [List.mem_map]
  constructor
  · rintro ⟨⟨g, i⟩, hg, rfl⟩
    exact ⟨i, List.mem_zipIdx_iff_getElem?.1 hg, rfl⟩
  · rintro ⟨i, hi, hr⟩
    exact ⟨(f.frame, i), List.mem_zipIdx_iff_getElem?.2 hi, by simp only [← hr]⟩

/-- A frame with a known rank is given that rank. -/
theorem rank_of_mem_withRanks {f : RankedFrame} (hf : f ∈ layout.withRanks frames) {r : ℕ}
    (hr : layout.rankOf f.frame = some r) : f.rank = some r := by
  obtain ⟨i, hi, he⟩ := mem_withRanks.1 hf
  rw [he]
  exact estimate_of_mem (knownRanks_pairwise frames) (mem_knownRanks.2 ⟨f.frame, hi, hr⟩)

/-- One frame without a rank means that no frame has one. -/
theorem rank_eq_none_of_mem_withRanks {f g : RankedFrame} (hf : f ∈ layout.withRanks frames)
    (hg : g ∈ layout.withRanks frames) (hr : f.rank = none) : g.rank = none := by
  obtain ⟨i, -, hi⟩ := mem_withRanks.1 hf
  obtain ⟨j, -, hj⟩ := mem_withRanks.1 hg
  rw [hj, estimate_eq_none_iff]
  exact estimate_eq_none_iff.1 (hi.symm.trans hr)

/-- **Frames in order**: a known rank is the rank of its frame, and no rank is above a
later one. -/
structure InOrder (layout : StackLayout) (ranked : List RankedFrame) : Prop where
  known : ∀ f ∈ ranked, ∀ r, layout.rankOf f.frame = some r → f.rank = some r
  sorted : (ranked.filterMap RankedFrame.rank).Pairwise (· ≤ ·)

/-- **Normal forms are in order**, whatever the frames are. -/
theorem normalize_inOrder (frames : List Frame) : layout.InOrder (layout.normalize frames) := by
  unfold normalize
  set ranked := layout.withRanks (layout.inward frames)
  -- the frames are sorted only if every one of them has a rank
  by_cases hall : ranked.all (·.rank.isSome) = true
  · simp only [if_pos hall]
    refine ⟨fun f hf r hr => ?_, ?_⟩
    · exact rank_of_mem_withRanks ((List.mergeSort_perm _ _).mem_iff.1 hf) hr
    · have hsort := @List.pairwise_mergeSort RankedFrame (fun a b => a.rank.getD 0 ≤ b.rank.getD 0)
        (fun a b c => by simp only [decide_eq_true_eq]; omega)
        (fun a b => by simp only [Bool.or_eq_true, decide_eq_true_eq]; omega) ranked
      refine hsort.filterMap _ fun a b hab r hr s hs => ?_
      simpa [hr, hs] using hab
  · simp only [if_neg hall]
    obtain ⟨f, hf, hnone⟩ : ∃ f ∈ ranked, f.rank = none := by simpa using hall
    have hempty : ranked.filterMap RankedFrame.rank = [] :=
      List.filterMap_eq_nil_iff.2 fun g hg => rank_eq_none_of_mem_withRanks hf hg hnone
    exact ⟨fun g hg r hr => rank_of_mem_withRanks hg hr, by rw [hempty]; exact List.Pairwise.nil⟩

/-- The stack pointers of frames in order lead from the inside out. -/
theorem InOrder.stackPointers {ranked : List RankedFrame} (h : layout.InOrder ranked) :
    ((ranked.map RankedFrame.frame).filterMap Frame.stackPointer).Pairwise
      layout.growth.Inward := by
  have hrank : ∀ f ∈ ranked, ∀ sp, f.frame.stackPointer = some sp →
      f.rank = some (layout.rank sp) := by
    intro f hf sp hsp
    exact h.known f hf _ (by unfold rankOf; rw [hsp]; rfl)
  have hs := List.pairwise_filterMap.1 h.sorted
  rw [List.filterMap_map, List.pairwise_filterMap]
  refine hs.imp_of_mem fun {f g} hf hg hfg a ha b hb => ?_
  exact (rank_le_rank_iff a b).1 (hfg _ (hrank f hf a ha) _ (hrank g hg b hb))

end StackLayout

end Postmortem
