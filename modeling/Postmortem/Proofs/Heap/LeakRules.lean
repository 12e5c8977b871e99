import Postmortem.Proofs.Heap.Balance

/-!
# The leak rules

Two rules say when the growth of a heap looks like a leak. A type is suspected if it has grown
beyond the threshold of a pattern for its name. The confidence depends on the growth of the whole
heap and on the number of suspected types.

Counters and thresholds are unsigned, but they are compared as signed numbers. A difference stops
at the limits of the signed range (`signedDelta`), and a threshold wraps around
(`signedThreshold`).

* `mem_suspects_iff`: **a type is suspected iff it is new or has changed, and trips a pattern.**
* `leakConfidence_eq_high_iff`: the three reasons for a high confidence.
-/

namespace Postmortem

/-! ## Signed numbers -/

theorem signedThreshold_of_lt {n : ℕ} (h : n < 2 ^ 63) : signedThreshold n = n := by
  unfold signedThreshold
  exact Int.bmod_eq_of_le (by omega) (by omega)

/-- A threshold beyond the signed range is negative. -/
theorem signedThreshold_neg {n : ℕ} (h : 2 ^ 63 ≤ n) (hn : n < 2 ^ 64) : signedThreshold n < 0 := by
  unfold signedThreshold
  rw [Int.bmod_def]
  omega

/-- Growth exceeds a threshold as the integers do, unless the growth may stop right at it. -/
theorem signedThreshold_lt_signedDelta_iff {n before after : ℕ} (h : n < 2 ^ 63 - 1) :
    signedThreshold n < signedDelta before after ↔ (n : ℤ) < (after : ℤ) - before := by
  rw [signedThreshold_of_lt (by omega)]
  unfold signedDelta
  omega

/-- Growth reaches a threshold as the integers do. -/
theorem signedThreshold_le_signedDelta_iff {n before after : ℕ} (h : n < 2 ^ 63) :
    signedThreshold n ≤ signedDelta before after ↔ (n : ℤ) ≤ (after : ℤ) - before := by
  rw [signedThreshold_of_lt h]
  unfold signedDelta
  omega

/-- The thresholds that are compared with growth are signed 64-bit numbers. -/
structure LeakThresholds.FitsSigned (t : LeakThresholds) : Prop where
  largeAbsoluteBytes : t.largeAbsoluteBytes < 2 ^ 63
  leakProneCount : t.leakProneCount < 2 ^ 63
  oversizedGrowthBytes : t.oversizedGrowthBytes < 2 ^ 63

/-! ## Measures -/

namespace GrowthMeasure

/-- What a heap has of a type. -/
def amount (heap : HeapHistogram) (name : String) : GrowthMeasure → ℕ
  | count => heap.objectsOf name
  | size => heap.bytesOf name

/-- The growth beyond which a type is suspected. -/
def threshold (thresholds : LeakThresholds) : GrowthMeasure → ℕ
  | count => thresholds.leakProneCount
  | size => thresholds.oversizedGrowthBytes

/-- The measured difference of a change. -/
def delta (d : TypeDelta) : GrowthMeasure → ℤ
  | count => d.countDelta
  | size => d.sizeDelta

theorem delta_ofType (a b : HeapHistogram) (name : String) (m : GrowthMeasure) :
    m.delta (.ofType a b name) = signedDelta (m.amount a name) (m.amount b name) := by
  cases m <;> rfl

theorem differs_of_amount_ne {a b : HeapHistogram} {name : String} {m : GrowthMeasure}
    (h : m.amount a name ≠ m.amount b name) : a.Differs b name := by
  cases m with
  | count => exact .inl h
  | size => exact .inr h

end GrowthMeasure

/-! ## Comparisons -/

section Comparison

variable (t : LeakThresholds) (a b : HeapHistogram)

/-- Thresholds decide which changes are suspected, but not which changes there are. -/
theorem suspectedLeaks_diffHeap (u : LeakThresholds) : (diffHeap u a b).suspectedLeaks =
    ((diffHeap t a b).growth ++ (diffHeap t a b).newTypes).filterMap (suspect? u) := rfl

theorem leakConfidence_diffHeap : (diffHeap t a b).leakConfidence =
    leakConfidence t (signedDelta a.totalSize b.totalSize) (diffHeap t a b).totalSizePercent
      (diffHeap t a b).suspectedLeaks.length := rfl

theorem memoryLeakSuspected_diffHeap : (diffHeap t a b).memoryLeakSuspected =
    decide (LeakConfidence.medium.level ≤ (diffHeap t a b).leakConfidence.level) := rfl

end Comparison

/-! ## Suspected types -/

theorem LeakPattern.isTripped_iff {t : LeakThresholds} {d : TypeDelta} {p : LeakPattern} :
    p.isTripped t d = true ↔
      mentions d.typeName p.fragment = true ∧
        signedThreshold (p.measure.threshold t) < p.measure.delta d := by
  unfold isTripped GrowthMeasure.threshold GrowthMeasure.delta
  rw [Bool.and_eq_true]
  cases p.measure <;> simp only [decide_eq_true_eq]

/-- There is a suspicion against a type iff it trips a pattern. -/
theorem suspect?_isSome_iff {t : LeakThresholds} {d : TypeDelta} :
    (suspect? t d).isSome = true ↔ ∃ p ∈ leakPatterns, p.isTripped t d = true := by
  unfold suspect?
  rw [Option.isSome_map, List.find?_isSome]

/-- The names of the suspected types are those of the changes that trip a pattern. -/
theorem map_typeName_suspects (t : LeakThresholds) (deltas : List TypeDelta) :
    (deltas.filterMap (suspect? t)).map SuspectedLeak.typeName =
      (deltas.filter fun d => (suspect? t d).isSome).map TypeDelta.typeName := by
  induction deltas with
  | nil => rfl
  | cons d rest ih =>
    cases h : suspect? t d with
    | none => rw [List.filterMap_cons_none h, List.filter_cons_of_neg (by simp [h]), ih]
    | some leak =>
      -- a suspicion has the name of its type, whatever pattern it is for
      have hname : leak.typeName = d.typeName := by
        obtain ⟨p, -, rfl⟩ := Option.map_eq_some_iff.1 h
        rfl
      rw [List.filterMap_cons_some h, List.filter_cons_of_pos (by simp [h]), List.map_cons,
        List.map_cons, ih, hname]

/-- **A type is suspected iff it is new or has changed, and trips a pattern.** -/
theorem mem_suspects_iff {t : LeakThresholds} {a b : HeapHistogram} {name : String} :
    name ∈ (diffHeap t a b).suspectedLeaks.map SuspectedLeak.typeName ↔
      name ∈ b.typeNames ∧ (name ∈ a.typeNames → a.Differs b name) ∧
        ∃ p ∈ leakPatterns, p.isTripped t (.ofType a b name) = true := by
  set diff := diffHeap t a b
  have hlisted : name ∈ (diff.growth ++ diff.newTypes).map TypeDelta.typeName ↔
      name ∈ b.typeNames ∧ (name ∈ a.typeNames → a.Differs b name) := by
    rw [List.map_append, List.mem_append, mem_growth_iff, mem_newTypes_iff]
    by_cases hold : name ∈ a.typeNames <;> simp [hold]
  have hofType : ∀ d ∈ diff.growth ++ diff.newTypes, d = .ofType a b d.typeName := by
    intro d hd
    have hchange : d ∈ diff.changes := by
      unfold HeapDiff.changes
      rcases List.mem_append.1 hd with hd | hd
      · exact List.mem_append_right _ hd
      · exact List.mem_append_left _ (List.mem_append_left _ hd)
    exact eq_ofType_of_mem_changes hchange
  rw [suspectedLeaks_diffHeap t, map_typeName_suspects, ← and_assoc, ← hlisted, ← suspect?_isSome_iff]
  constructor
  · intro h
    obtain ⟨d, hd, rfl⟩ := List.mem_map.1 h
    obtain ⟨hmem, hsome⟩ := List.mem_filter.1 hd
    exact ⟨List.mem_map_of_mem hmem, hofType d hmem ▸ hsome⟩
  · rintro ⟨h, hsome⟩
    obtain ⟨d, hmem, rfl⟩ := List.mem_map.1 h
    rw [← hofType d hmem] at hsome
    exact List.mem_map_of_mem (List.mem_filter.2 ⟨hmem, hsome⟩)

/-! ## Confidence -/

section Confidence

variable {t : LeakThresholds} {totalDelta : ℤ} {percent : Option Binary64}

theorem growthConfidence_eq_high_iff :
    growthConfidence t totalDelta percent = .high ↔
      signedThreshold t.largeAbsoluteBytes ≤ totalDelta := by
  unfold growthConfidence
  split_ifs <;> simp [*]

/-- Suspected types raise the confidence of growth that is large for the heap. -/
theorem escalate_growthConfidence_eq_high_iff :
    (growthConfidence t totalDelta percent).escalate = .high ↔
      signedThreshold t.largeAbsoluteBytes ≤ totalDelta ∨
        percent.any t.largePercent.le = true := by
  unfold growthConfidence
  split_ifs <;> simp [*, LeakConfidence.escalate]

/-- **A confidence is high for one of three reasons**: large growth, enough suspected types, or
suspected types beside growth that is large for the heap. -/
theorem leakConfidence_eq_high_iff {suspects : ℕ} :
    leakConfidence t totalDelta percent suspects = .high ↔
      signedThreshold t.largeAbsoluteBytes ≤ totalDelta ∨ t.suspectedTypesForHigh ≤ suspects ∨
        0 < suspects ∧ percent.any t.largePercent.le = true := by
  unfold leakConfidence
  by_cases hmany : t.suspectedTypesForHigh ≤ suspects
  · simp [hmany]
  · by_cases hany : 0 < suspects
    · simp [hmany, hany, escalate_growthConfidence_eq_high_iff]
    · simp [hmany, hany, growthConfidence_eq_high_iff]

end Confidence

end Postmortem
