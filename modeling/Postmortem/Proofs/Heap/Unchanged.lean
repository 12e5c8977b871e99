import Postmortem.Proofs.Heap.LeakRules

/-!
# A heap compared with itself

Nothing came, went or grew, whatever rows a heap has (`newTypes_self`, `removedTypes_self`,
`growth_self`), so that no type is suspected. The growth of the whole heap is zero, in bytes and in
percent. But a threshold can be so that zero growth reaches it, or no suspected types are enough.

* `any_le_growthPercent_zero`: a positive percentage is not reached.
* `diffHeap_self_quiet_iff`: **a heap compared with itself raises no alarm, for a valid
  configuration, iff the other two thresholds of the confidence are positive as they are compared.**
-/

namespace Postmortem

theorem signedDelta_self (n : ℕ) : signedDelta n n = 0 := signedDelta_eq_zero_iff.2 rfl

/-! ## Types -/

section Types

variable (thresholds : LeakThresholds) (heap : HeapHistogram)

/-- No type of a heap is missing from the heap. -/
theorem HeapHistogram.filter_types_self : heap.types.filter (· ∉ heap.typeNames) = [] := by
  rw [List.filter_eq_nil_iff]
  intro name hname
  simp [HeapHistogram.mem_types.1 hname]

theorem HeapHistogram.not_differs_self (name : String) : ¬ heap.Differs heap name := by
  unfold Differs
  simp

theorem newTypes_self : (diffHeap thresholds heap heap).newTypes = [] := by
  rw [newTypes_diffHeap, heap.filter_types_self]
  exact List.mergeSort_nil

theorem removedTypes_self : (diffHeap thresholds heap heap).removedTypes = [] := by
  rw [removedTypes_diffHeap, heap.filter_types_self, List.map_nil]

theorem growth_self : (diffHeap thresholds heap heap).growth = [] := by
  rw [growth_diffHeap]
  simp only [heap.not_differs_self, and_false, decide_false, List.filter_false, List.map_nil]
  exact List.mergeSort_nil

theorem suspectedLeaks_self : (diffHeap thresholds heap heap).suspectedLeaks = [] := by
  rw [suspectedLeaks_diffHeap thresholds, growth_self, newTypes_self]
  rfl

end Types

/-! ## Percentages -/

namespace Binary64

theorem roundScaled_zero (negative : Bool) (den : ℕ) :
    roundScaled negative 0 den = make negative 0 := by
  have hround : roundDiv 0 (den <<< 0) = 0 := by
    unfold roundDiv
    simp
  unfold roundScaled
  simp only [Nat.zero_div, Nat.log2_zero, Nat.zero_sub, hround]
  rfl

/-- The zero of either sign has the place of zero. -/
theorem rank_make_zero (negative : Bool) : (make negative 0).rank = 0 := by
  cases negative <;> decide

theorem scaledAbs_make_zero (negative : Bool) : (make negative 0).scaledAbs = 0 := by
  cases negative <;> decide

theorem ofInt_zero : ofInt 0 = make false 0 := by
  unfold ofInt ofRatio
  simp only [Int.natAbs_zero, Nat.zero_mul, roundScaled_zero, lt_self_iff_false, decide_false]

/-- A quotient of zero is a zero. -/
theorem zero_div (y : Binary64) : ∃ negative, (ofInt 0).div y = make negative 0 := by
  unfold div
  simp only [ofInt_zero, scaledAbs_make_zero, Nat.zero_mul, roundScaled_zero]
  exact ⟨_, rfl⟩

/-- A product of a zero is a zero. -/
theorem zero_mul (negative : Bool) (y : Binary64) :
    ∃ sign, (make negative 0).mul y = make sign 0 := by
  unfold mul
  rw [scaledAbs_make_zero, Nat.zero_mul, roundScaled_zero]
  exact ⟨_, rfl⟩

end Binary64

/-- Zero growth is zero percent of any heap. -/
theorem rank_of_growthPercent_zero {baseline : ℕ} {percent : Binary64}
    (h : growthPercent 0 baseline = some percent) : percent.rank = 0 := by
  unfold growthPercent at h
  split at h
  · cases h
  · obtain ⟨negative, hdiv⟩ := Binary64.zero_div (.ofInt baseline)
    obtain ⟨sign, hmul⟩ := Binary64.zero_mul negative (.ofInt 100)
    rw [hdiv, hmul] at h
    rw [← Option.some.inj h, Binary64.rank_make_zero]

/-- **Zero growth does not reach a positive percentage.** -/
theorem any_le_growthPercent_zero {threshold : Binary64} (h : 0 < threshold.rank) (baseline : ℕ) :
    (growthPercent 0 baseline).any threshold.le = false := by
  cases hpercent : growthPercent 0 baseline with
  | none => rfl
  | some percent =>
    have hrank := rank_of_growthPercent_zero hpercent
    simp [Binary64.le, hrank, h]

/-- The percentage of a valid configuration is positive. -/
theorem Config.largePercent_pos {config : Config} (hc : config.isValid = true) :
    0 < config.leak.largePercent.rank := by
  by_contra h
  have hproblem : config.leak.largePercent.isNaN ∨ config.leak.largePercent.rank ≤ 0 :=
    .inr (not_lt.1 h)
  unfold isValid problem? at hc
  simp only [hproblem, if_true] at hc
  split_ifs at hc <;> simp at hc

/-! ## Alarms -/

/-- **A heap difference raises no alarm**: no type is suspected, and there is no confidence in a
leak. -/
structure HeapDiff.Quiet (diff : HeapDiff) : Prop where
  suspectedLeaks : diff.suspectedLeaks = []
  leakConfidence : diff.leakConfidence = .none
  memoryLeakSuspected : diff.memoryLeakSuspected = false

/-- The confidence in a leak of a heap that did not change. -/
theorem leakConfidence_zero {t : LeakThresholds} (ht : 0 < t.largePercent.rank) (baseline : ℕ) :
    leakConfidence t 0 (growthPercent 0 baseline) 0 =
      if 0 < signedThreshold t.largeAbsoluteBytes ∧ 0 < t.suspectedTypesForHigh then .none
      else .high := by
  unfold leakConfidence growthConfidence
  rw [any_le_growthPercent_zero ht]
  by_cases hbytes : signedThreshold t.largeAbsoluteBytes ≤ 0
  · simp [hbytes, not_lt.2 hbytes]
  · by_cases htypes : t.suspectedTypesForHigh = 0
    · simp [htypes]
    · simp [hbytes, htypes, not_le.1 hbytes, Nat.pos_of_ne_zero htypes]

theorem leakConfidence_self (thresholds : LeakThresholds) (heap : HeapHistogram) :
    (diffHeap thresholds heap heap).leakConfidence =
      leakConfidence thresholds 0 (growthPercent 0 heap.totalSize) 0 := by
  have hpercent : (diffHeap thresholds heap heap).totalSizePercent =
      growthPercent (signedDelta heap.totalSize heap.totalSize) heap.totalSize := rfl
  rw [leakConfidence_diffHeap, hpercent, signedDelta_self, suspectedLeaks_self, List.length_nil]

/-- A threshold is positive as it is compared iff it is positive and in the signed range. -/
theorem signedThreshold_pos_iff {n : ℕ} (h : n < 2 ^ 64) :
    0 < signedThreshold n ↔ 0 < n ∧ n < 2 ^ 63 := by
  rcases Nat.lt_or_ge n (2 ^ 63) with hlt | hge
  · rw [signedThreshold_of_lt hlt]
    omega
  · have hneg := signedThreshold_neg hge h
    omega

/-- **A heap compared with itself raises no alarm iff no threshold is reached without growth.**
This is so for every heap and every valid configuration; no type is ever suspected. -/
theorem diffHeap_self_quiet_iff {config : Config} (hc : config.isValid = true)
    (hw : config.leak.largeAbsoluteBytes < 2 ^ 64) (heap : HeapHistogram) :
    (diffHeap config.leak heap heap).suspectedLeaks = [] ∧
      ((diffHeap config.leak heap heap).Quiet ↔
        0 < config.leak.largeAbsoluteBytes ∧ config.leak.largeAbsoluteBytes < 2 ^ 63 ∧
          0 < config.leak.suspectedTypesForHigh) := by
  have hconfidence : (diffHeap config.leak heap heap).leakConfidence = _ :=
    (leakConfidence_self config.leak heap).trans
      (leakConfidence_zero (Config.largePercent_pos hc) heap.totalSize)
  rw [← and_assoc, ← signedThreshold_pos_iff hw]
  refine ⟨suspectedLeaks_self _ _, fun h => ?_, fun h => ?_⟩
  · by_contra hreached
    rw [if_neg hreached] at hconfidence
    cases hconfidence.symm.trans h.leakConfidence
  · rw [if_pos h] at hconfidence
    have hsuspected := memoryLeakSuspected_diffHeap config.leak heap heap
    rw [hconfidence] at hsuspected
    exact ⟨suspectedLeaks_self _ _, hconfidence, hsuspected⟩

/-- Timers in two rows, under the strictest preset. -/
theorem diffHeap_self_quiet_timers :
    let heap : HeapHistogram :=
      { entries := [⟨none, "System.Threading.Timer", 9000, 216000⟩,
          ⟨none, "System.Threading.Timer", 1, 24⟩] }
    Config.strict.isValid = true ∧ Config.strict.leak.largeAbsoluteBytes < 2 ^ 64 ∧
      (diffHeap Config.strict.leak heap heap).Quiet := by
  intro heap
  have hvalid : Config.strict.isValid = true := by decide +kernel
  have hword : Config.strict.leak.largeAbsoluteBytes < 2 ^ 64 := by decide
  exact ⟨hvalid, hword, (diffHeap_self_quiet_iff hvalid hword heap).2.2 (by decide)⟩

/-- A growth of zero bytes counts as large if the threshold is zero. -/
theorem not_quiet_of_zeroThreshold :
    ¬ ∀ (config : Config) (heap : HeapHistogram), config.isValid = true →
      config.leak.largeAbsoluteBytes < 2 ^ 64 → (diffHeap config.leak heap heap).Quiet := by
  intro h
  have hquiet := h { leak := { largeAbsoluteBytes := 0 } }
    { entries := [⟨none, "System.String", 10, 400⟩] } (by decide +kernel) (by decide)
  exact absurd hquiet.leakConfidence (by decide +kernel)

end Postmortem
