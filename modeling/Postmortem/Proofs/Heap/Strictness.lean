import Postmortem.Proofs.Config.Integers

/-!
# Stricter thresholds

Thresholds are stricter than others if none of them is lower (`LeakThresholds.AtMost`). The
patterns are asked in order, and a stricter threshold can leave a type to a later pattern. But
whether any pattern is tripped only depends on the thresholds of the measures, and every level of
the confidence is reached with lower thresholds as well.

* `suspects_sublist`: stricter thresholds suspect no further types.
* `leakConfidence_mono`: the confidence grows with lower thresholds and more suspected types.
* `diffHeap_strictness`: **stricter thresholds never raise an alarm.**
-/

namespace Postmortem

/-! ## Orders -/

namespace Binary64

/-- Comparisons are transitive; no comparison holds for what is no number. -/
theorem le_trans {x y z : Binary64} (hxy : x.le y = true) (hyz : y.le z = true) :
    x.le z = true := by
  unfold le at *
  simp only [Bool.and_eq_true, Bool.not_eq_true', decide_eq_true_eq] at *
  obtain ⟨⟨hx, -⟩, hxy⟩ := hxy
  obtain ⟨⟨-, hz⟩, hyz⟩ := hyz
  exact ⟨⟨hx, hz⟩, hxy.trans hyz⟩

theorem any_le_of_le {x y : Binary64} (h : x.le y = true) {percent : Option Binary64}
    (hy : percent.any y.le = true) : percent.any x.le = true := by
  cases percent with
  | none => cases hy
  | some p => exact le_trans h hy

end Binary64

namespace LeakConfidence

theorem level_le_high (c : LeakConfidence) : c.level ≤ high.level := by
  cases c <;> decide

theorem level_le_escalate (c : LeakConfidence) : c.level ≤ c.escalate.level := by
  cases c <;> decide

theorem escalate_mono {c d : LeakConfidence} (h : c.level ≤ d.level) :
    c.escalate.level ≤ d.escalate.level := by
  revert h
  cases c <;> cases d <;> decide

end LeakConfidence

/-- Thresholds in the signed range keep their order when they are compared. -/
theorem signedThreshold_mono {m n : ℕ} (h : m ≤ n) (hn : n < 2 ^ 63) :
    signedThreshold m ≤ signedThreshold n := by
  rw [signedThreshold_of_lt (by omega), signedThreshold_of_lt hn]
  exact Int.ofNat_le.2 h

namespace LeakThresholds

/-- **No threshold is higher than the other one.** -/
structure AtMost (t u : LeakThresholds) : Prop where
  largeAbsoluteBytes : t.largeAbsoluteBytes ≤ u.largeAbsoluteBytes
  largePercent : t.largePercent.le u.largePercent = true
  leakProneCount : t.leakProneCount ≤ u.leakProneCount
  oversizedGrowthBytes : t.oversizedGrowthBytes ≤ u.oversizedGrowthBytes
  suspectedTypesForHigh : t.suspectedTypesForHigh ≤ u.suspectedTypesForHigh

variable {t u : LeakThresholds}

theorem AtMost.threshold (h : t.AtMost u) (hu : u.FitsSigned) (m : GrowthMeasure) :
    signedThreshold (m.threshold t) ≤ signedThreshold (m.threshold u) := by
  cases m with
  | count => exact signedThreshold_mono h.leakProneCount hu.leakProneCount
  | size => exact signedThreshold_mono h.oversizedGrowthBytes hu.oversizedGrowthBytes

end LeakThresholds

section Strictness

variable {t u : LeakThresholds}

/-! ## Suspected types -/

theorem LeakPattern.isTripped_mono (h : t.AtMost u) (hu : u.FitsSigned) {d : TypeDelta}
    {p : LeakPattern} (hp : p.isTripped u d = true) : p.isTripped t d = true := by
  rw [isTripped_iff] at *
  exact ⟨hp.1, (h.threshold hu p.measure).trans_lt hp.2⟩

/-- What is suspected under stricter thresholds is suspected, if perhaps for another pattern. -/
theorem suspect?_isSome_mono (h : t.AtMost u) (hu : u.FitsSigned) {d : TypeDelta}
    (hd : (suspect? u d).isSome = true) : (suspect? t d).isSome = true := by
  obtain ⟨p, hp, htripped⟩ := suspect?_isSome_iff.1 hd
  exact suspect?_isSome_iff.2 ⟨p, hp, p.isTripped_mono h hu htripped⟩

/-- **Stricter thresholds suspect no further types.** -/
theorem suspects_sublist (h : t.AtMost u) (hu : u.FitsSigned) (a b : HeapHistogram) :
    ((diffHeap u a b).suspectedLeaks.map SuspectedLeak.typeName).Sublist
      ((diffHeap t a b).suspectedLeaks.map SuspectedLeak.typeName) := by
  rw [suspectedLeaks_diffHeap t a b u, suspectedLeaks_diffHeap t a b t, map_typeName_suspects,
    map_typeName_suspects]
  exact (List.monotone_filter_right _ fun d => suspect?_isSome_mono h hu).map _

/-! ## Confidence -/

/-- Lower thresholds give growth a higher confidence. -/
theorem growthConfidence_mono (h : t.AtMost u) (hu : u.FitsSigned) (totalDelta : ℤ)
    (percent : Option Binary64) :
    (growthConfidence u totalDelta percent).level ≤
      (growthConfidence t totalDelta percent).level := by
  have hmono := signedThreshold_mono h.largeAbsoluteBytes hu.largeAbsoluteBytes
  unfold growthConfidence
  by_cases hbytes : signedThreshold t.largeAbsoluteBytes ≤ totalDelta
  · rw [if_pos hbytes]
    exact LeakConfidence.level_le_high _
  · have hbytes' : ¬ signedThreshold u.largeAbsoluteBytes ≤ totalDelta := by omega
    rw [if_neg hbytes, if_neg hbytes']
    by_cases hpercent : percent.any t.largePercent.le = true
    · rw [if_pos hpercent]
      split_ifs <;> decide
    · -- below both thresholds of both, the rest is the same
      have hpercent' : ¬ percent.any u.largePercent.le = true :=
        fun hp => hpercent (Binary64.any_le_of_le h.largePercent hp)
      rw [if_neg hpercent, if_neg hpercent']

/-- **The confidence grows with lower thresholds and more suspected types.** -/
theorem leakConfidence_mono (h : t.AtMost u) (hu : u.FitsSigned) (totalDelta : ℤ)
    (percent : Option Binary64) {m n : ℕ} (hmn : m ≤ n) :
    (leakConfidence u totalDelta percent m).level ≤
      (leakConfidence t totalDelta percent n).level := by
  have hgrowth := growthConfidence_mono h hu totalDelta percent
  have htypes := h.suspectedTypesForHigh
  unfold leakConfidence
  dsimp only
  by_cases hmany : t.suspectedTypesForHigh ≤ n
  · rw [if_pos hmany]
    exact LeakConfidence.level_le_high _
  · have hmany' : ¬ u.suspectedTypesForHigh ≤ m := by omega
    rw [if_neg hmany, if_neg hmany']
    by_cases hany : 0 < m
    · have hany' : 0 < n := by omega
      rw [if_pos hany, if_pos hany']
      exact LeakConfidence.escalate_mono hgrowth
    · rw [if_neg hany]
      split_ifs
      · exact hgrowth.trans (LeakConfidence.level_le_escalate _)
      · exact hgrowth

/-! ## Alarms -/

/-- **A heap difference alarms at most as much as another one of the same growth**: its suspected
types are some of those of the other one, and its confidence is no higher. -/
structure HeapDiff.AlarmsAtMost (diff other : HeapDiff) : Prop where
  totalSizePercent : diff.totalSizePercent = other.totalSizePercent
  suspects : (diff.suspectedLeaks.map SuspectedLeak.typeName).Sublist
    (other.suspectedLeaks.map SuspectedLeak.typeName)
  leakConfidence : diff.leakConfidence.level ≤ other.leakConfidence.level
  memoryLeakSuspected : diff.memoryLeakSuspected = true → other.memoryLeakSuspected = true

end Strictness

/-- **Stricter thresholds never raise an alarm**, whatever the two heaps hold. -/
theorem diffHeap_strictness {t u : LeakThresholds} (h : t.AtMost u) (hu : u.FitsSigned)
    (a b : HeapHistogram) : (diffHeap u a b).AlarmsAtMost (diffHeap t a b) := by
  have hsuspects := suspects_sublist h hu a b
  have hcount :
      (diffHeap u a b).suspectedLeaks.length ≤ (diffHeap t a b).suspectedLeaks.length := by
    simpa only [List.length_map] using hsuspects.length_le
  have hconfidence :
      (diffHeap u a b).leakConfidence.level ≤ (diffHeap t a b).leakConfidence.level :=
    leakConfidence_mono h hu _ _ hcount
  refine ⟨rfl, hsuspects, hconfidence, fun hsuspected => ?_⟩
  rw [memoryLeakSuspected_diffHeap, decide_eq_true_eq] at *
  exact hsuspected.trans hconfidence

/-- The strictest preset, written as a settings file. -/
def strictSettings : String :=
  "[leak]\nlarge_percent = 100\nleak_prone_count = 5_000\nsuspected_types_for_high = 5\n"

/-- The lowest preset suspects the timers, which makes the difference between a leak and none. -/
theorem diffHeap_strictness_presets :
    let a : HeapHistogram :=
      { entries := [⟨none, "My.Timer", 10, 100⟩, ⟨none, "Filler", 1, 1000000⟩] }
    let b : HeapHistogram :=
      { entries := [⟨none, "My.Timer", 500, 5000⟩, ⟨none, "Filler", 1, 1000000⟩] }
    Config.ofToml strictSettings = .ok Config.strict ∧
      Config.permissive.leak.AtMost Config.strict.leak ∧ Config.strict.leak.FitsSigned ∧
      (diffHeap Config.permissive.leak a b).memoryLeakSuspected = true ∧
      (diffHeap Config.strict.leak a b).memoryLeakSuspected = false ∧
      (diffHeap Config.strict.leak a b).AlarmsAtMost (diffHeap Config.permissive.leak a b) := by
  intro a b
  have hfile : Config.ofToml strictSettings = .ok Config.strict := by decide +kernel
  have horder : Config.permissive.leak.AtMost Config.strict.leak :=
    ⟨by decide, by decide +kernel, by decide, by decide, by decide⟩
  have hsigned : Config.strict.leak.FitsSigned := Config.fitsSigned_of_ofToml hfile
  exact ⟨hfile, horder, hsigned, by decide +kernel, by decide +kernel,
    diffHeap_strictness horder hsigned a b⟩

end Postmortem
