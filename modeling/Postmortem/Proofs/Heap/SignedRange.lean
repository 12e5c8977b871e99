import Postmortem.Proofs.Heap.Unchanged

/-!
# Leak rules over the integers

The leak rules speak of integers, but they compare signed 64-bit numbers. Growth stops at the end
of the signed range, and a threshold from `2 ^ 63` on becomes negative, so that the greatest
thresholds, which should switch a rule off, let it always apply. Exact are the thresholds that
signed growth can exceed (`LeakThresholds.Attainable`), and no others.

* `followsRules_of_attainable`: attainable thresholds are compared as integers.
* `threshold_lt_of_followsRules`, `largeAbsoluteBytes_lt_of_followsRules`: for any other threshold
  there are heaps that it judges wrongly.
* `followsRules_iff`: **the leak rules hold over the integers, for all heaps, iff the thresholds are
  attainable.**
-/

namespace Postmortem

/-! ## The rules -/

/-- **A type has outgrown a pattern**: it has the name for it, and the integer growth exceeds the
threshold. -/
def LeakPattern.Outgrown (t : LeakThresholds) (a b : HeapHistogram) (name : String)
    (p : LeakPattern) : Prop :=
  mentions name p.fragment = true ∧
    (p.measure.threshold t : ℤ) < (p.measure.amount b name : ℤ) - p.measure.amount a name

/-- **A heap difference follows the leak rules**, read over the integers. -/
structure HeapDiff.FollowsRules (t : LeakThresholds) (a b : HeapHistogram) (diff : HeapDiff) :
    Prop where
  suspects : ∀ name, name ∈ diff.suspectedLeaks.map SuspectedLeak.typeName ↔
    name ∈ b.typeNames ∧ ∃ p ∈ leakPatterns, p.Outgrown t a b name
  confidence : diff.leakConfidence = .high ↔
    (t.largeAbsoluteBytes : ℤ) ≤ (b.totalSize : ℤ) - a.totalSize ∨
      t.suspectedTypesForHigh ≤ diff.suspectedLeaks.length ∨
        0 < diff.suspectedLeaks.length ∧ diff.totalSizePercent.any t.largePercent.le = true

/-- The sums of a heap are 64-bit numbers. -/
structure HeapHistogram.FitsWords (heap : HeapHistogram) : Prop where
  objects : ∀ name ∈ heap.typeNames, heap.objectsOf name < 2 ^ 64
  totalCount : heap.totalCount < 2 ^ 64
  totalSize : heap.totalSize < 2 ^ 64

namespace LeakThresholds

/-- The thresholds that are compared with growth are 64-bit numbers. -/
structure FitsWords (t : LeakThresholds) : Prop where
  largeAbsoluteBytes : t.largeAbsoluteBytes < 2 ^ 64
  leakProneCount : t.leakProneCount < 2 ^ 64
  oversizedGrowthBytes : t.oversizedGrowthBytes < 2 ^ 64

/-- **Signed growth can reach the thresholds**, and exceed those that it has to exceed. Where the
confidence is high anyway, the threshold of large growth has no effect. -/
structure Attainable (t : LeakThresholds) : Prop where
  largeAbsoluteBytes : t.suspectedTypesForHigh ≠ 0 → t.largeAbsoluteBytes < 2 ^ 63
  leakProneCount : t.leakProneCount < 2 ^ 63 - 1
  oversizedGrowthBytes : t.oversizedGrowthBytes < 2 ^ 63 - 1

variable {t : LeakThresholds}

theorem FitsWords.threshold (h : t.FitsWords) (m : GrowthMeasure) : m.threshold t < 2 ^ 64 := by
  cases m with
  | count => exact h.leakProneCount
  | size => exact h.oversizedGrowthBytes

theorem Attainable.threshold (h : t.Attainable) (m : GrowthMeasure) :
    m.threshold t < 2 ^ 63 - 1 := by
  cases m with
  | count => exact h.leakProneCount
  | size => exact h.oversizedGrowthBytes

end LeakThresholds

/-! ## Attainable thresholds -/

section Attainable

variable {t : LeakThresholds} {a b : HeapHistogram} {name : String}

theorem isTripped_ofType_iff (ht : t.Attainable) {p : LeakPattern} :
    p.isTripped t (.ofType a b name) = true ↔ p.Outgrown t a b name := by
  rw [LeakPattern.isTripped_iff, GrowthMeasure.delta_ofType,
    signedThreshold_lt_signedDelta_iff (ht.threshold _)]
  rfl

/-- A type that has outgrown a pattern has changed. -/
theorem LeakPattern.Outgrown.differs {p : LeakPattern} (h : p.Outgrown t a b name) :
    a.Differs b name := by
  have hgrown := h.2
  exact GrowthMeasure.differs_of_amount_ne (m := p.measure) (by omega)

/-- **Attainable thresholds are compared as integers.** -/
theorem followsRules_of_attainable (ht : t.Attainable) (a b : HeapHistogram) :
    (diffHeap t a b).FollowsRules t a b where
  suspects name := by
    rw [mem_suspects_iff]
    simp only [isTripped_ofType_iff ht]
    constructor
    · rintro ⟨hb, -, hgrown⟩
      exact ⟨hb, hgrown⟩
    · rintro ⟨hb, p, hp, hgrown⟩
      exact ⟨hb, fun _ => hgrown.differs, p, hp, hgrown⟩
  confidence := by
    rw [leakConfidence_diffHeap, leakConfidence_eq_high_iff]
    by_cases hzero : t.suspectedTypesForHigh = 0
    · -- the confidence is always high, so that the first threshold has no effect
      simp [hzero]
    · rw [signedThreshold_le_signedDelta_iff (ht.largeAbsoluteBytes hzero)]

end Attainable

/-! ## Other thresholds -/

/-- A heap with one row, of as many objects as bytes. -/
def HeapHistogram.oneRow (name : String) (amount : ℕ) : HeapHistogram :=
  { entries := [⟨none, name, amount, amount⟩] }

section OneRow

variable {t : LeakThresholds} {name : String} {x : ℕ}

theorem GrowthMeasure.amount_empty (m : GrowthMeasure) : m.amount {} name = 0 := by
  cases m <;> rfl

theorem GrowthMeasure.amount_oneRow (m : GrowthMeasure) : m.amount (.oneRow name x) name = x := by
  cases m <;>
    simp [amount, HeapHistogram.objectsOf, HeapHistogram.bytesOf, HeapHistogram.oneRow]

theorem HeapHistogram.fitsWords_oneRow (h : x < 2 ^ 64) : (oneRow name x).FitsWords where
  objects n hn := by
    obtain rfl : n = name := List.mem_singleton.1 hn
    exact (GrowthMeasure.amount_oneRow .count).trans_lt h
  totalCount := h
  totalSize := h

theorem LeakPattern.isTripped_oneRow_iff {q : LeakPattern} :
    q.isTripped t (.ofType {} (.oneRow name x) name) = true ↔
      mentions name q.fragment = true ∧
        signedThreshold (q.measure.threshold t) < signedDelta 0 x := by
  rw [isTripped_iff, GrowthMeasure.delta_ofType, GrowthMeasure.amount_empty,
    GrowthMeasure.amount_oneRow]
  rfl

theorem LeakPattern.outgrown_oneRow_iff {q : LeakPattern} :
    q.Outgrown t {} (.oneRow name x) name ↔
      mentions name q.fragment = true ∧ (q.measure.threshold t : ℤ) < x := by
  unfold Outgrown
  rw [GrowthMeasure.amount_empty, GrowthMeasure.amount_oneRow, Nat.cast_zero, sub_zero]

/-- A type named after a pattern is judged by the measure of the pattern, if all patterns that it
has the name for share that measure. -/
theorem exists_mentioned_iff {p : LeakPattern} (hp : p ∈ leakPatterns)
    (hsame : ∀ q ∈ leakPatterns, mentions p.fragment q.fragment = true → q.measure = p.measure)
    (judged : GrowthMeasure → Prop) :
    (∃ q ∈ leakPatterns, mentions p.fragment q.fragment = true ∧ judged q.measure) ↔
      judged p.measure := by
  constructor
  · rintro ⟨q, hq, hname, hjudged⟩
    exact hsame q hq hname ▸ hjudged
  · intro hjudged
    exact ⟨p, hp, Text.occursIn_iff.2 List.infix_rfl, hjudged⟩

/-- Some pattern of each measure names types that fall under patterns of this measure only. -/
theorem exists_pattern_of_measure (m : GrowthMeasure) :
    ∃ p ∈ leakPatterns, p.measure = m ∧
      ∀ q ∈ leakPatterns, mentions p.fragment q.fragment = true → q.measure = p.measure := by
  cases m <;> decide +kernel

/-- **Rules that hold for new types bound the threshold of a pattern.** A type without objects
would exceed a negative threshold, and one with `2 ^ 63` objects does not exceed `2 ^ 63 - 1`,
where its growth stops. -/
theorem threshold_lt_of_followsRules {p : LeakPattern} (hp : p ∈ leakPatterns)
    (hsame : ∀ q ∈ leakPatterns, mentions p.fragment q.fragment = true → q.measure = p.measure)
    (ht : t.FitsWords)
    (h : ∀ x < 2 ^ 64, (diffHeap t {} (.oneRow p.fragment x)).FollowsRules t {}
      (.oneRow p.fragment x)) :
    p.measure.threshold t < 2 ^ 63 - 1 := by
  have hagree : ∀ x < 2 ^ 64, (signedThreshold (p.measure.threshold t) < signedDelta 0 x ↔
      (p.measure.threshold t : ℤ) < x) := by
    intro x hx
    have hrule := (h x hx).suspects p.fragment
    have hnew : p.fragment ∈ (HeapHistogram.oneRow p.fragment x).typeNames :=
      List.mem_singleton_self _
    have hold : p.fragment ∉ HeapHistogram.typeNames {} := List.not_mem_nil
    rw [mem_suspects_iff] at hrule
    simp only [LeakPattern.isTripped_oneRow_iff, LeakPattern.outgrown_oneRow_iff, hnew, hold,
      false_imp_iff, true_and] at hrule
    rw [exists_mentioned_iff hp hsame fun m => signedThreshold (m.threshold t) < signedDelta 0 x,
      exists_mentioned_iff hp hsame fun m => (m.threshold t : ℤ) < x] at hrule
    exact hrule
  have hfits := ht.threshold p.measure
  by_contra hle
  rcases Nat.lt_or_ge (p.measure.threshold t) (2 ^ 63) with hlt | hge
  · have hstop := hagree (2 ^ 63) (by decide)
    rw [signedThreshold_of_lt hlt] at hstop
    unfold signedDelta at hstop
    omega
  · have hnone := hagree 0 (by decide)
    have hneg := signedThreshold_neg hge hfits
    unfold signedDelta at hnone
    omega

end OneRow

/-- Rules that hold for empty heaps bound the threshold of large growth, unless the confidence is
always high. -/
theorem largeAbsoluteBytes_lt_of_followsRules {t : LeakThresholds} (ht : t.FitsWords)
    (h : (diffHeap t {} {}).FollowsRules t {} {}) (hsome : t.suspectedTypesForHigh ≠ 0) :
    t.largeAbsoluteBytes < 2 ^ 63 := by
  by_contra hge
  have hneg := signedThreshold_neg (Nat.le_of_not_lt hge) ht.largeAbsoluteBytes
  have hhigh : (diffHeap t {} {}).leakConfidence = .high :=
    leakConfidence_eq_high_iff.2 (.inl hneg.le)
  have hsuspects := suspectedLeaks_self t {}
  have hrule := h.confidence.1 hhigh
  rw [hsuspects, List.length_nil] at hrule
  have hsizes : HeapHistogram.totalSize {} = 0 := rfl
  rw [hsizes] at hrule
  omega

/-- **The leak rules hold over the integers, for all heaps, iff the thresholds are attainable.** -/
theorem followsRules_iff {t : LeakThresholds} (ht : t.FitsWords) :
    (∀ a b : HeapHistogram, a.FitsWords → b.FitsWords → (diffHeap t a b).FollowsRules t a b) ↔
      t.Attainable := by
  have hempty : HeapHistogram.FitsWords {} :=
    ⟨fun _ h => absurd h List.not_mem_nil, by decide, by decide⟩
  constructor
  · intro h
    have hnew : ∀ (p : LeakPattern), ∀ x < 2 ^ 64,
        (diffHeap t {} (.oneRow p.fragment x)).FollowsRules t {} (.oneRow p.fragment x) :=
      fun p x hx => h _ _ hempty (HeapHistogram.fitsWords_oneRow hx)
    have hthreshold : ∀ m : GrowthMeasure, m.threshold t < 2 ^ 63 - 1 := by
      intro m
      obtain ⟨p, hp, rfl, hsame⟩ := exists_pattern_of_measure m
      exact threshold_lt_of_followsRules hp hsame ht (hnew p)
    exact ⟨largeAbsoluteBytes_lt_of_followsRules ht (h _ _ hempty hempty), hthreshold .count,
      hthreshold .size⟩
  · intro hattainable a b _ _
    exact followsRules_of_attainable hattainable a b

/-- The greatest attainable thresholds. -/
theorem followsRules_iff_greatest :
    let t : LeakThresholds :=
      { largeAbsoluteBytes := 2 ^ 63 - 1
        leakProneCount := 2 ^ 63 - 2
        oversizedGrowthBytes := 2 ^ 63 - 2 }
    t.FitsWords ∧ t.Attainable ∧ ∀ a b : HeapHistogram, a.FitsWords → b.FitsWords →
      (diffHeap t a b).FollowsRules t a b := by
  intro t
  have hwords : t.FitsWords := ⟨by decide, by decide, by decide⟩
  have hattainable : t.Attainable := ⟨by decide, by decide, by decide⟩
  exact ⟨hwords, hattainable, (followsRules_iff hwords).2 hattainable⟩

instance (t : LeakThresholds) (a b : HeapHistogram) (name : String) (p : LeakPattern) :
    Decidable (p.Outgrown t a b name) :=
  inferInstanceAs (Decidable (_ ∧ _))

/-- One more timer is suspected although the threshold is as great as can be. -/
theorem not_followsRules_of_greatest :
    ¬ ∀ (t : LeakThresholds) (a b : HeapHistogram), t.FitsWords → a.FitsWords → b.FitsWords →
      (diffHeap t a b).FollowsRules t a b := by
  intro h
  let t : LeakThresholds := { leakProneCount := 2 ^ 64 - 1 }
  let a : HeapHistogram := { entries := [⟨none, "System.Threading.Timer", 1, 24⟩] }
  let b : HeapHistogram := { entries := [⟨none, "System.Threading.Timer", 2, 48⟩] }
  have hrules : (diffHeap t a b).FollowsRules t a b :=
    h t a b ⟨by decide, by decide, by decide⟩ ⟨by decide +kernel, by decide, by decide⟩
      ⟨by decide +kernel, by decide, by decide⟩
  have hsuspected : "System.Threading.Timer" ∈
      (diffHeap t a b).suspectedLeaks.map SuspectedLeak.typeName := by decide +kernel
  have hrule := ((hrules.suspects _).1 hsuspected).2
  exact absurd hrule (by decide +kernel)

end Postmortem
