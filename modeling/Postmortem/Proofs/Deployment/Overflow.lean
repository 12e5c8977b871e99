import Postmortem.Proofs.Deployment.Evidence

/-!
# Scores that overflow

A score is computed in 32-bit steps, and no step makes it smaller. So none of them overflows before
the exact score does: the steps give the exact score if it fits, and break down otherwise
(`score_computes`). A process is classified iff its score fits or trimming is not considered at all
(`ScoreFits`).

The tables bound how much evidence there can be: one indicator for each symbol and module pattern,
one usage for each reflection pattern. So a configuration has a greatest score, and if that fits,
all scores do (`scoreFits_of_greatestScore`).

* `ofProcess_eq_ok_iff`: **which processes are classified, and how.**
* `ofProcess_eq_error_iff`: what a classification breaks down with is what its score does.
-/

namespace Postmortem

/-! ## How much evidence there can be -/

/-- The greatest number of indicators of a process. -/
def maxIndicators : ℕ := aotSymbols.length + aotModules.length

/-- The greatest score that a process can have. -/
def Config.greatestScore (config : Config) : ℕ :=
  let weights := config.evidenceWeights
  min maxIndicators weights.indicatorCap * weights.perIndicator +
    min reflectionPatterns.length weights.reflectionCap * weights.perReflectionUsage +
    (if config.aot.withoutCompiler ≤ maxIndicators then weights.aotClassified else 0) +
    weights.compilerAbsent

/-! ## Computations in 32 bits -/

/-- **A computation of a number in 32 bits**: it gives the number if that fits, and nothing
otherwise. -/
def Computes (result : Except Overflow ℕ) (n : ℕ) : Prop :=
  ∀ k, result = .ok k ↔ n < 2 ^ 32 ∧ n = k

section Computes

variable {result : Except Overflow ℕ} {m n : ℕ}

theorem Computes.eq_ok (h : Computes result n) (hfits : n < 2 ^ 32) : result = .ok n :=
  (h n).2 ⟨hfits, rfl⟩

theorem Computes.exists_eq_error_iff (h : Computes result n) :
    (∃ overflow, result = .error overflow) ↔ ¬ n < 2 ^ 32 := by
  cases hresult : result with
  | ok k =>
    have hfits := ((h k).1 hresult).1
    simp [hfits]
  | error overflow =>
    refine iff_of_true ⟨overflow, rfl⟩ fun hfits => ?_
    rw [h.eq_ok hfits] at hresult
    cases hresult

theorem computes_add32 (m n : ℕ) : Computes (add32 m n) (m + n) := by
  intro k
  unfold add32
  split <;> simp_all

theorem computes_mul32 (m n : ℕ) : Computes (mul32 m n) (m * n) := by
  intro k
  unfold mul32
  split <;> simp_all

/-- A number is added only under a condition. -/
theorem computes_extra (b : Bool) (h : m < 2 ^ 32) (n : ℕ) :
    Computes (if b then add32 m n else pure m) (m + if b then n else 0) := by
  cases b with
  | true => exact computes_add32 m n
  | false =>
    intro k
    simp [pure, Except.pure, h]

/-- **Steps that make a number no smaller compute it in a row**: if the last number fits, so does
the one in front of it. -/
theorem Computes.bind {next : ℕ → Except Overflow ℕ} (h : Computes result m) (hle : m ≤ n)
    (hnext : m < 2 ^ 32 → Computes (next m) n) : Computes (result >>= next) n := by
  intro k
  cases hresult : result with
  | ok i =>
    obtain ⟨hfits, rfl⟩ := (h i).1 hresult
    exact hnext hfits k
  | error overflow =>
    have hlarge := h.exists_eq_error_iff.1 ⟨overflow, hresult⟩
    refine iff_of_false (fun hok => ?_) fun hfits => hlarge (lt_of_le_of_lt hle hfits.1)
    cases hok

end Computes

namespace AotClassification

/-- **The score is the exact score if that fits, and overflows otherwise.** -/
theorem score_computes (weights : EvidenceWeights) (c : AotClassification) :
    Computes (c.score weights) (c.exactScore weights) := by
  unfold score exactScore
  refine (computes_mul32 _ _).bind (by omega) fun _ => ?_
  refine (computes_mul32 _ _).bind (by omega) fun _ => ?_
  refine (computes_add32 _ _).bind (by omega) fun hcounted => ?_
  exact (computes_extra _ hcounted _).bind (by omega) fun hclassified =>
    computes_extra _ hclassified _

section Greatest

variable (config : Config) (modules : List LoadedModule) (threads : List Thread)

theorem length_indicators_ofEvidence_le_table :
    (ofEvidence config modules threads).indicators.length ≤ maxIndicators := by
  rw [indicators_ofEvidence, List.length_append, length_frameIndicators, length_moduleIndicators]
  exact Nat.add_le_add (claims_symbolClaims threads).length_le_patterns
    (claims_moduleClaims modules).length_le_patterns

theorem length_reflectionUsage_ofEvidence_le_table :
    (ofEvidence config modules threads).reflectionUsage.length ≤ reflectionPatterns.length := by
  rw [reflectionUsage_ofEvidence, length_reflectionUsages]
  exact (claims_reflectionClaims threads).length_le_patterns

/-- **No process scores more than the greatest score.** -/
theorem exactScore_ofEvidence_le :
    (ofEvidence config modules threads).exactScore config.evidenceWeights ≤
      config.greatestScore := by
  have hindicators := length_indicators_ofEvidence_le_table config modules threads
  have husage := length_reflectionUsage_ofEvidence_le_table config modules threads
  refine exactScore_le hindicators husage ?_ ?_
  · -- a verdict takes no more indicators than there can be
    cases haot : (ofEvidence config modules threads).isAot with
    | false => exact Nat.zero_le _
    | true =>
      rw [isAot_ofEvidence, Bool.and_eq_true, decide_eq_true_eq] at haot
      rw [if_pos (haot.2.trans hindicators)]
      exact le_rfl
  · split
    · exact le_rfl
    · exact Nat.zero_le _

end Greatest

variable {config : Config} {modules : List LoadedModule} {threads : List Thread}
  {exceptionType : Option String} {c : AotClassification}

/-- Whether the score of a process fits in 32 bits, if trimming is considered for it. -/
def ScoreFits (config : Config) (modules : List LoadedModule) (threads : List Thread)
    (exceptionType : Option String) : Prop :=
  (ExceptionCategory.ofType? exceptionType).isResolutionFailure = true →
    (ofEvidence config modules threads).exactScore config.evidenceWeights < 2 ^ 32

instance : Decidable (ScoreFits config modules threads exceptionType) :=
  inferInstanceAs (Decidable (_ → _))

/-- Where the greatest score fits, every score does. -/
theorem scoreFits_of_greatestScore (h : config.greatestScore < 2 ^ 32) :
    ScoreFits config modules threads exceptionType :=
  fun _ => lt_of_le_of_lt (exactScore_ofEvidence_le config modules threads) h

/-- The classification of a process with its exact score. -/
def ofExactScore (config : Config) (modules : List LoadedModule) (threads : List Thread)
    (exceptionType : Option String) : AotClassification :=
  let c := ofEvidence config modules threads
  let category := ExceptionCategory.ofType? exceptionType
  { c with
    trimming :=
      if category.isResolutionFailure then
        some (c.trimmingOfScore config.evidenceWeights category
          (c.exactScore config.evidenceWeights))
      else none }

theorem ofProcess_of_other
    (h : ¬ (ExceptionCategory.ofType? exceptionType).isResolutionFailure = true) :
    ofProcess config modules threads exceptionType = .ok (ofEvidence config modules threads) :=
  if_neg h

/-- Where trimming is considered, the score comes first. -/
theorem ofProcess_of_failure
    (h : (ExceptionCategory.ofType? exceptionType).isResolutionFailure = true) :
    ofProcess config modules threads exceptionType =
      ((ofEvidence config modules threads).score config.evidenceWeights).map fun n =>
        { ofEvidence config modules threads with
          trimming := some ((ofEvidence config modules threads).trimmingOfScore
            config.evidenceWeights (ExceptionCategory.ofType? exceptionType) n) } := by
  refine (if_pos h).trans ?_
  unfold trimmingAnalysis
  cases (ofEvidence config modules threads).score config.evidenceWeights <;> rfl

/-- **A process is classified iff its score fits**, and then by its exact score. -/
theorem ofProcess_eq_ok_iff : ofProcess config modules threads exceptionType = .ok c ↔
    ScoreFits config modules threads exceptionType ∧
      ofExactScore config modules threads exceptionType = c := by
  by_cases h : (ExceptionCategory.ofType? exceptionType).isResolutionFailure = true
  · have hscore := score_computes config.evidenceWeights (ofEvidence config modules threads)
    rw [ofProcess_of_failure h]
    unfold ScoreFits ofExactScore
    simp only [h, if_true, forall_const]
    cases hresult : (ofEvidence config modules threads).score config.evidenceWeights with
    | ok n =>
      obtain ⟨hfits, rfl⟩ := (hscore n).1 hresult
      simp only [Except.map, Except.ok.injEq, hfits, true_and]
    | error overflow =>
      have hlarge := hscore.exists_eq_error_iff.1 ⟨overflow, hresult⟩
      simp only [Except.map, hlarge, false_and, reduceCtorEq]
  · have hexact : ofExactScore config modules threads exceptionType =
        ofEvidence config modules threads := by
      simp only [ofExactScore, if_neg h]
      rfl
    rw [ofProcess_of_other h, hexact, Except.ok.injEq]
    exact (and_iff_right fun hfailure => absurd hfailure h).symm

/-- **A process that is not classified is one whose score overflows.** -/
theorem ofProcess_eq_error_iff {overflow : Overflow} :
    ofProcess config modules threads exceptionType = .error overflow ↔
      (ExceptionCategory.ofType? exceptionType).isResolutionFailure = true ∧
        (ofEvidence config modules threads).score config.evidenceWeights = .error overflow := by
  by_cases h : (ExceptionCategory.ofType? exceptionType).isResolutionFailure = true
  · rw [ofProcess_of_failure h]
    cases (ofEvidence config modules threads).score config.evidenceWeights <;>
      simp [Except.map, h]
  · simp [ofProcess_of_other h, h]

theorem exists_ofProcess_eq_error_iff :
    (∃ overflow, ofProcess config modules threads exceptionType = .error overflow) ↔
      ¬ ScoreFits config modules threads exceptionType := by
  cases hresult : ofProcess config modules threads exceptionType with
  | ok c => simp [(ofProcess_eq_ok_iff.1 hresult).1]
  | error overflow =>
    refine iff_of_true ⟨overflow, rfl⟩ fun hfits => ?_
    rw [ofProcess_eq_ok_iff.2 ⟨hfits, rfl⟩] at hresult
    cases hresult

/-- What a process is classified by does not depend on its score. -/
theorem evidence_of_ofProcess (h : ofProcess config modules threads exceptionType = .ok c) :
    { c with trimming := none } = ofEvidence config modules threads := by
  rw [← (ofProcess_eq_ok_iff.1 h).2]
  rfl

end AotClassification

end Postmortem
