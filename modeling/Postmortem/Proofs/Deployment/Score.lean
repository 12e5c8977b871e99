import Postmortem.Proofs.Deployment.Overflow

/-!
# When the score is exact

The score is computed in 32-bit steps, and a process whose score overflows is not classified. None
of its terms is negative, so all of its products and sums fit iff the last sum does. A process can
have all the evidence at once that the tables allow (`Config.greatestScore`), so the weights decide
whether scores are exact, and `Config.problem?` does not look at them.

* `exactScore_wholeProcess`: the greatest score of a configuration is that of a process.
* `scoredExactly_iff`: **a process is scored exactly iff its score fits, and every process is iff
  the greatest score fits.**
* `not_scoredExactly_of_heavyWeight`: under a heavy weight, strong evidence has no score.
-/

namespace Postmortem

namespace AotClassification

/-! ## The greatest score -/

/-- Modules of which each has the name of a pattern. -/
def wholeModules : List LoadedModule := aotModules.map fun pattern => { name := pattern }

/-- Threads whose functions are the symbols and reflection functions of the tables. -/
def wholeThreads : List Thread :=
  [threadWith "1" aotSymbols, threadWith "2" (reflectionPatterns.map ReflectionPattern.fragment)]

/-- **A process can have the greatest score.** -/
theorem exactScore_wholeProcess (config : Config) :
    (ofEvidence config wholeModules wholeThreads).exactScore config.evidenceWeights =
      config.greatestScore := by
  have hindicators : (ofEvidence config wholeModules wholeThreads).indicators.length =
      maxIndicators := by
    rw [indicators_ofEvidence]
    decide +kernel
  have husage : (ofEvidence config wholeModules wholeThreads).reflectionUsage.length =
      reflectionPatterns.length := by
    rw [reflectionUsage_ofEvidence]
    decide +kernel
  have hcompiler : Postmortem.hasOnDemandCompiler wholeModules = false := by decide +kernel
  unfold exactScore Config.greatestScore
  rw [compilerAbsent_ofEvidence, isAot_ofEvidence, hindicators, husage, hcompiler]
  simp [wholeModules, aotModules]

/-! ## Steps of 32 bits -/

variable {config : Config} {modules : List LoadedModule} {threads : List Thread}
  {exceptionType : Option String} {weights : EvidenceWeights} {c : AotClassification}

/-- The products and sums on the way to the score, the score last. -/
def partialScores (weights : EvidenceWeights) (c : AotClassification) : List ℕ :=
  let indicators := min c.indicators.length weights.indicatorCap * weights.perIndicator
  let usages := min c.reflectionUsage.length weights.reflectionCap * weights.perReflectionUsage
  let classified := indicators + usages + if c.isAot then weights.aotClassified else 0
  [indicators, usages, indicators + usages, classified,
    classified + if c.compilerAbsent then weights.compilerAbsent else 0]

/-- No product or sum on the way is greater than the score. -/
theorem le_exactScore_of_mem_partialScores {n : ℕ} (h : n ∈ c.partialScores weights) :
    n ≤ c.exactScore weights := by
  unfold partialScores at h
  unfold exactScore
  simp only [List.mem_cons, List.not_mem_nil, or_false] at h
  omega

/-- **A process is scored without a step that overflows**, so that its score is the exact one, and
so are those in its classification. -/
structure ScoredExactly (config : Config) (modules : List LoadedModule) (threads : List Thread)
    (exceptionType : Option String) : Prop where
  fits : ∀ n ∈ (ofEvidence config modules threads).partialScores config.evidenceWeights, n < 2 ^ 32
  score_eq : (ofEvidence config modules threads).score config.evidenceWeights =
    .ok ((ofEvidence config modules threads).exactScore config.evidenceWeights)
  classified : ∃ c, ofProcess config modules threads exceptionType = .ok c ∧
    c.score config.evidenceWeights = .ok (c.exactScore config.evidenceWeights) ∧
    ∀ t, c.trimming = some t → t.score = c.exactScore config.evidenceWeights ∧
      t.confidence = confidenceOf config.evidenceWeights (c.exactScore config.evidenceWeights)

/-- An exact score is the one that trimming is judged by. -/
theorem of_trimming_ofExactScore {t : TrimmingAnalysis}
    (h : (ofExactScore config modules threads exceptionType).trimming = some t) :
    t.score = (ofEvidence config modules threads).exactScore config.evidenceWeights ∧
      t.confidence = confidenceOf config.evidenceWeights
        ((ofEvidence config modules threads).exactScore config.evidenceWeights) := by
  unfold ofExactScore at h
  simp only at h
  split at h
  · obtain rfl := Option.some.inj h
    exact ⟨rfl, rfl⟩
  · cases h

/-- A process is scored exactly iff its score fits. -/
theorem scoredExactly_iff_exactScore_lt :
    ScoredExactly config modules threads exceptionType ↔
      (ofEvidence config modules threads).exactScore config.evidenceWeights < 2 ^ 32 := by
  have hscore := score_computes config.evidenceWeights (ofEvidence config modules threads)
  constructor
  · intro h
    exact ((hscore _).1 h.score_eq).1
  · intro hfits
    refine
      { fits := fun n hn => lt_of_le_of_lt (le_exactScore_of_mem_partialScores hn) hfits
        score_eq := hscore.eq_ok hfits
        classified := ⟨_, ofProcess_eq_ok_iff.2 ⟨fun _ => hfits, rfl⟩, ?_, fun t ht => ?_⟩ }
    · -- the trimming analysis is no part of the evidence
      exact hscore.eq_ok hfits
    · exact of_trimming_ofExactScore ht

/-- **When scores are exact**: of one process, and of all processes. A score that is not exact
overflows. -/
theorem scoredExactly_iff (config : Config) :
    (∀ (modules : List LoadedModule) (threads : List Thread) (exceptionType : Option String),
      ScoredExactly config modules threads exceptionType ↔
        (ofEvidence config modules threads).exactScore config.evidenceWeights < 2 ^ 32) ∧
    ((∀ (modules : List LoadedModule) (threads : List Thread) (exceptionType : Option String),
      ScoredExactly config modules threads exceptionType) ↔ config.greatestScore < 2 ^ 32) ∧
    ∀ (modules : List LoadedModule) (threads : List Thread),
      (∃ overflow, (ofEvidence config modules threads).score config.evidenceWeights =
        .error overflow) ↔
          ¬ (ofEvidence config modules threads).exactScore config.evidenceWeights < 2 ^ 32 := by
  refine ⟨fun _ _ _ => scoredExactly_iff_exactScore_lt, ⟨fun h => ?_, fun hfits _ _ _ => ?_⟩,
    fun modules threads => (score_computes _ _).exists_eq_error_iff⟩
  · rw [← exactScore_wholeProcess config]
    exact scoredExactly_iff_exactScore_lt.1 (h wholeModules wholeThreads none)
  · exact scoredExactly_iff_exactScore_lt.2
      (lt_of_le_of_lt (exactScore_ofEvidence_le _ _ _) hfits)

/-- **Valid weights do not make scores exact.** The score of one indicator of great weight, and of
what follows from it, overflows. -/
theorem not_scoredExactly_of_heavyWeight :
    ¬ ∀ config : Config, config.isValid = true →
      ∀ (modules : List LoadedModule) (threads : List Thread) (exceptionType : Option String),
        ScoredExactly config modules threads exceptionType := by
  intro h
  let heavy : Config := { evidenceWeights := { perIndicator := 4294967291 } }
  have hscored := h heavy (by decide +kernel) [{ name := "app" }] [threadWith "1" ["RhpNewFast"]]
    (some "System.MissingMethodException")
  have hoverflow : ofProcess heavy [{ name := "app" }] [threadWith "1" ["RhpNewFast"]]
      (some "System.MissingMethodException") = .error .addition := by
    rw [ofProcess_eq_error_iff]
    decide +kernel
  obtain ⟨c, hclassified, -⟩ := hscored.classified
  rw [hoverflow] at hclassified
  cases hclassified

end AotClassification

end Postmortem
