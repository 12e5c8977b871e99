import Postmortem.Proofs.Deployment.Overflow

/-!
# Threads in another order

A process is classified by the texts of its frames, and a pattern claims the first one that holds
it. So the order of the threads decides which text a pattern claims, and a text that holds several
patterns may then be missing for one of them. The numbers of indicators and of reflection usages
depend on the order only where patterns are not settled (`Settled`), and never by more than a factor
of two. Whether the score overflows depends on it in the same way.

* `map_fst_symbolClaims_perm`, `map_fst_reflectionClaims_perm`: settled patterns are found in any
  order of the threads.
* `ofProcess_perm`: **what another order of the threads can change.**
* `not_sameVerdict_of_overlap`: it can change the confidence of a diagnosis.
-/

namespace Postmortem

variable {threads threads' : List Thread}

/-! ## Settled patterns -/

/-- Whether the symbol patterns are settled in the texts of the frames. -/
def SymbolsSettled (threads : List Thread) : Prop :=
  Settled holdsSymbol (frameTexts threads) [] aotSymbols

/-- Whether the reflection patterns are settled in the functions of the frames. -/
def FunctionsSettled (threads : List Thread) : Prop :=
  Settled holdsReflection (frameFunctions threads) [] reflectionPatterns

theorem sightings_perm (h : threads.Perm threads') :
    (sightings threads).Perm (sightings threads') := h.flatMap_right _

theorem frameTexts_perm (h : threads.Perm threads') : frameTexts threads = frameTexts threads' :=
  List.toFinset_eq_of_perm _ _ ((sightings_perm h).map _)

theorem frameFunctions_perm (h : threads.Perm threads') :
    frameFunctions threads = frameFunctions threads' :=
  List.toFinset_eq_of_perm _ _ (((sightings_perm h).filter _).map _)

/-! ## Indicators and usages -/

/-- **Settled symbol patterns** are found in any order of the threads. -/
theorem map_fst_symbolClaims_perm (h : threads.Perm threads') (hsettled : SymbolsSettled threads) :
    (symbolClaims threads).map Prod.fst = (symbolClaims threads').map Prod.fst := by
  have hclaims' := claims_symbolClaims threads'
  rw [← frameTexts_perm h] at hclaims'
  exact (claims_symbolClaims threads).map_fst_eq hsettled hclaims'

/-- **Settled reflection patterns** are found in any order of the threads. -/
theorem map_fst_reflectionClaims_perm (h : threads.Perm threads')
    (hsettled : FunctionsSettled threads) :
    (reflectionClaims threads).map Prod.fst = (reflectionClaims threads').map Prod.fst := by
  have hclaims' := claims_reflectionClaims threads'
  rw [← frameFunctions_perm h] at hclaims'
  exact (claims_reflectionClaims threads).map_fst_eq hsettled hclaims'

theorem length_frameIndicators_le (h : threads.Perm threads') :
    (frameIndicators threads).length ≤ 2 * (frameIndicators threads').length := by
  have hclaims' := claims_symbolClaims threads'
  rw [← frameTexts_perm h] at hclaims'
  rw [length_frameIndicators, length_frameIndicators]
  exact (claims_symbolClaims threads).length_le (by decide) hclaims'

theorem length_reflectionUsages_le (h : threads.Perm threads') :
    (reflectionUsages threads).length ≤ 2 * (reflectionUsages threads').length := by
  have hclaims' := claims_reflectionClaims threads'
  rw [← frameFunctions_perm h] at hclaims'
  rw [length_reflectionUsages, length_reflectionUsages]
  exact (claims_reflectionClaims threads).length_le (by decide) hclaims'

/-! ## Classifications -/

namespace AotClassification

variable {c c' : AotClassification}

/-- Whether two classifications come to the same verdict. -/
structure SameVerdict (c c' : AotClassification) : Prop where
  isAot : c.isAot = c'.isAot
  mixedEvidence : c.mixedEvidence = c'.mixedEvidence
  indicators : c.indicators.length = c'.indicators.length
  reflectionUsage : c.reflectionUsage.length = c'.reflectionUsage.length
  score : c.trimming.map TrimmingAnalysis.score = c'.trimming.map TrimmingAnalysis.score
  confidence :
    c.trimming.map TrimmingAnalysis.confidence = c'.trimming.map TrimmingAnalysis.confidence

/-- **What another order of the threads can change.** -/
structure SameUpToOrder (config : Config) (threads : List Thread) (c c' : AotClassification) :
    Prop where
  indicators : SymbolsSettled threads → c.indicators.length = c'.indicators.length
  reflectionUsage : FunctionsSettled threads → c.reflectionUsage.length = c'.reflectionUsage.length
  isAot : SymbolsSettled threads ∨ config.aot.withoutCompiler ≤ 1 → c.isAot = c'.isAot
  mixedEvidence : SymbolsSettled threads ∨ config.aot.withCompiler ≤ 1 →
    c.mixedEvidence = c'.mixedEvidence
  verdict : SymbolsSettled threads → FunctionsSettled threads → SameVerdict c c'
  /-- Whether trimming is considered does not depend on the threads. -/
  trimming : c.trimming.isSome = c'.trimming.isSome
  indicators_le : c.indicators.length ≤ 2 * c'.indicators.length
  reflectionUsage_le : c.reflectionUsage.length ≤ 2 * c'.reflectionUsage.length

variable {config : Config} {modules : List LoadedModule}

section Congruence

variable (weights : EvidenceWeights) (hindicators : c.indicators.length = c'.indicators.length)
  (husage : c.reflectionUsage.length = c'.reflectionUsage.length) (haot : c.isAot = c'.isAot)
  (habsent : c.compilerAbsent = c'.compilerAbsent)

include hindicators husage haot habsent

/-- The score comes from the numbers of indicators and usages and from the two verdicts. -/
theorem exactScore_congr : c.exactScore weights = c'.exactScore weights := by
  unfold exactScore
  rw [hindicators, husage, haot, habsent]

/-- So does an overflow of it. -/
theorem score_congr : c.score weights = c'.score weights := by
  unfold score
  rw [hindicators, husage, haot, habsent]

end Congruence

/-- Numbers that are at most twice each other reach a threshold of at most one together. -/
theorem decide_le_congr {threshold m n : ℕ} (hm : m ≤ 2 * n) (hn : n ≤ 2 * m)
    (h : m = n ∨ threshold ≤ 1) : decide (threshold ≤ m) = decide (threshold ≤ n) := by
  rw [decide_eq_decide]
  omega

section Perm

variable (config modules) (h : threads.Perm threads')

include h

theorem length_indicators_ofEvidence_perm (hsettled : SymbolsSettled threads) :
    (ofEvidence config modules threads).indicators.length =
      (ofEvidence config modules threads').indicators.length := by
  have hfound := congrArg List.length (map_fst_symbolClaims_perm h hsettled)
  rw [List.length_map, List.length_map] at hfound
  rw [indicators_ofEvidence, indicators_ofEvidence, List.length_append, List.length_append,
    length_frameIndicators, length_frameIndicators, hfound]

theorem length_reflectionUsage_ofEvidence_perm (hsettled : FunctionsSettled threads) :
    (ofEvidence config modules threads).reflectionUsage.length =
      (ofEvidence config modules threads').reflectionUsage.length := by
  have hfound := congrArg List.length (map_fst_reflectionClaims_perm h hsettled)
  rw [List.length_map, List.length_map] at hfound
  rw [reflectionUsage_ofEvidence, reflectionUsage_ofEvidence, length_reflectionUsages,
    length_reflectionUsages, hfound]

theorem length_indicators_ofEvidence_le :
    (ofEvidence config modules threads).indicators.length ≤
      2 * (ofEvidence config modules threads').indicators.length := by
  have hframes := length_frameIndicators_le h
  rw [indicators_ofEvidence, indicators_ofEvidence, List.length_append, List.length_append]
  omega

theorem isAot_ofEvidence_perm (hcase : SymbolsSettled threads ∨ config.aot.withoutCompiler ≤ 1) :
    (ofEvidence config modules threads).isAot = (ofEvidence config modules threads').isAot := by
  rw [isAot_ofEvidence, isAot_ofEvidence,
    decide_le_congr (length_indicators_ofEvidence_le config modules h)
      (length_indicators_ofEvidence_le config modules h.symm)
      (hcase.imp_left (length_indicators_ofEvidence_perm config modules h))]

theorem mixedEvidence_ofEvidence_perm
    (hcase : SymbolsSettled threads ∨ config.aot.withCompiler ≤ 1) :
    (ofEvidence config modules threads).mixedEvidence =
      (ofEvidence config modules threads').mixedEvidence := by
  rw [mixedEvidence_ofEvidence, mixedEvidence_ofEvidence,
    decide_le_congr (length_indicators_ofEvidence_le config modules h)
      (length_indicators_ofEvidence_le config modules h.symm)
      (hcase.imp_left (length_indicators_ofEvidence_perm config modules h))]

/-- **Where all patterns are settled, the score is the same in any order of the threads**, and
overflows in every order or in none. -/
theorem score_ofEvidence_perm (hsymbols : SymbolsSettled threads)
    (hfunctions : FunctionsSettled threads) :
    (ofEvidence config modules threads).exactScore config.evidenceWeights =
        (ofEvidence config modules threads').exactScore config.evidenceWeights ∧
      (ofEvidence config modules threads).score config.evidenceWeights =
        (ofEvidence config modules threads').score config.evidenceWeights := by
  have hindicators := length_indicators_ofEvidence_perm config modules h hsymbols
  have husage := length_reflectionUsage_ofEvidence_perm config modules h hfunctions
  have haot := isAot_ofEvidence_perm config modules h (.inl hsymbols)
  exact ⟨exactScore_congr _ hindicators husage haot rfl, score_congr _ hindicators husage haot rfl⟩

/-- **Classifications by the evidence of threads in two orders**, whatever trimming comes to. -/
theorem sameUpToOrder_with_trimming {trimming trimming' : Option TrimmingAnalysis}
    (hsome : trimming.isSome = trimming'.isSome)
    (hscore : SymbolsSettled threads → FunctionsSettled threads →
      trimming.map TrimmingAnalysis.score = trimming'.map TrimmingAnalysis.score ∧
        trimming.map TrimmingAnalysis.confidence = trimming'.map TrimmingAnalysis.confidence) :
    SameUpToOrder config threads { ofEvidence config modules threads with trimming }
      { ofEvidence config modules threads' with trimming := trimming' } := by
  have hindicators := length_indicators_ofEvidence_perm config modules h
  have husage := length_reflectionUsage_ofEvidence_perm config modules h
  have haot := isAot_ofEvidence_perm config modules h
  have hmixed := mixedEvidence_ofEvidence_perm config modules h
  exact
    { indicators := hindicators
      reflectionUsage := husage
      isAot := haot
      mixedEvidence := hmixed
      verdict := fun hsymbols hfunctions =>
        { isAot := haot (.inl hsymbols)
          mixedEvidence := hmixed (.inl hsymbols)
          indicators := hindicators hsymbols
          reflectionUsage := husage hfunctions
          score := (hscore hsymbols hfunctions).1
          confidence := (hscore hsymbols hfunctions).2 }
      trimming := hsome
      indicators_le := length_indicators_ofEvidence_le config modules h
      reflectionUsage_le := length_reflectionUsages_le h }

/-- Two exact scores are the same where all patterns are settled. -/
theorem sameUpToOrder_ofExactScore (exceptionType : Option String) :
    SameUpToOrder config threads (ofExactScore config modules threads exceptionType)
      (ofExactScore config modules threads' exceptionType) := by
  refine sameUpToOrder_with_trimming config modules h ?_ fun hsymbols hfunctions => ?_
  · split <;> rfl
  · have hscore := (score_ofEvidence_perm config modules h hsymbols hfunctions).1
    split
    · exact ⟨congrArg some hscore,
        congrArg (fun n => some (confidenceOf config.evidenceWeights n)) hscore⟩
    · exact ⟨rfl, rfl⟩

end Perm

/-- **What another order of the threads can change.** The numbers of indicators and of reflection
usages are the same where the patterns are settled, and everywhere at most twice each other. Where
all patterns are settled, the score overflows in every order or in none. -/
theorem ofProcess_perm (config : Config) (modules : List LoadedModule)
    (exceptionType : Option String) {threads threads' : List Thread} (h : threads.Perm threads') :
    SameUpToOrder config threads (ofEvidence config modules threads)
        (ofEvidence config modules threads') ∧
      (∀ c c', ofProcess config modules threads exceptionType = .ok c →
        ofProcess config modules threads' exceptionType = .ok c' →
          SameUpToOrder config threads c c') ∧
      (SymbolsSettled threads → FunctionsSettled threads → ∀ overflow,
        ofProcess config modules threads exceptionType = .error overflow ↔
          ofProcess config modules threads' exceptionType = .error overflow) := by
  refine ⟨sameUpToOrder_with_trimming config modules h rfl fun _ _ => ⟨rfl, rfl⟩,
    fun c c' hc hc' => ?_, fun hsymbols hfunctions overflow => ?_⟩
  · obtain ⟨-, rfl⟩ := ofProcess_eq_ok_iff.1 hc
    obtain ⟨-, rfl⟩ := ofProcess_eq_ok_iff.1 hc'
    exact sameUpToOrder_ofExactScore config modules h exceptionType
  · rw [ofProcess_eq_error_iff, ofProcess_eq_error_iff,
      (score_ofEvidence_perm config modules h hsymbols hfunctions).2]

/-- Threads of a program that was compiled ahead of time. Some texts hold several patterns. -/
def compiledThreads : List Thread :=
  [threadWith "1" ["S_P_CoreLib_System_Runtime_RuntimeImports__RhpNewFast", "RhpNewFast"],
   threadWith "2" ["S_P_CoreLib_System_String__Concat", "RhpInterfaceDispatch1"],
   threadWith "3" ["System.Reflection.Emit.AssemblyBuilder.DefineDynamicAssembly"]]

/-- A pattern has texts enough, or the text that it shares is held by no other pattern alone. -/
theorem ofProcess_perm_compiled :
    let modules : List LoadedModule := [{ name := "app" }]
    let c := ofExactScore {} modules compiledThreads (some "System.MissingMethodException")
    let c' := ofExactScore {} modules compiledThreads.reverse (some "System.MissingMethodException")
    compiledThreads.Perm compiledThreads.reverse ∧ SymbolsSettled compiledThreads ∧
      FunctionsSettled compiledThreads ∧
      ofProcess {} modules compiledThreads (some "System.MissingMethodException") = .ok c ∧
      ofProcess {} modules compiledThreads.reverse (some "System.MissingMethodException") = .ok c' ∧
      SameVerdict c c' := by
  intro modules c c'
  have hperm : compiledThreads.Perm compiledThreads.reverse := (List.reverse_perm _).symm
  have hsymbols : SymbolsSettled compiledThreads := by
    unfold SymbolsSettled
    decide +kernel
  have hfunctions : FunctionsSettled compiledThreads := by
    unfold FunctionsSettled
    decide +kernel
  have hc : ofProcess {} modules compiledThreads (some "System.MissingMethodException") = .ok c :=
    ofProcess_eq_ok_iff.2 ⟨scoreFits_of_greatestScore (by decide +kernel), rfl⟩
  have hc' : ofProcess {} modules compiledThreads.reverse (some "System.MissingMethodException") =
      .ok c' := ofProcess_eq_ok_iff.2 ⟨scoreFits_of_greatestScore (by decide +kernel), rfl⟩
  have hsame := (ofProcess_perm {} modules (some "System.MissingMethodException") hperm).2.1 c c'
    hc hc'
  exact ⟨hperm, hsymbols, hfunctions, hc, hc', hsame.verdict hsymbols hfunctions⟩

/-- Threads of which one has a text that holds two patterns, and the other one a text that holds
the first of them. -/
def overlappingThreads : List Thread :=
  [threadWith "1" ["S_P_CoreLib_System_Runtime_RuntimeImports__RhpNewFast"],
   threadWith "2" ["S_P_CoreLib_System_String__Concat"]]

/-- If the first pattern takes the text of both, nothing is left for the other one, and trimming is
less certain. -/
theorem not_sameVerdict_of_overlap :
    ¬ ∀ (config : Config) (modules : List LoadedModule) (exceptionType : Option String)
      (threads threads' : List Thread), threads.Perm threads' →
      ∀ c c', ofProcess config modules threads exceptionType = .ok c →
        ofProcess config modules threads' exceptionType = .ok c' → SameVerdict c c' := by
  intro h
  have hsame := h {} [{ name := "app" }] (some "System.MissingMethodException") overlappingThreads
    overlappingThreads.reverse (List.reverse_perm _).symm _ _
    (ofProcess_eq_ok_iff.2 ⟨scoreFits_of_greatestScore (by decide +kernel), rfl⟩)
    (ofProcess_eq_ok_iff.2 ⟨scoreFits_of_greatestScore (by decide +kernel), rfl⟩)
  have hconfidence := hsame.confidence
  have hmedium : (ofExactScore {} [{ name := "app" }] overlappingThreads
      (some "System.MissingMethodException")).trimming.map TrimmingAnalysis.confidence =
        some .medium := by decide +kernel
  have hhigh : (ofExactScore {} [{ name := "app" }] overlappingThreads.reverse
      (some "System.MissingMethodException")).trimming.map TrimmingAnalysis.confidence =
        some .high := by decide +kernel
  rw [hmedium, hhigh] at hconfidence
  cases hconfidence

end AotClassification

end Postmortem
