import Postmortem.Proofs.Deployment.Overflow

/-!
# More threads

A pattern that finds nothing in some threads may find a text in threads behind them, and that text
is then claimed for all patterns after it. This disturbs none of the earlier finds: a text of the
first threads is claimed in the longer search only if it is in the shorter one, since the pattern
would have taken it there. So the two searches agree about all texts of the first threads, pattern
by pattern (`firstSightings_append_sublist`).

* `frameIndicators_append_sublist`, `reflectionUsages_append_sublist`: what is found in some threads
  is found, in this order, among more of them.
* `ofProcess_append`: **more threads never weaken the evidence.**
-/

namespace Postmortem

/-- **What is found is found among more sightings**, if the same of the first ones are claimed. -/
theorem firstSightings_append_sublist {π σ : Type} (fragment : π → String) (text : σ → String)
    {sightings : List σ} (more : List σ) {claimed claimed' : List String} (patterns : List π)
    (hsame : ∀ s ∈ sightings, text s ∈ claimed ↔ text s ∈ claimed') :
    (firstSightings fragment text sightings claimed patterns).Sublist
      (firstSightings fragment text (sightings ++ more) claimed' patterns) := by
  -- along the table; the claimed texts may differ, but not about the first sightings
  induction patterns generalizing claimed claimed' with
  | nil => exact List.Sublist.refl []
  | cons p ps ih =>
    have hfind : sightings.find? (fun s =>
          mentions (text s) (fragment p) && !claimed.contains (text s)) =
        sightings.find? fun s =>
          mentions (text s) (fragment p) && !claimed'.contains (text s) := by
      refine List.find?_congr fun s hs => ?_
      rw [List.contains_eq_mem, List.contains_eq_mem, decide_eq_decide.2 (hsame s hs)]
    rw [firstSightings, firstSightings, List.find?_append, hfind]
    cases hfirst : sightings.find? fun s =>
        mentions (text s) (fragment p) && !claimed'.contains (text s) with
    | some s =>
      refine List.Sublist.cons_cons _ (ih fun u hu => ?_)
      rw [List.mem_cons, List.mem_cons, hsame u hu]
    | none =>
      rw [Option.none_or]
      cases hmore : more.find? fun s =>
          mentions (text s) (fragment p) && !claimed'.contains (text s) with
      | none => exact ih hsame
      | some s =>
        obtain ⟨-, hholds, -⟩ := free_of_find?_eq_some hmore
        refine List.Sublist.cons _ (ih fun u hu => ?_)
        rw [hsame u hu, List.mem_cons, iff_or_self]
        -- a pattern without a find has all its texts among the first sightings claimed
        intro htext
        exact claimed_of_find?_eq_none hfirst hu (htext ▸ hholds)

theorem sightings_append (threads extra : List Thread) :
    sightings (threads ++ extra) = sightings threads ++ sightings extra := List.flatMap_append

theorem frameIndicators_append_sublist (threads extra : List Thread) :
    (frameIndicators threads).Sublist (frameIndicators (threads ++ extra)) := by
  unfold frameIndicators
  rw [sightings_append]
  exact (firstSightings_append_sublist id Sighting.text _ aotSymbols fun _ _ => Iff.rfl).map _

theorem reflectionUsages_append_sublist (threads extra : List Thread) :
    (reflectionUsages threads).Sublist (reflectionUsages (threads ++ extra)) := by
  unfold reflectionUsages
  rw [sightings_append, List.filter_append]
  exact (firstSightings_append_sublist ReflectionPattern.fragment Sighting.text _
    reflectionPatterns fun _ _ => Iff.rfl).map _

namespace AotClassification

/-- **Whether a classification has all the evidence of another.** -/
structure Extends (weights : EvidenceWeights) (c c' : AotClassification) : Prop where
  indicators : c.indicators.Sublist c'.indicators
  reflectionUsage : c.reflectionUsage.Sublist c'.reflectionUsage
  isAot : c.isAot = true → c'.isAot = true
  mixedEvidence : c.mixedEvidence = true → c'.mixedEvidence = true
  exactScore_le : c.exactScore weights ≤ c'.exactScore weights

theorem extends_ofEvidence_append (config : Config) (modules : List LoadedModule)
    (threads extra : List Thread) :
    Extends config.evidenceWeights (ofEvidence config modules threads)
      (ofEvidence config modules (threads ++ extra)) := by
  have hindicators : (ofEvidence config modules threads).indicators.Sublist
      (ofEvidence config modules (threads ++ extra)).indicators :=
    (frameIndicators_append_sublist threads extra).append (List.Sublist.refl _)
  have husage : (ofEvidence config modules threads).reflectionUsage.Sublist
      (ofEvidence config modules (threads ++ extra)).reflectionUsage :=
    reflectionUsages_append_sublist threads extra
  have hreaches : ∀ threshold : ℕ,
      threshold ≤ (ofEvidence config modules threads).indicators.length →
        threshold ≤ (ofEvidence config modules (threads ++ extra)).indicators.length :=
    fun _ h => h.trans hindicators.length_le
  have haot : (ofEvidence config modules threads).isAot = true →
      (ofEvidence config modules (threads ++ extra)).isAot = true := by
    rw [isAot_ofEvidence, isAot_ofEvidence, Bool.and_eq_true, Bool.and_eq_true, decide_eq_true_eq,
      decide_eq_true_eq]
    exact And.imp_right (hreaches _)
  refine
    { indicators := hindicators
      reflectionUsage := husage
      isAot := haot
      mixedEvidence := ?_
      exactScore_le := exactScore_mono hindicators.length_le husage.length_le haot id }
  rw [mixedEvidence_ofEvidence, mixedEvidence_ofEvidence, Bool.and_eq_true, Bool.and_eq_true,
    decide_eq_true_eq, decide_eq_true_eq]
  exact And.imp_right (hreaches _)

/-- **More threads never weaken the evidence**, nor a classification by it. -/
theorem ofProcess_append (config : Config) (modules : List LoadedModule)
    (threads extra : List Thread) (exceptionType : Option String) :
    Extends config.evidenceWeights (ofEvidence config modules threads)
        (ofEvidence config modules (threads ++ extra)) ∧
      ∀ c c', ofProcess config modules threads exceptionType = .ok c →
        ofProcess config modules (threads ++ extra) exceptionType = .ok c' →
          Extends config.evidenceWeights c c' := by
  have hextends := extends_ofEvidence_append config modules threads extra
  refine ⟨hextends, fun c c' hc hc' => ?_⟩
  rw [← evidence_of_ofProcess hc, ← evidence_of_ofProcess hc'] at hextends
  exact ⟨hextends.indicators, hextends.reflectionUsage, hextends.isAot, hextends.mixedEvidence,
    hextends.exactScore_le⟩

/-- A second thread holds a text for the pattern that the first one has none left for. -/
theorem ofProcess_append_overlap :
    let threads := [threadWith "1" ["S_P_CoreLib_RuntimeImports__RhpNewFast"]]
    let extra := [threadWith "2" ["RhpNewFast"]]
    let modules : List LoadedModule := [{ name := "app" }]
    let c := ofExactScore {} modules threads (some "System.MissingMethodException")
    let c' := ofExactScore {} modules (threads ++ extra) (some "System.MissingMethodException")
    ofProcess {} modules threads (some "System.MissingMethodException") = .ok c ∧
      ofProcess {} modules (threads ++ extra) (some "System.MissingMethodException") = .ok c' ∧
      c.indicators.map AotIndicator.pattern = ["S_P_CoreLib_"] ∧
      c'.indicators.map AotIndicator.pattern = ["S_P_CoreLib_", "RhpNewFast"] ∧
      Extends ({} : Config).evidenceWeights c c' := by
  intro threads extra modules c c'
  have hc : ofProcess {} modules threads (some "System.MissingMethodException") = .ok c :=
    ofProcess_eq_ok_iff.2 ⟨scoreFits_of_greatestScore (by decide +kernel), rfl⟩
  have hc' : ofProcess {} modules (threads ++ extra) (some "System.MissingMethodException") =
      .ok c' := ofProcess_eq_ok_iff.2 ⟨scoreFits_of_greatestScore (by decide +kernel), rfl⟩
  exact ⟨hc, hc', by decide +kernel, by decide +kernel,
    (ofProcess_append {} modules threads extra (some "System.MissingMethodException")).2 c c' hc
      hc'⟩

end AotClassification

end Postmortem
