import Postmortem.Proofs.Deployment.Claims

/-!
# Evidence of a process

What a process is classified by: the texts of its frames, the names of its modules, and what the
patterns claim among them.

* `mem_sightings`: a sighting is the function, the module or the source file of a frame.
* `claims_symbolClaims`, `claims_moduleClaims`, `claims_reflectionClaims`: the patterns of each
  table claim texts in turn.
* `isAot_ofEvidence`, `mixedEvidence_ofEvidence`: what follows for the process.
* `exactScore_mono`: the score grows with the evidence.
-/

namespace Postmortem

variable {threads : List Thread}

/-! ## Texts of frames -/

theorem Frame.mem_searchable {frame : Frame} {field : FrameField} {text : String} :
    (field, text) ∈ frame.searchable ↔ frame.textOf field = some text := by
  unfold searchable
  rw [List.mem_filterMap]
  constructor
  · rintro ⟨field, -, h⟩
    obtain ⟨text, htext, hpair⟩ := Option.map_eq_some_iff.1 h
    cases hpair
    exact htext
  · intro h
    refine ⟨field, by cases field <;> simp, ?_⟩
    rw [h]
    rfl

/-- **A sighting is a text of a frame of a thread.** -/
theorem mem_sightings {s : Sighting} : s ∈ sightings threads ↔
    ∃ thread ∈ threads, ∃ frame ∈ thread.callStack,
      s.frame = ⟨thread.id.raw, frame.index⟩ ∧ frame.textOf s.field = some s.text := by
  unfold sightings
  simp only [List.mem_flatMap, List.mem_map]
  constructor
  · rintro ⟨thread, hthread, frame, hframe, ⟨field, text⟩, hpair, rfl⟩
    exact ⟨thread, hthread, frame, hframe, rfl, Frame.mem_searchable.1 hpair⟩
  · rintro ⟨thread, hthread, frame, hframe, hwhere, htext⟩
    refine ⟨thread, hthread, frame, hframe, (s.field, s.text), Frame.mem_searchable.2 htext, ?_⟩
    rw [← hwhere]

/-- Whether the name of a symbol or module occurs in a text. -/
def holdsSymbol (symbol text : String) : Bool := mentions text symbol

/-- Whether a reflection pattern occurs in a text. -/
def holdsReflection (pattern : ReflectionPattern) (text : String) : Bool :=
  mentions text pattern.fragment

/-- The texts of the frames. -/
def frameTexts (threads : List Thread) : Finset String :=
  ((sightings threads).map Sighting.text).toFinset

/-- The functions of the frames. -/
def frameFunctions (threads : List Thread) : Finset String :=
  (((sightings threads).filter fun s => s.field == .function).map Sighting.text).toFinset

/-! ## Indicators and usages -/

/-- The texts that the symbol patterns claim. -/
def symbolClaims (threads : List Thread) : List (String × String) :=
  (firstSightings id Sighting.text (sightings threads) [] aotSymbols).map
    fun hit => (hit.1, hit.2.text)

/-- The functions that the reflection patterns claim. -/
def reflectionClaims (threads : List Thread) : List (ReflectionPattern × String) :=
  (firstSightings ReflectionPattern.fragment Sighting.text
    ((sightings threads).filter fun s => s.field == .function) [] reflectionPatterns).map
    fun hit => (hit.1, hit.2.text)

/-- The names that the module patterns claim. -/
def moduleClaims (modules : List LoadedModule) : List (String × String) :=
  (firstSightings id LoadedModule.name modules [] aotModules).map fun hit => (hit.1, hit.2.name)

theorem claims_symbolClaims (threads : List Thread) :
    Claims holdsSymbol (frameTexts threads) ∅ aotSymbols (symbolClaims threads) :=
  claims_firstSightings id Sighting.text _ [] aotSymbols

theorem claims_moduleClaims (modules : List LoadedModule) :
    Claims holdsSymbol (modules.map LoadedModule.name).toFinset ∅ aotModules
      (moduleClaims modules) :=
  claims_firstSightings id LoadedModule.name _ [] aotModules

theorem claims_reflectionClaims (threads : List Thread) :
    Claims holdsReflection (frameFunctions threads) ∅ reflectionPatterns
      (reflectionClaims threads) :=
  claims_firstSightings ReflectionPattern.fragment Sighting.text _ [] reflectionPatterns

theorem length_frameIndicators (threads : List Thread) :
    (frameIndicators threads).length = (symbolClaims threads).length := by
  simp only [frameIndicators, symbolClaims, List.length_map]

theorem length_moduleIndicators (modules : List LoadedModule) :
    (moduleIndicators modules).length = (moduleClaims modules).length := by
  simp only [moduleIndicators, moduleClaims, List.length_map]

theorem length_reflectionUsages (threads : List Thread) :
    (reflectionUsages threads).length = (reflectionClaims threads).length := by
  simp only [reflectionUsages, reflectionClaims, List.length_map]

/-! ## Classifications -/

namespace AotClassification

variable {config : Config} {modules : List LoadedModule}

theorem indicators_ofEvidence : (ofEvidence config modules threads).indicators =
    frameIndicators threads ++ moduleIndicators modules := rfl

theorem reflectionUsage_ofEvidence :
    (ofEvidence config modules threads).reflectionUsage = reflectionUsages threads := rfl

theorem isAot_ofEvidence : (ofEvidence config modules threads).isAot =
    (!Postmortem.hasOnDemandCompiler modules && decide (config.aot.withoutCompiler ≤
      (ofEvidence config modules threads).indicators.length)) := rfl

theorem mixedEvidence_ofEvidence : (ofEvidence config modules threads).mixedEvidence =
    (Postmortem.hasOnDemandCompiler modules && decide (config.aot.withCompiler ≤
      (ofEvidence config modules threads).indicators.length)) := rfl

theorem compilerAbsent_ofEvidence : (ofEvidence config modules threads).compilerAbsent =
    (!modules.isEmpty && !Postmortem.hasOnDemandCompiler modules) := rfl

/-- A thread with one frame for each function, the first one innermost. -/
def threadWith (id : String) (functions : List String) : Thread where
  id := .parse id
  callStack := renumber (functions.map fun function => { function := some function })

/-! ## Scores -/

variable {weights : EvidenceWeights} {c c' : AotClassification}

/-- The weight of the evidence, without a bound. -/
def exactScore (weights : EvidenceWeights) (c : AotClassification) : ℕ :=
  min c.indicators.length weights.indicatorCap * weights.perIndicator +
    min c.reflectionUsage.length weights.reflectionCap * weights.perReflectionUsage +
    (if c.isAot then weights.aotClassified else 0) +
    (if c.compilerAbsent then weights.compilerAbsent else 0)

/-- A score is at most that of more evidence with greater extras. -/
theorem exactScore_le {indicators usages classified absent : ℕ}
    (hindicators : c.indicators.length ≤ indicators) (husage : c.reflectionUsage.length ≤ usages)
    (hclassified : (if c.isAot then weights.aotClassified else 0) ≤ classified)
    (habsent : (if c.compilerAbsent then weights.compilerAbsent else 0) ≤ absent) :
    c.exactScore weights ≤ min indicators weights.indicatorCap * weights.perIndicator +
      min usages weights.reflectionCap * weights.perReflectionUsage + classified + absent := by
  have hcounted := Nat.mul_le_mul_right weights.perIndicator
    (min_le_min_right weights.indicatorCap hindicators)
  have hcounted' := Nat.mul_le_mul_right weights.perReflectionUsage
    (min_le_min_right weights.reflectionCap husage)
  unfold exactScore
  omega

/-- **The score grows with the evidence.** -/
theorem exactScore_mono (hindicators : c.indicators.length ≤ c'.indicators.length)
    (husage : c.reflectionUsage.length ≤ c'.reflectionUsage.length)
    (haot : c.isAot = true → c'.isAot = true)
    (habsent : c.compilerAbsent = true → c'.compilerAbsent = true) :
    c.exactScore weights ≤ c'.exactScore weights := by
  have hextra : ∀ {b b' : Bool} (weight : ℕ), (b = true → b' = true) →
      (if b then weight else 0) ≤ if b' then weight else 0 := by
    intro b b' weight h
    cases b with
    | false => exact Nat.zero_le _
    | true => rw [h rfl]
  exact exactScore_le hindicators husage (hextra _ haot) (hextra _ habsent)

end AotClassification

end Postmortem
