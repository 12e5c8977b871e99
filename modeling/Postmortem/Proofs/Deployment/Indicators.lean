import Postmortem.Proofs.Deployment.Overflow

/-!
# What the indicators of frames show

Each symbol pattern has at most one indicator, and no text is the match of two of them. So a text
that holds several patterns counts once, for the first of them that is still without a text
(`FrameEvidence`). Nothing is missed by this: where a pattern goes without an indicator, an earlier
one has taken the text.

* `frameEvidence_frameIndicators`: the search is sound and complete in this sense.
* `isAot_iff_shows`: one sign of ahead-of-time compilation is as good as many, if one is enough.
* `frameEvidence_ofProcess`: **both, of the evidence of a process and of its classification.**
-/

namespace Postmortem

variable {threads : List Thread}

/-- Whether a text is the function, the module or the source file of a frame. -/
def ShowsText (threads : List Thread) (text : String) : Prop :=
  ∃ thread ∈ threads, ∃ frame ∈ thread.callStack, ∃ field, frame.textOf field = some text

namespace AotIndicator

/-- Whether an indicator was found in a frame. -/
def isOfFrame (i : AotIndicator) : Bool := i.source != .moduleList

/-- Whether an indicator names a frame of a thread and a field of it, and the text of this field is
the one matched and holds the pattern. -/
def PointsInto (threads : List Thread) (i : AotIndicator) : Prop :=
  ∃ thread ∈ threads, ∃ frame ∈ thread.callStack, ∃ field,
    i.source = .frame field ∧ i.frame = some ⟨thread.id.raw, frame.index⟩ ∧
      frame.textOf field = some i.matched ∧ mentions i.matched i.pattern = true

end AotIndicator

/-- **What the frame indicators of threads show.** -/
structure FrameEvidence (threads : List Thread) (indicators : List AotIndicator) : Prop where
  /-- The patterns stand in the order of the table. -/
  inOrder : (indicators.map AotIndicator.pattern).Sublist aotSymbols
  pattern_nodup : (indicators.map AotIndicator.pattern).Nodup
  matched_nodup : (indicators.map AotIndicator.matched).Nodup
  sound : ∀ i ∈ indicators, i.PointsInto threads
  /-- A pattern without indicator occurs only where a pattern before it has matched. -/
  complete : ∀ symbol ∈ aotSymbols, symbol ∉ indicators.map AotIndicator.pattern →
    ∀ text, ShowsText threads text → mentions text symbol = true →
      ∃ i ∈ indicators, i.matched = text ∧ [i.pattern, symbol].Sublist aotSymbols

/-! ## Frames -/

theorem mem_frameTexts {text : String} : text ∈ frameTexts threads ↔ ShowsText threads text := by
  unfold frameTexts ShowsText
  rw [List.mem_toFinset, List.mem_map]
  constructor
  · rintro ⟨s, hs, rfl⟩
    obtain ⟨thread, hthread, frame, hframe, -, htext⟩ := mem_sightings.1 hs
    exact ⟨thread, hthread, frame, hframe, s.field, htext⟩
  · rintro ⟨thread, hthread, frame, hframe, field, htext⟩
    exact ⟨⟨⟨thread.id.raw, frame.index⟩, field, text⟩,
      mem_sightings.2 ⟨thread, hthread, frame, hframe, rfl, htext⟩, rfl⟩

theorem symbolClaims_eq_map (threads : List Thread) : symbolClaims threads =
    (frameIndicators threads).map fun i => (i.pattern, i.matched) := by
  unfold symbolClaims frameIndicators
  rw [List.map_map]
  rfl

theorem map_fst_symbolClaims (threads : List Thread) :
    (symbolClaims threads).map Prod.fst = (frameIndicators threads).map AotIndicator.pattern := by
  rw [symbolClaims_eq_map, List.map_map]
  rfl

theorem map_snd_symbolClaims (threads : List Thread) :
    (symbolClaims threads).map Prod.snd = (frameIndicators threads).map AotIndicator.matched := by
  rw [symbolClaims_eq_map, List.map_map]
  rfl

theorem pointsInto_of_mem_frameIndicators {i : AotIndicator} (h : i ∈ frameIndicators threads) :
    i.PointsInto threads := by
  obtain ⟨hit, hhit, rfl⟩ := List.mem_map.1 h
  obtain ⟨hs, hmentions⟩ := mem_firstSightings hhit
  obtain ⟨thread, hthread, frame, hframe, hwhere, htext⟩ := mem_sightings.1 hs
  exact ⟨thread, hthread, frame, hframe, hit.2.field, rfl, congrArg some hwhere, htext, hmentions⟩

/-- **The indicators of frames count no text twice and miss none.** -/
theorem frameEvidence_frameIndicators (threads : List Thread) :
    FrameEvidence threads (frameIndicators threads) := by
  have hclaims := claims_symbolClaims threads
  have hpatterns := hclaims.map_fst_sublist
  have hmatched := hclaims.nodup_map_snd
  rw [map_fst_symbolClaims] at hpatterns
  rw [map_snd_symbolClaims] at hmatched
  refine
    { inOrder := hpatterns
      pattern_nodup := List.Nodup.sublist hpatterns (by decide)
      matched_nodup := hmatched
      sound := fun i => pointsInto_of_mem_frameIndicators
      complete := fun symbol hsymbol hnone text htext hmentions => ?_ }
  -- nothing was claimed before the first pattern, so an earlier pattern of the table has the text
  rw [← map_fst_symbolClaims] at hnone
  rcases hclaims.exists_before_of_notMem hsymbol hnone (mem_frameTexts.2 htext) hmentions with
    hclaimed | ⟨before, hfound, hbefore⟩
  · exact absurd hclaimed (Finset.notMem_empty text)
  · rw [symbolClaims_eq_map] at hfound
    obtain ⟨i, hi, hpair⟩ := List.mem_map.1 hfound
    obtain ⟨rfl, rfl⟩ := Prod.mk.inj hpair
    exact ⟨i, hi, rfl, hbefore⟩

/-! ## Processes -/

/-- Whether some text of a frame holds a symbol pattern. -/
def ShowsSymbol (threads : List Thread) : Prop :=
  ∃ symbol ∈ aotSymbols, ∃ text, ShowsText threads text ∧ mentions text symbol = true

/-- Whether the name of some module holds a module pattern. -/
def ShowsModule (modules : List LoadedModule) : Prop :=
  ∃ pattern ∈ aotModules, ∃ m ∈ modules, mentions m.name pattern = true

theorem length_frameIndicators_pos_iff :
    0 < (frameIndicators threads).length ↔ ShowsSymbol threads := by
  rw [length_frameIndicators, List.length_pos_iff, (claims_symbolClaims threads).ne_nil_iff]
  simp only [mem_frameTexts]
  rfl

theorem length_moduleIndicators_pos_iff {modules : List LoadedModule} :
    0 < (moduleIndicators modules).length ↔ ShowsModule modules := by
  rw [length_moduleIndicators, List.length_pos_iff, (claims_moduleClaims modules).ne_nil_iff]
  simp only [List.mem_toFinset, List.mem_map, exists_exists_and_eq_and]
  rfl

namespace AotClassification

variable {config : Config} {modules : List LoadedModule}

/-- The frame indicators of a classification are those of the threads. -/
theorem filter_isOfFrame_indicators :
    (ofEvidence config modules threads).indicators.filter AotIndicator.isOfFrame =
      frameIndicators threads := by
  have hframes : (frameIndicators threads).filter AotIndicator.isOfFrame =
      frameIndicators threads := by
    refine List.filter_eq_self.2 fun i hi => ?_
    obtain ⟨hit, -, rfl⟩ := List.mem_map.1 hi
    rfl
  have hmodules : (moduleIndicators modules).filter AotIndicator.isOfFrame = [] := by
    refine List.filter_eq_nil_iff.2 fun i hi => ?_
    obtain ⟨hit, -, rfl⟩ := List.mem_map.1 hi
    exact Bool.false_ne_true
  rw [indicators_ofEvidence, List.filter_append, hframes, hmodules, List.append_nil]

/-- Without a compiler, and where one indicator is enough, any sign is enough. -/
theorem isAot_iff_shows (hcompiler : Postmortem.hasOnDemandCompiler modules = false)
    (hone : config.aot.withoutCompiler = 1) :
    (ofEvidence config modules threads).isAot = true ↔
      ShowsSymbol threads ∨ ShowsModule modules := by
  rw [isAot_ofEvidence, hcompiler, hone, indicators_ofEvidence, List.length_append, Bool.not_false,
    Bool.true_and, decide_eq_true_eq, ← length_frameIndicators_pos_iff,
    ← length_moduleIndicators_pos_iff]
  omega

/-- **A classification that counts no text twice and misses no sign.** -/
structure EvidencedBy (config : Config) (modules : List LoadedModule) (threads : List Thread)
    (c : AotClassification) : Prop where
  frames : FrameEvidence threads (c.indicators.filter AotIndicator.isOfFrame)
  isAot_iff : Postmortem.hasOnDemandCompiler modules = false → config.aot.withoutCompiler = 1 →
    (c.isAot = true ↔ ShowsSymbol threads ∨ ShowsModule modules)

theorem evidencedBy_ofEvidence (config : Config) (modules : List LoadedModule)
    (threads : List Thread) :
    EvidencedBy config modules threads (ofEvidence config modules threads) where
  frames := by
    rw [filter_isOfFrame_indicators]
    exact frameEvidence_frameIndicators threads
  isAot_iff := isAot_iff_shows

/-- **No text is counted twice and no sign is missed**, whatever the process is classified for. -/
theorem frameEvidence_ofProcess (config : Config) (modules : List LoadedModule)
    (threads : List Thread) (exceptionType : Option String) :
    EvidencedBy config modules threads (ofEvidence config modules threads) ∧
      ∀ c, ofProcess config modules threads exceptionType = .ok c →
        EvidencedBy config modules threads c := by
  have hevidence := evidencedBy_ofEvidence config modules threads
  refine ⟨hevidence, fun c hc => ?_⟩
  rw [← evidence_of_ofProcess hc] at hevidence
  exact ⟨hevidence.frames, hevidence.isAot_iff⟩

/-- A text that holds three patterns is the match of the first of them, and is sign enough. -/
theorem frameEvidence_ofProcess_shared :
    let threads := [threadWith "1" ["Main", "S_P_CoreLib_RuntimeImports__RhpNewFast"]]
    let modules : List LoadedModule := [{ name := "app" }]
    let c := ofExactScore {} modules threads (some "System.MissingMethodException")
    let found := c.indicators.filter AotIndicator.isOfFrame
    Postmortem.hasOnDemandCompiler modules = false ∧ ({} : Config).aot.withoutCompiler = 1 ∧
      ofProcess {} modules threads (some "System.MissingMethodException") = .ok c ∧
      found.map AotIndicator.pattern = ["S_P_CoreLib_"] ∧ FrameEvidence threads found ∧
      (c.isAot = true ↔ ShowsSymbol threads ∨ ShowsModule modules) := by
  intro threads modules c found
  have hcompiler : Postmortem.hasOnDemandCompiler modules = false := by decide +kernel
  have hpatterns : found.map AotIndicator.pattern = ["S_P_CoreLib_"] := by decide +kernel
  have hclassified : ofProcess {} modules threads (some "System.MissingMethodException") = .ok c :=
    ofProcess_eq_ok_iff.2 ⟨scoreFits_of_greatestScore (by decide +kernel), rfl⟩
  obtain ⟨hframes, hiff⟩ := (frameEvidence_ofProcess {} modules threads
    (some "System.MissingMethodException")).2 c hclassified
  exact ⟨hcompiler, rfl, hclassified, hpatterns, hframes, hiff hcompiler rfl⟩

end AotClassification

end Postmortem
