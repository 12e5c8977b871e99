import Postmortem.Config.Basic
import Postmortem.Deployment.Patterns
import Postmortem.Exception.Category
import Postmortem.LoadedModule
import Postmortem.Number.Word
import Postmortem.Thread

/-!
# Classification of a deployment

Whether a process was compiled ahead of time and, if it crashed because something could not be
found, how likely trimming is to blame. A loaded on-demand compiler is a veto: whatever the frames
show, the process then compiles on demand.
-/

namespace Postmortem

open Text

/-- Where an indicator was found. -/
inductive IndicatorSource where
  | frame (field : FrameField)
  | moduleList
deriving DecidableEq, Repr, Inhabited

/-- A frame of a process. -/
structure FrameRef where
  thread : String
  frameIndex : Nat
deriving DecidableEq, Repr, Inhabited

/-- A mark of ahead-of-time compilation. -/
structure AotIndicator where
  source : IndicatorSource
  pattern : String
  matched : String
  frame : Option FrameRef
deriving DecidableEq, Repr, Inhabited

/-- A call of a reflection function. -/
structure ReflectionUsage where
  pattern : String
  risk : RiskLevel
  function : String
  frame : FrameRef
deriving DecidableEq, Repr, Inhabited

/-- How sure the trimming analysis is. -/
inductive Confidence where
  | low
  | medium
  | high
deriving DecidableEq, Repr, Inhabited

/-- The name of a confidence in texts. -/
def Confidence.label : Confidence → String
  | low => "Low"
  | medium => "Medium"
  | high => "High"

/-- Whether trimming explains a resolution failure. -/
structure TrimmingAnalysis where
  category : ExceptionCategory
  likelyTrimmed : Bool
  confidence : Confidence
  score : Nat
  evidence : List String
  recommendations : List String
deriving DecidableEq, Repr, Inhabited

/-- How a process was deployed. -/
structure AotClassification where
  isAot : Bool
  hasOnDemandCompiler : Bool
  /-- Without a module list the veto could not be checked. -/
  moduleListAvailable : Bool
  /-- A compiler is loaded, and yet there are many indicators. -/
  mixedEvidence : Bool
  indicators : List AotIndicator
  reflectionUsage : List ReflectionUsage
  trimming : Option TrimmingAnalysis
deriving DecidableEq, Repr, Inhabited

/-- Whether an on-demand compiler is among the modules. -/
def hasOnDemandCompiler (modules : List LoadedModule) : Bool :=
  modules.any fun m => compilerModules.any fun fragment =>
    mentions m.key fragment ||
      occursIn fragment.toList (asciiLower (m.path.getD "").toList)

/-- For each pattern in turn, the first sighting that holds it and is not claimed. A sighting
claims its text, so that a less specific pattern does not count the text again. -/
def firstSightings {π σ : Type} (fragment : π → String) (text : σ → String) (sightings : List σ) :
    (claimed : List String) → List π → List (π × σ)
  | _, [] => []
  | claimed, p :: ps =>
    match sightings.find? fun s => mentions (text s) (fragment p) && !claimed.contains (text s) with
    | some s => (p, s) :: firstSightings fragment text sightings (text s :: claimed) ps
    | none => firstSightings fragment text sightings claimed ps

/-- A text of a frame. -/
structure Sighting where
  frame : FrameRef
  field : FrameField
  text : String
deriving DecidableEq, Repr

/-- The texts of all frames, thread by thread from the inside out. -/
def sightings (threads : List Thread) : List Sighting :=
  threads.flatMap fun thread => thread.callStack.flatMap fun frame =>
    frame.searchable.map fun (field, text) => ⟨⟨thread.id.raw, frame.index⟩, field, text⟩

/-- The indicators among the frames. -/
def frameIndicators (threads : List Thread) : List AotIndicator :=
  (firstSightings id Sighting.text (sightings threads) [] aotSymbols).map fun (pattern, s) =>
    { source := .frame s.field, pattern, matched := s.text, frame := some s.frame }

/-- The indicators among the modules. -/
def moduleIndicators (modules : List LoadedModule) : List AotIndicator :=
  (firstSightings id LoadedModule.name modules [] aotModules).map fun (pattern, m) =>
    { source := .moduleList, pattern, matched := m.name, frame := none }

/-- The reflection functions among the frames. -/
def reflectionUsages (threads : List Thread) : List ReflectionUsage :=
  let functions := (sightings threads).filter fun s => s.field == .function
  (firstSightings ReflectionPattern.fragment Sighting.text functions [] reflectionPatterns).map
    fun (pattern, s) =>
      { pattern := pattern.fragment, risk := pattern.risk, function := s.text, frame := s.frame }

namespace AotClassification

/-- Whether a module list shows that no on-demand compiler is loaded. -/
def compilerAbsent (c : AotClassification) : Bool :=
  c.moduleListAvailable && !c.hasOnDemandCompiler

/-- The weight of the evidence, in 32-bit arithmetic. Each kind of evidence counts up to its cap. -/
def score (weights : EvidenceWeights) (c : AotClassification) : Except Overflow Nat := do
  let indicators ← mul32 (min c.indicators.length weights.indicatorCap) weights.perIndicator
  let usages ← mul32 (min c.reflectionUsage.length weights.reflectionCap)
    weights.perReflectionUsage
  let counted ← add32 indicators usages
  let classified ← (if c.isAot then add32 counted weights.aotClassified else pure counted)
  if c.compilerAbsent then add32 classified weights.compilerAbsent else pure classified

/-- The confidence that a score deserves. -/
def confidenceOf (weights : EvidenceWeights) (score : Nat) : Confidence :=
  if weights.highThreshold ≤ score then .high
  else if weights.mediumThreshold ≤ score then .medium
  else .low

/-- The evidence in words. -/
def evidence (c : AotClassification) : List String :=
  (if c.isAot then ["process classified as ahead-of-time compiled"] else []) ++
  (if c.compilerAbsent then ["no on-demand compiler module is loaded"] else []) ++
  (if c.indicators.isEmpty then [] else
    [s!"{c.indicators.length} ahead-of-time indicator(s): " ++
      ", ".intercalate (c.indicators.map AotIndicator.pattern)]) ++
  (if c.mixedEvidence then
    ["ahead-of-time indicators alongside a loaded compiler " ++
      "(precompiled code in a JIT process)"] else []) ++
  c.reflectionUsage.map fun usage =>
    s!"{usage.risk.label}-risk reflection in {usage.function} " ++
      s!"(thread {usage.frame.thread}, frame {usage.frame.frameIndex})"

/-- What to do about a resolution failure. -/
def recommendations (c : AotClassification) (category : ExceptionCategory) : List String :=
  category.remediation.toList ++
  (if c.reflectionUsage.any fun usage => usage.risk == .high then
    ["Replace dynamic code generation and name-based type loading with " ++
      "source generators or statically referenced types."] else []) ++
  (if c.isAot then
    ["Rebuild with trim analysis warnings enabled and resolve every " ++
      "IL2026/IL3050 warning on the failing call path."] else [])

/-- How likely trimming explains a failure, by the score of the evidence. -/
def trimmingOfScore (weights : EvidenceWeights) (c : AotClassification)
    (category : ExceptionCategory) (score : Nat) : TrimmingAnalysis :=
  let confidence := confidenceOf weights score
  { category
    likelyTrimmed := confidence != .low
    confidence, score
    evidence := c.evidence
    recommendations := c.recommendations category }

/-- How likely trimming explains a failure. -/
def trimmingAnalysis (weights : EvidenceWeights) (c : AotClassification)
    (category : ExceptionCategory) : Except Overflow TrimmingAnalysis := do
  return c.trimmingOfScore weights category (← c.score weights)

/-- Classifies a process by the evidence in its modules and threads. -/
def ofEvidence (config : Config) (modules : List LoadedModule) (threads : List Thread) :
    AotClassification :=
  let hasCompiler := Postmortem.hasOnDemandCompiler modules
  let indicators := frameIndicators threads ++ moduleIndicators modules
  { isAot := !hasCompiler && config.aot.withoutCompiler ≤ indicators.length
    hasOnDemandCompiler := hasCompiler
    moduleListAvailable := !modules.isEmpty
    mixedEvidence := hasCompiler && config.aot.withCompiler ≤ indicators.length
    indicators
    reflectionUsage := reflectionUsages threads
    trimming := none }

/-- Classifies a process. Trimming is only considered for an exception that is a resolution
failure, and nothing is classified if the score of its evidence overflows. -/
def ofProcess (config : Config) (modules : List LoadedModule) (threads : List Thread)
    (exceptionType : Option String) : Except Overflow AotClassification := do
  let classification := ofEvidence config modules threads
  let category := ExceptionCategory.ofType? exceptionType
  if category.isResolutionFailure then
    let trimming ← classification.trimmingAnalysis config.evidenceWeights category
    return { classification with trimming }
  else
    return classification

end AotClassification

end Postmortem
