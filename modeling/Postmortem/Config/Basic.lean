import Postmortem.Number.Decimal
import Postmortem.Object.Tree

/-!
# Configuration

Every threshold of the analysis. A configuration is valid if no limit is zero and no pair of
thresholds is the wrong way round; the three presets are valid.
-/

namespace Postmortem

/-- The direction in which stacks grow. -/
inductive StackGrowth where
  /-- The innermost frame has the lowest stack pointer. -/
  | downward
  /-- The innermost frame has the highest stack pointer. -/
  | upward
deriving DecidableEq, Repr, Inhabited

/-- How many indicators decide about ahead-of-time compilation. -/
structure IndicatorThresholds where
  /-- Enough to decide for it where no on-demand compiler is loaded. -/
  withoutCompiler : Nat := 1
  /-- Enough to call the evidence mixed where one is loaded. -/
  withCompiler : Nat := 3
deriving DecidableEq, Repr, Inhabited

/-- What each kind of evidence adds to the trimming score. -/
structure EvidenceWeights where
  aotClassified : Nat := 3
  compilerAbsent : Nat := 2
  perIndicator : Nat := 1
  /-- Indicators beyond this number add nothing. -/
  indicatorCap : Nat := 3
  perReflectionUsage : Nat := 1
  /-- Reflection usages beyond this number add nothing. -/
  reflectionCap : Nat := 2
  /-- The least score of high confidence. -/
  highThreshold : Nat := 7
  /-- The least score of medium confidence. -/
  mediumThreshold : Nat := 4
deriving DecidableEq, Repr, Inhabited

/-- When the growth of a heap is a leak. -/
structure LeakThresholds where
  /-- Growth in bytes that makes a leak highly likely on its own. -/
  largeAbsoluteBytes : Nat := 100 * 1024 * 1024
  /-- Growth in percent that makes a leak plausible on its own. -/
  largePercent : Binary64 := .ofInt 50
  /-- Growth in instances beyond which a leak-prone type is suspected. -/
  leakProneCount : Nat := 1000
  /-- Growth in bytes beyond which texts and buffers are suspected. -/
  oversizedGrowthBytes : Nat := 10 * 1024 * 1024
  /-- Suspected types that make a leak highly likely on their own. -/
  suspectedTypesForHigh : Nat := 3
deriving DecidableEq, Repr, Inhabited

/-- The configuration of an analysis. -/
structure Config where
  commandTimeoutSecs : Nat := 60
  stackGrowth : StackGrowth := .downward
  /-- The distance at which a missing stack pointer is assumed next to a known one. -/
  extrapolationStride : Nat := 16
  /-- The greatest length of an exception chain. -/
  maxExceptionDepth : Nat := 20
  /-- The greatest number of members that a diagnosis lists. -/
  maxMembers : Nat := 100
  inspectLimits : InspectLimits := {}
  aot : IndicatorThresholds := {}
  evidenceWeights : EvidenceWeights := {}
  leak : LeakThresholds := {}
deriving DecidableEq, Repr, Inhabited

/-- Why a configuration is not valid. -/
inductive ConfigProblem where
  | zeroTimeout
  | zeroExceptionDepth
  | zeroMembers
  | zeroStride
  | indicatorOrder (withCompiler withoutCompiler : Nat)
  | confidenceOrder (medium high : Nat)
  | percentNotPositive (percent : Binary64)
deriving DecidableEq, Repr

/-- The text of a problem. -/
def ConfigProblem.message : ConfigProblem → String
  | zeroTimeout => "command_timeout_secs must be > 0"
  | zeroExceptionDepth => "max_exception_depth must be >= 1"
  | zeroMembers => "max_members must be >= 1"
  | zeroStride => "sp_extrapolation_stride must be > 0"
  | indicatorOrder withCompiler withoutCompiler =>
    s!"aot.min_indicators_with_compiler ({withCompiler}) must be >= " ++
      s!"min_indicators_without_compiler ({withoutCompiler})"
  | confidenceOrder medium high =>
    s!"evidence_weights.medium_threshold ({medium}) must be <= high_threshold ({high})"
  | percentNotPositive percent => s!"leak.large_percent must be positive, got {percent.positional}"

namespace Config

/-- More growth is needed before a leak is suspected. -/
def strict : Config :=
  { leak := { largePercent := .ofInt 100, leakProneCount := 5000, suspectedTypesForHigh := 5 } }

/-- Little growth suffices to suspect a leak. -/
def permissive : Config :=
  { leak :=
      { largeAbsoluteBytes := 20 * 1024 * 1024
        largePercent := .ofInt 20
        leakProneCount := 200
        oversizedGrowthBytes := 2 * 1024 * 1024
        suspectedTypesForHigh := 2 } }

/-- The first problem of a configuration. -/
def problem? (config : Config) : Option ConfigProblem :=
  let weights := config.evidenceWeights
  if config.commandTimeoutSecs = 0 then some .zeroTimeout
  else if config.maxExceptionDepth = 0 then some .zeroExceptionDepth
  else if config.maxMembers = 0 then some .zeroMembers
  else if config.extrapolationStride = 0 then some .zeroStride
  else if config.aot.withCompiler < config.aot.withoutCompiler then
    some (.indicatorOrder config.aot.withCompiler config.aot.withoutCompiler)
  else if weights.highThreshold < weights.mediumThreshold then
    some (.confidenceOrder weights.mediumThreshold weights.highThreshold)
  else if config.leak.largePercent.isNaN ∨ config.leak.largePercent.rank ≤ 0 then
    some (.percentNotPositive config.leak.largePercent)
  else none

/-- Whether a configuration has no problem. -/
def isValid (config : Config) : Bool := config.problem?.isNone

end Config

end Postmortem
