import Postmortem.Config.Basic
import Postmortem.Json.Fields

/-!
# Configurations as JSON

Every field may be missing and then has its default.
-/

namespace Postmortem

open Json

namespace StackGrowth

/-- The name of a direction in records. -/
def name : StackGrowth → String
  | downward => "downward"
  | upward => "upward"

def toJson (growth : StackGrowth) : Json := .str growth.name

def ofJson? : Json → Option StackGrowth :=
  choice? ([downward, upward].map fun growth => (growth.name, growth))

end StackGrowth

namespace InspectLimits

def toJson (limits : InspectLimits) : Json :=
  .obj [("max_depth", nat limits.maxDepth), ("max_array_elements", nat limits.maxArrayElements),
    ("max_string_length", nat limits.maxStringLength)]

def ofJson? (json : Json) : Option InspectLimits := do
  let fields ← fields? ["max_depth", "max_array_elements", "max_string_length"] json
  let d : InspectLimits := {}
  return { maxDepth := ← fields.withDefault "max_depth" d.maxDepth (nat? 32)
           maxArrayElements :=
            ← fields.withDefault "max_array_elements" d.maxArrayElements (nat? 32)
           maxStringLength :=
            ← fields.withDefault "max_string_length" d.maxStringLength (nat? 32) }

end InspectLimits

namespace IndicatorThresholds

def toJson (thresholds : IndicatorThresholds) : Json :=
  .obj [("min_indicators_without_compiler", nat thresholds.withoutCompiler),
    ("min_indicators_with_compiler", nat thresholds.withCompiler)]

def ofJson? (json : Json) : Option IndicatorThresholds := do
  let fields ← fields?
    ["min_indicators_without_compiler", "min_indicators_with_compiler"] json
  let d : IndicatorThresholds := {}
  return { withoutCompiler :=
            ← fields.withDefault "min_indicators_without_compiler" d.withoutCompiler (nat? 64)
           withCompiler :=
            ← fields.withDefault "min_indicators_with_compiler" d.withCompiler (nat? 64) }

end IndicatorThresholds

namespace EvidenceWeights

def toJson (weights : EvidenceWeights) : Json :=
  .obj [("aot_classified", nat weights.aotClassified),
    ("compiler_absent", nat weights.compilerAbsent),
    ("per_indicator", nat weights.perIndicator), ("indicator_cap", nat weights.indicatorCap),
    ("per_reflection_usage", nat weights.perReflectionUsage),
    ("reflection_cap", nat weights.reflectionCap),
    ("high_threshold", nat weights.highThreshold),
    ("medium_threshold", nat weights.mediumThreshold)]

def ofJson? (json : Json) : Option EvidenceWeights := do
  let fields ← fields? ["aot_classified", "compiler_absent", "per_indicator", "indicator_cap",
    "per_reflection_usage", "reflection_cap", "high_threshold", "medium_threshold"] json
  let weight (name : String) (default : Nat) : Option Nat :=
    fields.withDefault name default (nat? 32)
  let d : EvidenceWeights := {}
  return { aotClassified := ← weight "aot_classified" d.aotClassified
           compilerAbsent := ← weight "compiler_absent" d.compilerAbsent
           perIndicator := ← weight "per_indicator" d.perIndicator
           indicatorCap := ← weight "indicator_cap" d.indicatorCap
           perReflectionUsage := ← weight "per_reflection_usage" d.perReflectionUsage
           reflectionCap := ← weight "reflection_cap" d.reflectionCap
           highThreshold := ← weight "high_threshold" d.highThreshold
           mediumThreshold := ← weight "medium_threshold" d.mediumThreshold }

end EvidenceWeights

namespace LeakThresholds

def toJson (thresholds : LeakThresholds) : Json :=
  .obj [("large_absolute_bytes", nat thresholds.largeAbsoluteBytes),
    ("large_percent", .real thresholds.largePercent),
    ("leak_prone_count", nat thresholds.leakProneCount),
    ("oversized_growth_bytes", nat thresholds.oversizedGrowthBytes),
    ("suspected_types_for_high", nat thresholds.suspectedTypesForHigh)]

def ofJson? (json : Json) : Option LeakThresholds := do
  let fields ← fields? ["large_absolute_bytes", "large_percent", "leak_prone_count",
    "oversized_growth_bytes", "suspected_types_for_high"] json
  let count (name : String) (default : Nat) : Option Nat :=
    fields.withDefault name default (nat? 64)
  let d : LeakThresholds := {}
  return { largeAbsoluteBytes := ← count "large_absolute_bytes" d.largeAbsoluteBytes
           largePercent := ← fields.withDefault "large_percent" d.largePercent real?
           leakProneCount := ← count "leak_prone_count" d.leakProneCount
           oversizedGrowthBytes := ← count "oversized_growth_bytes" d.oversizedGrowthBytes
           suspectedTypesForHigh := ← count "suspected_types_for_high" d.suspectedTypesForHigh }

end LeakThresholds

namespace Config

def toJson (config : Config) : Json :=
  .obj [("command_timeout_secs", nat config.commandTimeoutSecs),
    ("stack_growth", config.stackGrowth.toJson),
    ("sp_extrapolation_stride", nat config.extrapolationStride),
    ("max_exception_depth", nat config.maxExceptionDepth),
    ("max_members", nat config.maxMembers),
    ("inspect_limits", config.inspectLimits.toJson), ("aot", config.aot.toJson),
    ("evidence_weights", config.evidenceWeights.toJson), ("leak", config.leak.toJson)]

def ofJson? (json : Json) : Option Config := do
  let fields ← fields? ["command_timeout_secs", "stack_growth", "sp_extrapolation_stride",
    "max_exception_depth", "max_members", "inspect_limits", "aot", "evidence_weights",
    "leak"] json
  let count (name : String) (default : Nat) : Option Nat :=
    fields.withDefault name default (nat? 64)
  let d : Config := {}
  return { commandTimeoutSecs := ← count "command_timeout_secs" d.commandTimeoutSecs
           stackGrowth := ← fields.withDefault "stack_growth" d.stackGrowth StackGrowth.ofJson?
           extrapolationStride := ← count "sp_extrapolation_stride" d.extrapolationStride
           maxExceptionDepth := ← count "max_exception_depth" d.maxExceptionDepth
           maxMembers := ← count "max_members" d.maxMembers
           inspectLimits :=
            ← fields.withDefault "inspect_limits" d.inspectLimits InspectLimits.ofJson?
           aot := ← fields.withDefault "aot" d.aot IndicatorThresholds.ofJson?
           evidenceWeights :=
            ← fields.withDefault "evidence_weights" d.evidenceWeights EvidenceWeights.ofJson?
           leak := ← fields.withDefault "leak" d.leak LeakThresholds.ofJson? }

end Config

end Postmortem
