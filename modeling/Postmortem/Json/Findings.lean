import Postmortem.Deadlock
import Postmortem.Deployment.Classification
import Postmortem.Exception.Chain
import Postmortem.Json.Listings
import Postmortem.Json.Objects
import Postmortem.Member.Resolution

/-!
# Findings as JSON

Exception chains, diagnoses of missing members, classifications of deployments and judgements of
locks.
-/

namespace Postmortem

open Json

namespace ExceptionCategory

def toJson (category : ExceptionCategory) : Json := .str category.name

def ofJson? : Json → Option ExceptionCategory :=
  choice? (all.map fun category => (category.name, category))

end ExceptionCategory

namespace ExceptionNode

/-- The fields of a node, without the exception inside it. -/
def members (node : ExceptionNode) : List (String × Json) :=
  [("depth", nat node.depth), ("type_name", option .str node.typeName),
    ("message", option .str node.message), ("hresult", option .str node.hresult),
    ("address", option Address.toJson node.address), ("source", option .str node.source),
    ("category", node.category.toJson)] ++
  nonEmptyMapMember "custom_fields" .str node.customFields ++
  nonEmptyMember "stack_trace" .str node.stackTrace ++ [("is_cycle", .bool node.isCycle)]

/-- Reads a node without the exception inside it. -/
def ofFields? (fields : Fields) : Option ExceptionNode := do
  return { depth := ← fields.required "depth" (nat? 64)
           typeName := ← fields.optional "type_name" str?
           message := ← fields.optional "message" str?
           hresult := ← fields.optional "hresult" str?
           address := ← fields.optional "address" Address.ofJson?
           source := ← fields.optional "source" str?
           category := ← fields.required "category" ExceptionCategory.ofJson?
           customFields := ← fields.withDefault "custom_fields" ⟨[]⟩ (map? str?)
           stackTrace := ← fields.withDefault "stack_trace" [] (list? str?)
           isCycle := ← fields.withDefault "is_cycle" false bool? }

/-- A chain of nodes, each of which is a member of the one before. -/
def nestedJson (node : ExceptionNode) : List ExceptionNode → Json
  | [] => .obj (node.members ++ [("inner", .null)])
  | next :: rest => .obj (node.members ++ [("inner", nestedJson next rest)])

/-- Reads nested nodes, outermost first, whose record has at most some height. -/
def readNested? : (height : Nat) → Json → Option (ExceptionNode × List ExceptionNode)
  | 0, _ => none
  | height + 1, json => do
    let fields ← fields? ["depth", "type_name", "message", "hresult", "address", "source",
      "category", "custom_fields", "stack_trace", "is_cycle", "inner"] json
    let node ← ofFields? fields
    match ← fields.optional "inner" (readNested? height) with
    | some (next, rest) => return (node, next :: rest)
    | none => return (node, [])

end ExceptionNode

namespace ExceptionChain

def toJson (chain : ExceptionChain) : Json := chain.outermost.nestedJson chain.inner

def ofJson? (json : Json) : Option ExceptionChain := do
  let (outermost, inner) ← ExceptionNode.readNested? json.height json
  return { outermost, inner }

end ExceptionChain

namespace Diagnosis

/-- The name of a diagnosis in records. -/
def name : Diagnosis → String
  | exactMatchFound => "exact_match_found"
  | similarMatchesFound => "similar_matches_found"
  | noMatch => "no_match"
  | typeNotFound => "type_not_found"
  | noMemberRequested => "no_member_requested"
  | membersUnavailable => "members_unavailable"

def toJson (diagnosis : Diagnosis) : Json := .str diagnosis.name

def ofJson? : Json → Option Diagnosis :=
  choice? ([exactMatchFound, similarMatchesFound, noMatch, typeNotFound, noMemberRequested,
    membersUnavailable].map fun diagnosis => (diagnosis.name, diagnosis))

end Diagnosis

namespace MemberRequest

def toJson (request : MemberRequest) : Json :=
  .obj [("type_name", .str request.typeName), ("member_name", option .str request.memberName),
    ("signature", option .str request.signature), ("assembly", option .str request.assembly)]

def ofJson? (json : Json) : Option MemberRequest := do
  let fields ← fields? ["type_name", "member_name", "signature", "assembly"] json
  return { typeName := ← fields.required "type_name" str?
           memberName := ← fields.optional "member_name" str?
           signature := ← fields.optional "signature" str?
           assembly := ← fields.optional "assembly" str? }

end MemberRequest

namespace TypeResolution

def toJson (resolution : TypeResolution) : Json :=
  .obj [("failed_type", .str resolution.failedType),
    ("expected_member", option .str resolution.expectedMember),
    ("expected_signature", option .str resolution.expectedSignature),
    ("assembly", option .str resolution.assembly), ("type_found", .bool resolution.typeFound),
    ("method_table", option Address.toJson resolution.methodTable),
    ("resolved_via", option .str resolution.resolvedVia),
    ("actual_members", list MemberInfo.toJson resolution.actualMembers),
    ("total_members", nat resolution.totalMembers),
    ("members_available", .bool resolution.membersAvailable),
    ("exact_match", .bool resolution.exactMatch),
    ("similar_matches", strings resolution.similarMatches),
    ("diagnosis", resolution.diagnosis.toJson),
    ("diagnosis_text", .str resolution.diagnosisText),
    ("generic_arguments", strings resolution.genericArguments)]

def ofJson? (json : Json) : Option TypeResolution := do
  let fields ← fields? ["failed_type", "expected_member", "expected_signature", "assembly",
    "type_found", "method_table", "resolved_via", "actual_members", "total_members",
    "members_available", "exact_match", "similar_matches", "diagnosis", "diagnosis_text",
    "generic_arguments"] json
  return { failedType := ← fields.required "failed_type" str?
           expectedMember := ← fields.optional "expected_member" str?
           expectedSignature := ← fields.optional "expected_signature" str?
           assembly := ← fields.optional "assembly" str?
           typeFound := ← fields.required "type_found" bool?
           methodTable := ← fields.optional "method_table" Address.ofJson?
           resolvedVia := ← fields.optional "resolved_via" str?
           actualMembers := ← fields.required "actual_members" (list? MemberInfo.ofJson?)
           totalMembers := ← fields.required "total_members" (nat? 64)
           membersAvailable := ← fields.required "members_available" bool?
           exactMatch := ← fields.required "exact_match" bool?
           similarMatches := ← fields.required "similar_matches" (list? str?)
           diagnosis := ← fields.required "diagnosis" Diagnosis.ofJson?
           diagnosisText := ← fields.required "diagnosis_text" str?
           genericArguments := ← fields.required "generic_arguments" (list? str?) }

end TypeResolution

namespace RiskLevel

/-- The name of a level in records. -/
def name : RiskLevel → String
  | low => "low"
  | medium => "medium"
  | high => "high"

def toJson (risk : RiskLevel) : Json := .str risk.name

def ofJson? : Json → Option RiskLevel :=
  choice? ([low, medium, high].map fun risk => (risk.name, risk))

end RiskLevel

namespace Confidence

/-- The name of a confidence in records. -/
def name : Confidence → String
  | low => "low"
  | medium => "medium"
  | high => "high"

def toJson (confidence : Confidence) : Json := .str confidence.name

def ofJson? : Json → Option Confidence :=
  choice? ([low, medium, high].map fun confidence => (confidence.name, confidence))

end Confidence

namespace IndicatorSource

/-- The name of a source in records. -/
def name : IndicatorSource → String
  | frame field => "frame_" ++ field.name
  | moduleList => "module_list"

def toJson (source : IndicatorSource) : Json := .str source.name

def ofJson? : Json → Option IndicatorSource :=
  choice? ([frame .function, frame .moduleName, frame .source, moduleList].map fun source =>
    (source.name, source))

end IndicatorSource

namespace FrameRef

def toJson (ref : FrameRef) : Json :=
  .obj [("thread", .str ref.thread), ("frame_index", nat ref.frameIndex)]

def ofJson? (json : Json) : Option FrameRef := do
  let fields ← fields? ["thread", "frame_index"] json
  return { thread := ← fields.required "thread" str?
           frameIndex := ← fields.required "frame_index" (nat? 64) }

end FrameRef

namespace AotIndicator

def toJson (indicator : AotIndicator) : Json :=
  .obj [("source", indicator.source.toJson), ("pattern", .str indicator.pattern),
    ("matched", .str indicator.matched), ("frame", option FrameRef.toJson indicator.frame)]

def ofJson? (json : Json) : Option AotIndicator := do
  let fields ← fields? ["source", "pattern", "matched", "frame"] json
  return { source := ← fields.required "source" IndicatorSource.ofJson?
           pattern := ← fields.required "pattern" str?
           matched := ← fields.required "matched" str?
           frame := ← fields.optional "frame" FrameRef.ofJson? }

end AotIndicator

namespace ReflectionUsage

def toJson (usage : ReflectionUsage) : Json :=
  .obj [("pattern", .str usage.pattern), ("risk", usage.risk.toJson),
    ("function", .str usage.function), ("frame", usage.frame.toJson)]

def ofJson? (json : Json) : Option ReflectionUsage := do
  let fields ← fields? ["pattern", "risk", "function", "frame"] json
  return { pattern := ← fields.required "pattern" str?
           risk := ← fields.required "risk" RiskLevel.ofJson?
           function := ← fields.required "function" str?
           frame := ← fields.required "frame" FrameRef.ofJson? }

end ReflectionUsage

namespace TrimmingAnalysis

def toJson (trimming : TrimmingAnalysis) : Json :=
  .obj [("category", trimming.category.toJson), ("likely_trimmed", .bool trimming.likelyTrimmed),
    ("confidence", trimming.confidence.toJson), ("score", nat trimming.score),
    ("evidence", strings trimming.evidence),
    ("recommendations", strings trimming.recommendations)]

def ofJson? (json : Json) : Option TrimmingAnalysis := do
  let fields ← fields? ["category", "likely_trimmed", "confidence", "score", "evidence",
    "recommendations"] json
  return { category := ← fields.required "category" ExceptionCategory.ofJson?
           likelyTrimmed := ← fields.required "likely_trimmed" bool?
           confidence := ← fields.required "confidence" Confidence.ofJson?
           score := ← fields.required "score" (nat? 32)
           evidence := ← fields.required "evidence" (list? str?)
           recommendations := ← fields.required "recommendations" (list? str?) }

end TrimmingAnalysis

namespace AotClassification

def toJson (c : AotClassification) : Json :=
  .obj [("is_aot", .bool c.isAot), ("has_on_demand_compiler", .bool c.hasOnDemandCompiler),
    ("module_list_available", .bool c.moduleListAvailable),
    ("mixed_evidence", .bool c.mixedEvidence),
    ("indicators", list AotIndicator.toJson c.indicators),
    ("reflection_usage", list ReflectionUsage.toJson c.reflectionUsage),
    ("trimming", option TrimmingAnalysis.toJson c.trimming)]

def ofJson? (json : Json) : Option AotClassification := do
  let fields ← fields? ["is_aot", "has_on_demand_compiler", "module_list_available",
    "mixed_evidence", "indicators", "reflection_usage", "trimming"] json
  return { isAot := ← fields.required "is_aot" bool?
           hasOnDemandCompiler := ← fields.required "has_on_demand_compiler" bool?
           moduleListAvailable := ← fields.required "module_list_available" bool?
           mixedEvidence := ← fields.required "mixed_evidence" bool?
           indicators := ← fields.required "indicators" (list? AotIndicator.ofJson?)
           reflectionUsage :=
            ← fields.required "reflection_usage" (list? ReflectionUsage.ofJson?)
           trimming := ← fields.optional "trimming" TrimmingAnalysis.ofJson? }

end AotClassification

namespace DeadlockVerdict

/-- The name of a verdict in records. -/
def name : DeadlockVerdict → String
  | none => "none"
  | advisory => "advisory"
  | deadlock => "deadlock"

def toJson (verdict : DeadlockVerdict) : Json := .str verdict.name

def ofJson? : Json → Option DeadlockVerdict :=
  choice? ([none, advisory, deadlock].map fun verdict => (verdict.name, verdict))

end DeadlockVerdict

namespace ContendedLock

def toJson (lock : ContendedLock) : Json :=
  .obj ([("lock_id", .str lock.lockId), ("owner", option ThreadId.toJson lock.owner),
    ("waiters", nat lock.waiters)] ++ optionalMember "object_type" .str lock.objectType)

def ofJson? (json : Json) : Option ContendedLock := do
  let fields ← fields? ["lock_id", "owner", "waiters", "object_type"] json
  return { lockId := ← fields.required "lock_id" str?
           owner := ← fields.optional "owner" ThreadId.ofJson?
           waiters := ← fields.required "waiters" (nat? 32)
           objectType := ← fields.optional "object_type" str? }

end ContendedLock

namespace DeadlockAnalysis

def toJson (analysis : DeadlockAnalysis) : Json :=
  .obj [("verdict", analysis.verdict.toJson),
    ("involved_threads", list ThreadId.toJson analysis.involvedThreads),
    ("holders", list ThreadId.toJson analysis.holders),
    ("waiting", list ThreadId.toJson analysis.waiting),
    ("contended_locks", list ContendedLock.toJson analysis.contendedLocks),
    ("description", .str analysis.description)]

def ofJson? (json : Json) : Option DeadlockAnalysis := do
  let fields ← fields? ["verdict", "involved_threads", "holders", "waiting", "contended_locks",
    "description"] json
  return { verdict := ← fields.required "verdict" DeadlockVerdict.ofJson?
           involvedThreads := ← fields.required "involved_threads" (list? ThreadId.ofJson?)
           holders := ← fields.required "holders" (list? ThreadId.ofJson?)
           waiting := ← fields.required "waiting" (list? ThreadId.ofJson?)
           contendedLocks := ← fields.required "contended_locks" (list? ContendedLock.ofJson?)
           description := ← fields.required "description" str? }

end DeadlockAnalysis

end Postmortem
