import Postmortem.Config.Basic
import Postmortem.Heap.Histogram
import Postmortem.Member.GenericName
import Postmortem.Member.Request
import Postmortem.Member.Table
import Postmortem.Text.LowerCase
import Postmortem.Thread.Id

/-!
# Diagnosis of missing members

Whether a type that could not be found exists in the process, and which members it has. A generic
type that cannot be looked up may be known by one of its instantiations on the heap.
-/

namespace Postmortem

open Text

/-- What a diagnosis asks about the types of a process. Asking may change the state that the
answers come from. -/
structure TypeCatalog (σ : Type) where
  findType : String → StateM σ (Option TypeLookup)
  dumpMembers : Address → StateM σ (Option MemberTable)
  heapHistogram : StateM σ (Option HeapHistogram)

/-- What is known about a missing member. -/
inductive Diagnosis where
  | exactMatchFound
  | similarMatchesFound
  | noMatch
  | typeNotFound
  | noMemberRequested
  /-- The members of the type could not be read. -/
  | membersUnavailable
deriving DecidableEq, Repr, Inhabited

namespace Diagnosis

/-- The diagnosis that the findings call for. -/
def decide (typeFound requested membersKnown exact similar : Bool) : Diagnosis :=
  if !typeFound then typeNotFound
  else if !requested then noMemberRequested
  else if !membersKnown then membersUnavailable
  else if exact then exactMatchFound
  else if similar then similarMatchesFound
  else noMatch

/-- The diagnosis in words. -/
def text : Diagnosis → String
  | exactMatchFound =>
    "The member exists on the loaded type. The caller was likely compiled " ++
    "against a different signature or assembly version."
  | similarMatchesFound =>
    "The member is missing but similarly named members exist. It was likely " ++
    "renamed, or the caller expects a different API version."
  | noMatch =>
    "The member is missing from the loaded type. It was likely removed by " ++
    "trimming or is absent from this assembly version."
  | typeNotFound =>
    "The type was not found in any loaded module. The assembly may be missing " ++
    "or a different version, or the type was trimmed."
  | noMemberRequested => "The type was found; the failure message names no specific member."
  | membersUnavailable =>
    "The type was found but its member table could not be read. Whether the " ++
    "member exists is unknown."

end Diagnosis

/-- The findings on a missing type or member. -/
structure TypeResolution where
  failedType : String
  expectedMember : Option String
  expectedSignature : Option String
  assembly : Option String
  typeFound : Bool
  methodTable : Option Address
  /-- The instantiation that stands for a generic type. -/
  resolvedVia : Option String
  actualMembers : List MemberInfo
  /-- How many members the type has, of which not all need be listed. -/
  totalMembers : Nat
  membersAvailable : Bool
  exactMatch : Bool
  similarMatches : List String
  diagnosis : Diagnosis
  diagnosisText : String
  genericArguments : List String
deriving DecidableEq, Repr, Inhabited

/-- The least length, in bytes, of a name that is recognised inside a longer one. -/
def minSimilarLength : Nat := 3

/-- Whether two names in small letters are similar: the second is part of the first, or the first
is part of the second and not short. -/
def similarNames (name wanted : List Char) : Bool :=
  occursIn wanted name || (minSimilarLength ≤ byteLength name && occursIn name wanted)

/-- The distinct names of members that are similar to a requested name and differ from it. -/
def similarMembers (members : List MemberInfo) (requested : String) : List String :=
  let wanted := lowerCase requested.toList
  members.foldl (fun similar m =>
    if m.name == requested || similar.contains m.name then similar
    else if similarNames (lowerCase m.name.toList) wanted then similar ++ [m.name]
    else similar) []

/-- At most `limit` members: all in their order, or else those with the requested name first, then
the similar ones, then the others. -/
def capMembers (members : List MemberInfo) (requested : Option String) (similar : List String)
    (limit : Nat) : List MemberInfo :=
  if members.length ≤ limit then members
  else
    let isExact (m : MemberInfo) : Bool := requested == some m.name
    let isSimilar (m : MemberInfo) : Bool := !isExact m && similar.contains m.name
    let isOther (m : MemberInfo) : Bool := !isExact m && !similar.contains m.name
    (members.filter isExact ++ members.filter isSimilar ++ members.filter isOther).take limit

/-- The first row of a heap that is an instantiation of a generic type and has a method table. -/
def HeapHistogram.instantiation? (heap : HeapHistogram) (generic : GenericName) :
    Option HeapEntry :=
  heap.entries.find? fun entry =>
    entry.methodTable.isSome && (GenericName.parse? entry.typeName).any generic.sameDefinition

namespace TypeResolution

variable {σ : Type}

/-- Looks a type up by its name, or by an instantiation if it is generic. -/
def lookUp (catalog : TypeCatalog σ) (typeName : String) :
    StateM σ (Option Address × Option String) := do
  match ← catalog.findType typeName with
  | some lookup => return (lookup.methodTable, none)
  | none =>
    match GenericName.parse? typeName with
    | none => return (none, none)
    | some generic =>
      let heap ← catalog.heapHistogram
      match heap.bind (·.instantiation? generic) with
      | some entry => return (entry.methodTable, some entry.typeName)
      | none => return (none, none)

/-- The findings, given the method table and the members that were found. -/
def report (maxMembers : Nat) (request : MemberRequest) (methodTable : Option Address)
    (resolvedVia : Option String) (table : Option MemberTable) : TypeResolution :=
  let members := (table.map MemberTable.members).getD []
  let requested := request.memberName
  let exactMatch := requested.any fun name => members.any fun m => m.name == name
  let similarMatches := (requested.map (similarMembers members)).getD []
  let diagnosis := Diagnosis.decide methodTable.isSome requested.isSome table.isSome exactMatch
    (!similarMatches.isEmpty)
  { failedType := request.typeName
    expectedMember := request.memberName
    expectedSignature := request.signature
    assembly := request.assembly
    typeFound := methodTable.isSome
    methodTable, resolvedVia
    actualMembers := capMembers members requested similarMatches maxMembers
    totalMembers := members.length
    membersAvailable := table.isSome
    exactMatch, similarMatches, diagnosis
    diagnosisText := diagnosis.text
    genericArguments :=
      ((GenericName.parse? request.typeName).map GenericName.arguments).getD [] }

/-- Diagnoses a request. -/
def ofRequest (maxMembers : Nat) (request : MemberRequest) (catalog : TypeCatalog σ) :
    StateM σ TypeResolution := do
  let (methodTable, resolvedVia) ← lookUp catalog request.typeName
  let table ← match methodTable with
    | some address => catalog.dumpMembers address
    | none => pure none
  return report maxMembers request methodTable resolvedVia table

/-- Diagnoses an exception message, unless it names no type. -/
def ofMessage? (maxMembers : Nat) (message : String) (catalog : TypeCatalog σ) :
    StateM σ (Option TypeResolution) :=
  match MemberRequest.parse? message with
  | some request => return some (← ofRequest maxMembers request catalog)
  | none => return none

end TypeResolution

end Postmortem
