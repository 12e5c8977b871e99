import Mathlib.Tactic
import Postmortem.Proofs.Member.Verdict

/-!
# What a diagnosis asks

A diagnosis looks a type up by its name. Only if nothing has this name, and the name is generic, it
asks for the heap and takes the first row that is an instantiation of the type. It then asks once
for the members, if it has a method table. All this holds for every catalog, so the questions are
counted by a catalog that notes them (`TypeCatalog.noting`) and answers as before.

* `ofRequest_noting`: **noting the questions does not change a diagnosis.**
* `instantiation?_eq_some_iff`: the row that stands for a generic type is the first one that can.
* `ofRequest_fallsBack`: **what is asked, and which answer each finding comes from.**
-/

namespace Postmortem

/-- A question to a catalog. -/
inductive TypeQuestion where
  | findType (typeName : String)
  | heapHistogram
  | dumpMembers (methodTable : Address)
deriving DecidableEq, Repr

namespace TypeCatalog

variable {σ α : Type}

/-- Answers a question, and notes it behind those that were asked before. -/
def note (question : TypeQuestion) (answer : StateM σ α) : StateM (σ × List TypeQuestion) α :=
  fun (s, asked) => ((answer s).1, ((answer s).2, asked ++ [question]))

/-- A catalog that answers as before and notes what it is asked. -/
def noting (catalog : TypeCatalog σ) : TypeCatalog (σ × List TypeQuestion) where
  findType typeName := note (.findType typeName) (catalog.findType typeName)
  dumpMembers methodTable := note (.dumpMembers methodTable) (catalog.dumpMembers methodTable)
  heapHistogram := note .heapHistogram catalog.heapHistogram

theorem findType_noting {catalog : TypeCatalog σ} {typeName : String} {s s' : σ}
    {lookup : Option TypeLookup} (h : catalog.findType typeName s = (lookup, s'))
    (earlier : List TypeQuestion) : catalog.noting.findType typeName (s, earlier) =
      (lookup, (s', earlier ++ [.findType typeName])) := by
  unfold noting note
  dsimp only
  rw [h]

end TypeCatalog

/-! ## Rows that stand for a generic type -/

/-- Whether a row can stand for a generic type: it has a method table, and its name has the base
and the arity of the type. -/
def HeapEntry.Instantiates (row : HeapEntry) (generic : GenericName) : Prop :=
  row.methodTable.isSome = true ∧ ∃ name, GenericName.parse? row.typeName = some name ∧
    name.base = generic.base ∧ name.arity = generic.arity

/-- Whether a row is the first that can stand for a generic type. -/
def HeapEntry.IsFirst (row : HeapEntry) (generic : GenericName) (rows : List HeapEntry) : Prop :=
  row.Instantiates generic ∧ ∃ before behind, rows = before ++ row :: behind ∧
    ∀ earlier ∈ before, ¬ earlier.Instantiates generic

namespace HeapHistogram

variable {heap : HeapHistogram} {generic : GenericName} {row : HeapEntry}

theorem instantiates_iff : (row.methodTable.isSome &&
      (GenericName.parse? row.typeName).any generic.sameDefinition) = true ↔
    row.Instantiates generic := by
  unfold HeapEntry.Instantiates
  rw [Bool.and_eq_true, Option.any_eq_true]
  simp only [GenericName.sameDefinition, Bool.and_eq_true, beq_iff_eq]
  constructor
  · rintro ⟨hsome, name, hname, hbase, harity⟩
    exact ⟨hsome, name, hname, hbase.symm, harity.symm⟩
  · rintro ⟨hsome, name, hname, hbase, harity⟩
    exact ⟨hsome, name, hname, hbase.symm, harity.symm⟩

/-- **The row that stands for a generic type is the first one that can.** -/
theorem instantiation?_eq_some_iff :
    heap.instantiation? generic = some row ↔ row.IsFirst generic heap.entries := by
  unfold instantiation? HeapEntry.IsFirst
  rw [List.find?_eq_some_iff_append, instantiates_iff]
  simp only [Bool.not_eq_true', ← Bool.not_eq_true, instantiates_iff]

/-- No row stands for a generic type iff none can. -/
theorem instantiation?_eq_none_iff :
    heap.instantiation? generic = none ↔ ∀ row ∈ heap.entries, ¬ row.Instantiates generic := by
  unfold instantiation?
  rw [List.find?_eq_none]
  simp only [instantiates_iff]

/-- Both notations of a generic type count. A row without a method table and one of another arity
are passed over. -/
example : (instantiation?
      { entries := [
          { methodTable := none, typeName := "Cache`1[[Row]]", count := 1, totalSize := 24 },
          { methodTable := some ⟨8⟩, typeName := "Cache<Key, Row>", count := 1, totalSize := 24 },
          { methodTable := some ⟨9⟩, typeName := "Cache`1[[Key, App]]", count := 1, totalSize := 24 }] }
      { base := "Cache", arity := 1, arguments := ["Row"] }).map HeapEntry.typeName =
    some "Cache`1[[Key, App]]" := by
  decide +kernel

end HeapHistogram

namespace TypeResolution

variable {σ : Type}

/-! ## Looking a type up -/

section Answers

variable (catalog : TypeCatalog σ) (typeName : String) (s : σ)

/-- Whether the heap is asked for: nothing has the name, and it is generic. -/
def asksHeap : Bool :=
  (catalog.findType typeName s).1.isNone && (GenericName.parse? typeName).isSome

/-- The questions that locate a type. -/
def searches : List TypeQuestion :=
  .findType typeName :: if asksHeap catalog typeName s then [.heapHistogram] else []

/-- The rows of the heap as it is when nothing was found by the name. -/
def heapRows : List HeapEntry :=
  ((catalog.heapHistogram (catalog.findType typeName s).2).1.map HeapHistogram.entries).getD []

/-- The answer of a catalog to the question for the members of a type that was looked up. -/
def dumped? : Option MemberTable :=
  (lookUp catalog typeName s).1.1.bind fun methodTable =>
    (catalog.dumpMembers methodTable (lookUp catalog typeName s).2).1

end Answers

variable {catalog : TypeCatalog σ} {typeName : String} {s : σ}

/-- **Noting the questions does not change how a type is located.** -/
theorem lookUp_noting (earlier : List TypeQuestion) :
    lookUp catalog.noting typeName (s, earlier) =
      ((lookUp catalog typeName s).1,
        ((lookUp catalog typeName s).2, earlier ++ searches catalog typeName s)) := by
  -- both catalogs give the same answers, so they go the same way
  rcases hfind : catalog.findType typeName s with ⟨_ | lookup, s'⟩
  · have hnoted := TypeCatalog.findType_noting hfind earlier
    cases hgeneric : GenericName.parse? typeName with
    | none =>
      have hasks : asksHeap catalog typeName s = false := by simp [asksHeap, hgeneric]
      rw [lookUp_of_plain hfind hgeneric, lookUp_of_plain hnoted hgeneric]
      simp [searches, hasks]
    | some generic =>
      have hasks : asksHeap catalog typeName s = true := by simp [asksHeap, hfind, hgeneric]
      rw [lookUp_of_generic hfind hgeneric rfl, lookUp_of_generic hnoted hgeneric rfl]
      simp [searches, hasks]
  · have hasks : asksHeap catalog typeName s = false := by simp [asksHeap, hfind]
    rw [lookUp_of_found hfind, lookUp_of_found (TypeCatalog.findType_noting hfind earlier)]
    simp [searches, hasks]

/-! ## Diagnoses -/

variable {maxMembers : ℕ} {request : MemberRequest}

/-- **The findings of a diagnosis** come from where the type was located and from the answer to the
question for its members. -/
theorem ofRequest_fst : (ofRequest maxMembers request catalog s).1 =
    report maxMembers request (lookUp catalog request.typeName s).1.1
      (lookUp catalog request.typeName s).1.2 (dumped? catalog request.typeName s) := by
  unfold ofRequest dumped?
  simp only [bind, StateT.bind]
  rcases lookUp catalog request.typeName s with ⟨⟨_ | methodTable, via⟩, s'⟩ <;> rfl

/-- **Noting the questions does not change a diagnosis.** They are those that locate the type, and
one for its members if it has a method table. -/
theorem ofRequest_noting (earlier : List TypeQuestion) :
    ofRequest maxMembers request catalog.noting (s, earlier) =
      ((ofRequest maxMembers request catalog s).1, ((ofRequest maxMembers request catalog s).2,
        earlier ++ searches catalog request.typeName s ++
          (lookUp catalog request.typeName s).1.1.toList.map .dumpMembers)) := by
  unfold ofRequest
  simp only [bind, StateT.bind, lookUp_noting]
  rcases lookUp catalog request.typeName s with ⟨⟨_ | methodTable, via⟩, s'⟩
  · simp only [Option.toList_none, List.map_nil, List.append_nil]
    rfl
  · rfl

/-- **What is asked about a type**, and which answers the findings come from. -/
structure FallsBack (catalog : TypeCatalog σ) (s : σ) (typeName : String) (found : TypeResolution)
    (asked : List TypeQuestion) : Prop where
  /-- The type is looked up first and once, then the heap is asked for at most once, and the last
  question is for the members of the method table, if there is one. -/
  asked : asked = .findType typeName ::
    ((if asksHeap catalog typeName s then [.heapHistogram] else []) ++
      found.methodTable.toList.map .dumpMembers)
  /-- A type that has the name is taken. -/
  byName : ∀ lookup, (catalog.findType typeName s).1 = some lookup →
    found.methodTable = lookup.methodTable ∧ found.resolvedVia = none
  /-- Nothing stands for a type that is not generic. -/
  plain : (catalog.findType typeName s).1 = none → GenericName.parse? typeName = none →
    found.methodTable = none ∧ found.resolvedVia = none
  /-- The first row that can stand for a generic type does, if there is one. -/
  byRow : ∀ generic, (catalog.findType typeName s).1 = none →
    GenericName.parse? typeName = some generic →
      (∃ row : HeapEntry, row.IsFirst generic (heapRows catalog typeName s) ∧
        found.methodTable = row.methodTable ∧ found.resolvedVia = some row.typeName) ∨
      (∀ row ∈ heapRows catalog typeName s, ¬ row.Instantiates generic) ∧
        found.methodTable = none ∧ found.resolvedVia = none
  /-- The type counts as not found if it has no method table. -/
  notFound : found.diagnosis = .typeNotFound ↔ found.methodTable = none

/-- **A generic type that its name does not find** is located by the first row that can stand for
it. -/
theorem lookUp_byRow {generic : GenericName} (hnone : (catalog.findType typeName s).1 = none)
    (hgeneric : GenericName.parse? typeName = some generic) :
    (∃ row : HeapEntry, row.IsFirst generic (heapRows catalog typeName s) ∧
      (lookUp catalog typeName s).1 = (row.methodTable, some row.typeName)) ∨
    (∀ row ∈ heapRows catalog typeName s, ¬ row.Instantiates generic) ∧
      (lookUp catalog typeName s).1 = (none, none) := by
  rw [lookUp_of_generic (Prod.ext hnone rfl) hgeneric rfl]
  unfold heapRows
  -- a heap that cannot be listed has no rows
  cases (catalog.heapHistogram (catalog.findType typeName s).2).1 with
  | none => exact .inr ⟨List.forall_mem_nil _, rfl⟩
  | some heap =>
    cases hrow : heap.instantiation? generic with
    | some row => exact .inl ⟨row, HeapHistogram.instantiation?_eq_some_iff.1 hrow, by simp [hrow]⟩
    | none => exact .inr ⟨HeapHistogram.instantiation?_eq_none_iff.1 hrow, by simp [hrow]⟩

/-- **A diagnosis falls back on the heap.** For every catalog, a diagnosis looks the type up by its
name, asks for the heap only if nothing has the name and the name is generic, and asks once for the
members of the method table that it found. -/
theorem ofRequest_fallsBack (maxMembers : ℕ) (request : MemberRequest) (catalog : TypeCatalog σ)
    (s : σ) : ∃ asked, ofRequest maxMembers request catalog.noting (s, []) =
        ((ofRequest maxMembers request catalog s).1,
          ((ofRequest maxMembers request catalog s).2, asked)) ∧
      FallsBack catalog s request.typeName (ofRequest maxMembers request catalog s).1 asked := by
  refine ⟨_, ofRequest_noting [], ?_⟩
  rw [ofRequest_fst]
  refine { asked := ?_, byName := ?_, plain := ?_, byRow := ?_, notFound := ?_ }
  · rfl
  · intro lookup hlookup
    have hlocated := lookUp_of_found (Prod.ext hlookup rfl)
    exact ⟨congrArg (·.1.1) hlocated, congrArg (·.1.2) hlocated⟩
  · intro hnone hplain
    have hlocated := lookUp_of_plain (Prod.ext hnone rfl) hplain
    exact ⟨congrArg (·.1.1) hlocated, congrArg (·.1.2) hlocated⟩
  · intro generic hnone hgeneric
    rcases lookUp_byRow hnone hgeneric with ⟨row, hfirst, hlocated⟩ | ⟨hrows, hlocated⟩
    · exact .inl ⟨row, hfirst, congrArg Prod.fst hlocated, congrArg Prod.snd hlocated⟩
    · exact .inr ⟨hrows, congrArg Prod.fst hlocated, congrArg Prod.snd hlocated⟩
  · show Diagnosis.decide _ _ _ _ _ = .typeNotFound ↔ _
    rw [Diagnosis.decide_eq_typeNotFound_iff, Option.isSome_eq_false_iff, Option.isNone_iff_eq_none]
    rfl

end TypeResolution

end Postmortem
