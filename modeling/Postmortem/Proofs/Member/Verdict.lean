import Postmortem.Proofs.Session.Log
import Postmortem.Transcript

/-!
# When a type counts as not found

A diagnosis says that a type was not found if it was neither found by its name nor by an
instantiation on the heap. It does not matter why the search by name found nothing: the
type may not be there, or the search may have no output at all. So the verdict says
something about the process only if the search had output.

* `typeNotFound_iff`: **when the verdict is that the type was not found.**
* `typeNotFound_searched_iff`: the verdict implies that the search had output iff it had, or an
  instantiation stands for the type.
-/

namespace Postmortem

theorem Diagnosis.decide_eq_typeNotFound_iff (typeFound requested membersKnown exact similar : Bool) :
    Diagnosis.decide typeFound requested membersKnown exact similar = .typeNotFound ↔
      typeFound = false := by
  cases typeFound <;> cases requested <;> cases membersKnown <;> cases exact <;> cases similar <;>
    decide

/-- A search finds a type only with its method table. -/
theorem TypeLookup.methodTable_isSome_of_ofListing? {text : String} {lookup : TypeLookup}
    (h : TypeLookup.ofListing? text = some lookup) : lookup.methodTable.isSome = true := by
  unfold TypeLookup.ofListing? at h
  split at h
  · dsimp only at h
    split at h
    · rename_i hsome
      obtain rfl := Option.some.inj h
      exact hsome
    · cases h
  · cases h

/-- Only a row with a method table stands for a generic type. -/
theorem HeapHistogram.methodTable_isSome_of_instantiation? {heap : HeapHistogram}
    {generic : GenericName} {entry : HeapEntry} (h : heap.instantiation? generic = some entry) :
    entry.methodTable.isSome = true := by
  have hentry := List.find?_some h
  rw [Bool.and_eq_true] at hentry
  exact hentry.1

namespace TypeSession

variable {outcome : String → Outcome} {heap : Option HeapHistogram} {typeName : String}

/-- A type is not located iff its name was not found and nothing stands for it. -/
theorem located_eq_none_iff : (located outcome heap typeName).1 = none ↔
    shownType outcome typeName = none ∧ standIn? outcome heap typeName = none := by
  unfold located
  cases htype : shownType outcome typeName with
  | some lookup =>
    obtain ⟨text, -, hread⟩ := Option.bind_eq_some_iff.1 htype
    have hsome := TypeLookup.methodTable_isSome_of_ofListing? hread
    simp only [reduceCtorEq, false_and, iff_false]
    exact Option.isSome_iff_ne_none.1 hsome
  | none =>
    cases hstand : standIn? outcome heap typeName with
    | none => simp
    | some entry =>
      obtain ⟨generic, -, hfound⟩ := Option.bind_eq_some_iff.1 hstand
      obtain ⟨known, -, hrow⟩ := Option.bind_eq_some_iff.1 hfound
      have hsome := HeapHistogram.methodTable_isSome_of_instantiation? hrow
      simp only [reduceCtorEq, and_false, iff_false]
      exact Option.isSome_iff_ne_none.1 hsome

/-- **When a diagnosis says that a type was not found**: its name was not found and nothing
stands for it. -/
theorem typeNotFound_iff {maxMembers : ℕ} {message : String} {s : Session}
    {heap : Option HeapHistogram} {found : TypeResolution}
    (h : (TypeResolution.ofMessage? maxMembers message catalog ⟨s, heap⟩).1 = some found) :
    found.diagnosis = .typeNotFound ↔ shownType s.outcome found.failedType = none ∧
      standIn? s.outcome heap found.failedType = none := by
  rw [ofMessage?_eq] at h
  cases hparse : MemberRequest.parse? message with
  | none =>
    rw [hparse] at h
    cases h
  | some request =>
    simp only [hparse, ofRequest_eq] at h
    obtain rfl := Option.some.inj h
    show Diagnosis.decide _ _ _ _ _ = .typeNotFound ↔ _
    rw [Diagnosis.decide_eq_typeNotFound_iff, Option.isSome_eq_false_iff, Option.isNone_iff_eq_none,
      located_eq_none_iff]
    rfl

/-- A type is only found in output. -/
theorem shownType_eq_none (h : (outcome (lookUpCommand typeName)).output? = none) :
    shownType outcome typeName = none := by
  unfold shownType
  rw [h]
  rfl

/-- **A type that was not found was searched for iff the search had output or an
instantiation stands for the type.** -/
theorem typeNotFound_searched_iff {maxMembers : ℕ} {message : String} (s : Session)
    (heap : Option HeapHistogram) {found : TypeResolution}
    (h : (TypeResolution.ofMessage? maxMembers message catalog ⟨s, heap⟩).1 = some found) :
    (found.diagnosis = .typeNotFound →
        (s.outcome (lookUpCommand found.failedType)).output?.isSome = true) ↔
      ((s.outcome (lookUpCommand found.failedType)).output?.isSome = true ∨
        (standIn? s.outcome heap found.failedType).isSome = true) := by
  rw [typeNotFound_iff h]
  constructor
  · intro hmet
    cases hout : (s.outcome (lookUpCommand found.failedType)).output? with
    | some text => exact .inl rfl
    | none =>
      cases hstand : standIn? s.outcome heap found.failedType with
      | some entry => exact .inr rfl
      | none =>
        have hsearched := hmet ⟨shownType_eq_none hout, hstand⟩
        rw [hout] at hsearched
        cases hsearched
  · rintro (hsearched | hstand) ⟨-, hnone⟩
    · exact hsearched
    · rw [hnone] at hstand
      cases hstand

/-- A session that shows one type on its heap, and cannot search for types. -/
def withoutSearches : Transcript :=
  { commands := ⟨[("dumpheap -stat", "Statistics:\n00002000 1 2 Cache<Key>\n")]⟩
    crashes := ["name2ee *!Cache<Row>"] }

/-- The search fails, but the heap has an instantiation of the type. -/
theorem typeNotFound_searched_standIn :
    ∃ found, (TypeResolution.ofMessage? 100 "Field not found: 'Cache<Row>.F'" catalog
        ⟨(Config.openChannel {} withoutSearches.backend).session, none⟩).1 = some found ∧
      (found.diagnosis = .typeNotFound →
        ((Config.openChannel {} withoutSearches.backend).session.outcome
          (lookUpCommand found.failedType)).output?.isSome = true) := by
  have hfound : ((TypeResolution.ofMessage? 100 "Field not found: 'Cache<Row>.F'" catalog
      ⟨(Config.openChannel {} withoutSearches.backend).session, none⟩).1.map
        TypeResolution.failedType) = some "Cache<Row>" := by decide +kernel
  have hstand : (standIn? (Config.openChannel {} withoutSearches.backend).session.outcome none
      "Cache<Row>").isSome = true := by decide +kernel
  obtain ⟨found, hsome, hname⟩ := Option.map_eq_some_iff.1 hfound
  rw [← hname] at hstand
  exact ⟨found, hsome, (typeNotFound_searched_iff _ none hsome).2 (.inr hstand)⟩

/-- Nothing is recorded, yet the verdict is that the type was not found. -/
theorem not_searched_of_unrecorded :
    ¬ ∀ (maxMembers : ℕ) (message : String) (config : Config) (t : Transcript)
      (heap : Option HeapHistogram) (found : TypeResolution),
      (TypeResolution.ofMessage? maxMembers message catalog
        ⟨(config.openChannel t.backend).session, heap⟩).1 = some found →
      found.diagnosis = .typeNotFound →
        ((config.openChannel t.backend).session.outcome
          (lookUpCommand found.failedType)).output?.isSome = true := by
  intro h
  have hfound : ((TypeResolution.ofMessage? 100 "Field not found: 'Cache.F'" catalog
      ⟨(Config.openChannel {} (Transcript.backend {})).session, none⟩).1.map
        fun found => (found.failedType, found.diagnosis)) = some ("Cache", .typeNotFound) := by
    decide +kernel
  obtain ⟨found, hsome, hverdict⟩ := Option.map_eq_some_iff.1 hfound
  obtain ⟨hname, hdiagnosis⟩ := Prod.mk.inj hverdict
  have hsearched := h 100 _ {} {} none found hsome hdiagnosis
  have hnone : ((Config.openChannel {} (Transcript.backend {})).session.outcome
      (lookUpCommand "Cache")).output?.isSome = false := by decide +kernel
  rw [hname, hnone] at hsearched
  cases hsearched

end TypeSession

end Postmortem
