import Mathlib.Tactic
import Postmortem.Proofs.Exception.Introspection

/-!
# What a walk inspects

A walk inspects the object of each exception that it adds, and nothing else as long as it goes
on; an object that cannot be read ends it, and its address is one that no exception has. So the
inspected addresses are those of the chain, in order, and perhaps one more (`Inspects`).

* `ofRecords_inspects`: **a walk inspects the addresses of its chain and at most one more.**
* `ofRecords_congr`: a walk depends on nothing but the answers to its inspections.
* `ofText_inspects`: **no address is inspected twice, and there are no more inspections than the
  chain may have exceptions.**
-/

namespace Postmortem

/-! ## Introspectors that agree -/

/-- Whether two introspectors give the same answers to some inspections, made one after the
other. -/
def Introspector.AgreesOn (introspector other : Introspector) (limits : InspectLimits)
    (inspected : List Address) : Prop :=
  ∀ earlier address, earlier ++ [address] <+: inspected →
    introspector.inspect earlier address limits = other.inspect earlier address limits

namespace Introspector.AgreesOn

variable {introspector other : Introspector} {limits : InspectLimits} {inspected : List Address}

theorem of_prefix (h : introspector.AgreesOn other limits inspected) {front : List Address}
    (hfront : front <+: inspected) : introspector.AgreesOn other limits front :=
  fun earlier address hasked => h earlier address (hasked.trans hfront)

theorem inspectOrPlaceholder_eq {earlier : List Address} {address : Address}
    (h : introspector.AgreesOn other limits (earlier ++ [address])) :
    introspector.inspectOrPlaceholder earlier address limits =
      other.inspectOrPlaceholder earlier address limits := by
  unfold Introspector.inspectOrPlaceholder
  rw [h earlier address List.prefix_rfl]

end Introspector.AgreesOn

namespace ChainWalk

variable {introspector other : Introspector} {limits : InspectLimits} {maxDepth : ℕ}
variable {walk walk' : ChainWalk}

/-! ## Steps -/

@[simp] theorem inspected_add (walk : ChainWalk) (node : ExceptionNode) (next : Option Address)
    (tree : ObjectTree) : (walk.add node next tree).inspected = walk.inspected := by
  unfold add
  split <;> rfl

theorem Grows.addresses {address : Option Address} (h : Grows walk walk' address) :
    walk'.addresses = walk.addresses ++ address.toList := by
  obtain ⟨node, hnodes, -, haddress, -⟩ := h.nodes
  unfold ChainWalk.addresses
  rw [hnodes, List.filterMap_append]
  cases address <;> simp [haddress]

/-- A printed exception is inspected if it has an address. -/
theorem inspected_addRecord (walk : ChainWalk) (record : ExceptionRecord) :
    (walk.addRecord introspector limits record).inspected =
      walk.inspected ++ record.address.toList := by
  unfold addRecord
  cases record.address with
  | some address => exact inspected_add _ _ _ _
  | none => exact (List.append_nil _).symm

/-- **A step to an inner exception**: its object is inspected, and ends the walk unless it can be
read. -/
theorem follow_of_new {address : Address} (hcycle : walk.cycle = none)
    (hnext : walk.next = some address) (hnew : ¬ walk.visited.contains address = true)
    (steps : ℕ) : walk.follow introspector limits (steps + 1) =
      let inspecting := ((walk.visit address).inspect introspector limits address).2
      match introspector.inspectOrPlaceholder walk.inspected address limits with
      | .object typeName address? fields =>
        follow introspector limits steps (inspecting.add
          (.ofRecord { address := some address, typeName := some typeName } walk.nodes.length)
          none (.object typeName address? fields))
      | _ => inspecting := by
  have htree : ((walk.visit address).inspect introspector limits address).1 =
      introspector.inspectOrPlaceholder walk.inspected address limits := rfl
  conv_lhs => unfold follow
  rw [hcycle, hnext]
  simp only [hnew, Bool.false_eq_true, if_false, htree]
  cases introspector.inspectOrPlaceholder walk.inspected address limits <;> rfl

/-- **The ways to go on**: a walk ends, whatever could be inspected, or it inspects a new address. -/
theorem follow_cases (walk : ChainWalk) (limits : InspectLimits) (steps : ℕ) :
    (∃ ended : ChainWalk, ended.inspected = walk.inspected ∧ ended.addresses = walk.addresses ∧
      ∀ introspector, walk.follow introspector limits (steps + 1) = ended) ∨
    ∃ address, walk.cycle = none ∧ walk.next = some address ∧
      ¬ walk.visited.contains address = true := by
  cases hcycle : walk.cycle with
  | some marker =>
    exact .inl ⟨walk, rfl, rfl, fun introspector =>
      follow_of_cycle introspector limits (by simp [hcycle]) _⟩
  | none =>
    cases hnext : walk.next with
    | none =>
      refine .inl ⟨walk, rfl, rfl, fun introspector => ?_⟩
      unfold follow
      rw [hcycle, hnext]
    | some address =>
      by_cases hseen : walk.visited.contains address = true
      · refine .inl ⟨walk.endAt address none, rfl, rfl, fun introspector => ?_⟩
        unfold follow
        rw [hcycle, hnext]
        exact if_pos hseen
      · exact .inr ⟨address, rfl, rfl, hseen⟩

/-! ## What is inspected -/

/-- Inspections are only added. -/
theorem inspected_prefix_addRecords (records : List ExceptionRecord) : ∀ walk : ChainWalk,
    walk.inspected <+: (walk.addRecords introspector limits maxDepth records).inspected := by
  induction records with
  | nil => exact fun walk => List.prefix_rfl
  | cons record records ih =>
    intro walk
    unfold addRecords
    split
    · exact List.prefix_rfl
    split
    · exact List.prefix_rfl
    · refine List.IsPrefix.trans ?_ (ih _)
      rw [inspected_addRecord]
      exact List.prefix_append _ _

theorem inspected_prefix_follow (steps : ℕ) : ∀ walk : ChainWalk,
    walk.inspected <+: (walk.follow introspector limits steps).inspected := by
  induction steps with
  | zero => exact fun walk => List.prefix_rfl
  | succ steps ih =>
    intro walk
    rcases follow_cases walk limits steps with
      ⟨ended, hinspected, -, hend⟩ | ⟨address, hcycle, hnext, hnew⟩
    · rw [hend, hinspected]
    · rw [follow_of_new hcycle hnext hnew]
      have hfront : walk.inspected <+: walk.inspected ++ [address] := List.prefix_append _ _
      dsimp only
      split
      · refine hfront.trans (List.IsPrefix.trans ?_ (ih _))
        rw [inspected_add]
        exact List.prefix_rfl
      · exact hfront

/-- **The printed exceptions are inspected where they have an address.** -/
theorem inspected_addRecords (introspector : Introspector) (limits : InspectLimits)
    (records : List ExceptionRecord) : ∀ {walk : ChainWalk}, walk.inspected = walk.addresses →
      (walk.addRecords introspector limits maxDepth records).inspected =
        (walk.addRecords introspector limits maxDepth records).addresses := by
  induction records with
  | nil => exact fun h => h
  | cons record records ih =>
    intro walk h
    unfold addRecords
    split
    · exact h
    split
    · exact h
    · refine ih ?_
      rw [inspected_addRecord, (grows_addRecord introspector limits walk record).addresses, h]

/-- **What a walk has inspected**: the addresses of its exceptions, in order, and perhaps one whose
object could not be read. -/
def Inspects (maxDepth : ℕ) (walk : ChainWalk) : Prop :=
  ∃ unread : Option Address, walk.inspected = walk.addresses ++ unread.toList ∧
    ∀ a ∈ unread, a ∉ walk.addresses ∧ walk.nodes.length < maxDepth

/-- **An inner exception is inspected as it is followed.** -/
theorem Live.follow_inspects (steps : ℕ) : ∀ {walk : ChainWalk}, Live maxDepth walk →
    walk.inspected = walk.addresses → walk.nodes.length + steps ≤ maxDepth →
      Inspects maxDepth (walk.follow introspector limits steps) := by
  have hended : ∀ {walk : ChainWalk}, walk.inspected = walk.addresses → Inspects maxDepth walk :=
    fun h => ⟨none, by rw [h, Option.toList_none, List.append_nil], by simp⟩
  induction steps with
  | zero => exact fun _ h _ => hended h
  | succ steps ih =>
    intro walk hlive h hlen
    rcases follow_cases walk limits steps with
      ⟨ended, hinspected, haddresses, hend⟩ | ⟨address, hcycle, hnext, hnew⟩
    · rw [hend]
      exact hended (hinspected.trans (h.trans haddresses.symm))
    · have hunseen : address ∉ walk.visited := by simpa using hnew
      rw [follow_of_new hcycle hnext hnew]
      dsimp only
      split
      · rename_i typeName address? fields _
        have hgrows : Grows walk _ (some address) := grows_add introspector limits
          (.ofRecord { address := some address, typeName := some typeName } walk.nodes.length)
          none (.object typeName address? fields) rfl rfl rfl
        refine ih (hlive.grow hgrows (by simpa using hunseen) (by omega)) ?_ ?_
        · rw [hgrows.addresses, inspected_add, ← h]
          rfl
        · rw [hgrows.length]
          omega
      -- what cannot be read has been inspected, but adds no exception
      · refine ⟨some address, ?_, fun a ha => ?_⟩
        · show walk.inspected ++ [address] = walk.addresses ++ [address]
          rw [h]
        · obtain rfl := Option.some.inj ha
          exact ⟨fun hmem => hunseen ((hlive.visited _).2 hmem),
            show walk.nodes.length < maxDepth by omega⟩

/-- **A walk inspects the addresses of its chain, and at most one more.** -/
theorem ofRecords_inspects (introspector : Introspector) (limits : InspectLimits)
    (records : List ExceptionRecord) (hmax : 1 ≤ maxDepth) :
    Inspects maxDepth (ofRecords introspector limits maxDepth records) := by
  cases records with
  | nil => exact ⟨none, rfl, by simp⟩
  | cons root records =>
    have hroot := live_root introspector limits root hmax
    obtain ⟨hsound, hlive⟩ := hroot.addRecords introspector limits records
    have hstart : (addRecord introspector limits {} root).inspected =
        (addRecord introspector limits {} root).addresses := by
      rw [inspected_addRecord, (grows_addRecord introspector limits {} root).addresses]
      rfl
    have hprinted : (addRecords introspector limits maxDepth records
        (addRecord introspector limits {} root)).inspected = _ :=
      inspected_addRecords introspector limits records hstart
    unfold ofRecords
    dsimp only
    set printed := addRecords introspector limits maxDepth records
      (addRecord introspector limits {} root)
    by_cases hcycle : printed.cycle = none
    · have hbound := hsound.bounded
      exact (hlive hcycle).follow_inspects _ hprinted (by omega)
    · rw [follow_of_cycle introspector limits hcycle]
      exact ⟨none, by rw [hprinted, Option.toList_none, List.append_nil], by simp⟩

/-- **No address is inspected twice**, and there are no more inspections than exceptions that the
chain may have. -/
theorem Inspects.bounds (h : Inspects maxDepth walk) (hsound : Sound maxDepth walk) :
    walk.inspected.Nodup ∧ walk.inspected.length ≤ maxDepth := by
  obtain ⟨unread, hinspected, hunread⟩ := h
  have hlength : walk.addresses.length ≤ walk.nodes.length := List.length_filterMap_le _ _
  have hbound := hsound.bounded
  rw [hinspected]
  cases unread with
  | none =>
    rw [Option.toList_none, List.append_nil]
    exact ⟨hsound.distinct, by omega⟩
  | some a =>
    obtain ⟨hnew, hlt⟩ := hunread a rfl
    rw [Option.toList_some, List.length_append, List.length_singleton]
    refine ⟨List.nodup_append.2 ⟨hsound.distinct, List.nodup_singleton a, ?_⟩, by omega⟩
    rintro b hb c hc rfl
    rw [List.mem_singleton] at hc
    exact hnew (hc ▸ hb)

/-! ## What a walk depends on -/

theorem addRecord_congr (walk : ChainWalk) (record : ExceptionRecord)
    (h : introspector.AgreesOn other limits
      (walk.addRecord introspector limits record).inspected) :
    walk.addRecord introspector limits record = walk.addRecord other limits record := by
  rw [inspected_addRecord] at h
  unfold addRecord
  cases haddress : record.address with
  | none => rfl
  | some address =>
    rw [haddress] at h
    have htree := h.inspectOrPlaceholder_eq
    unfold inspect
    simp only
    rw [show (walk.visit address).inspected = walk.inspected from rfl, htree]

theorem addRecords_congr (records : List ExceptionRecord) : ∀ walk : ChainWalk,
    introspector.AgreesOn other limits
        (walk.addRecords introspector limits maxDepth records).inspected →
      walk.addRecords introspector limits maxDepth records =
        walk.addRecords other limits maxDepth records := by
  induction records with
  | nil => exact fun walk _ => rfl
  | cons record records ih =>
    intro walk h
    unfold addRecords at h ⊢
    split
    · rfl
    rename_i hlength
    rw [if_neg hlength] at h
    split
    · rfl
    rename_i hnew
    rw [hnew] at h
    rw [← addRecord_congr walk record (h.of_prefix (inspected_prefix_addRecords records _))]
    exact ih _ h

theorem follow_congr (steps : ℕ) : ∀ walk : ChainWalk,
    introspector.AgreesOn other limits (walk.follow introspector limits steps).inspected →
      walk.follow introspector limits steps = walk.follow other limits steps := by
  induction steps with
  | zero => exact fun walk _ => rfl
  | succ steps ih =>
    intro walk h
    rcases follow_cases walk limits steps with
      ⟨ended, -, -, hend⟩ | ⟨address, hcycle, hnext, hnew⟩
    · rw [hend, hend]
    · have hasked : walk.inspected ++ [address] <+:
          (walk.follow introspector limits (steps + 1)).inspected := by
        rw [follow_of_new hcycle hnext hnew]
        dsimp only
        split
        · refine List.IsPrefix.trans ?_ (inspected_prefix_follow _ _)
          rw [inspected_add]
          exact List.prefix_rfl
        · exact List.prefix_rfl
      have htree := (h.of_prefix hasked).inspectOrPlaceholder_eq
      rw [follow_of_new hcycle hnext hnew] at h ⊢
      rw [follow_of_new hcycle hnext hnew, ← htree]
      dsimp only at h ⊢
      split
      · rename_i hread
        rw [hread] at h
        exact ih _ h
      · rfl

/-- **A walk depends on nothing but the answers to its inspections.** -/
theorem ofRecords_congr (records : List ExceptionRecord)
    (h : introspector.AgreesOn other limits
      (ofRecords introspector limits maxDepth records).inspected) :
    ofRecords other limits maxDepth records = ofRecords introspector limits maxDepth records := by
  cases records with
  | nil => rfl
  | cons root records =>
    unfold ofRecords at h ⊢
    dsimp only at h ⊢
    have hprinted := h.of_prefix (inspected_prefix_follow _ _)
    have hroot := hprinted.of_prefix (inspected_prefix_addRecords records _)
    rw [← addRecord_congr {} root hroot, ← addRecords_congr records _ hprinted,
      ← follow_congr _ _ h]

end ChainWalk

/-- **No address is inspected twice**, and a walk makes no more inspections than its chain may have
exceptions, for every text and whatever the inspections answer. They are all that the walk asks
for: an introspector that gives the same answers to them leads to the same walk. -/
theorem ofText_inspects (introspector : Introspector) (limits : InspectLimits) {maxDepth : ℕ}
    (hmax : 1 ≤ maxDepth) (text : String) :
    let walk := ChainWalk.ofText introspector limits maxDepth text
    walk.inspected.Nodup ∧ walk.inspected.length ≤ maxDepth ∧
      ∀ other : Introspector, introspector.AgreesOn other limits walk.inspected →
        ChainWalk.ofText other limits maxDepth text = walk := by
  intro walk
  have hsound := ChainWalk.ofRecords_sound introspector limits
    ((nestedSections text).filterMap ExceptionRecord.ofListing?) hmax
  obtain ⟨hnodup, hlength⟩ :=
    (ChainWalk.ofRecords_inspects introspector limits _ hmax).bounds hsound
  exact ⟨hnodup, hlength, fun other h => ChainWalk.ofRecords_congr _ h⟩

/-- Answers as the crossed causes do, but only a number of times. -/
def crossedCausesUpTo (inspections : ℕ) : Introspector where
  inspect earlier address limits :=
    if earlier.length < inspections then crossedCauses.inspect earlier address limits
    else .error (.notInspectable address)

/-- Three inspections are enough to walk the crossed causes. -/
theorem ofText_inspects_crossedCauses :
    ∃ walk, ChainWalk.ofText crossedCauses {} 3
        "Exception object: 1d4a10\nException type: App.Error\n" = walk ∧
      1 ≤ 3 ∧ crossedCauses.AgreesOn (crossedCausesUpTo 3) {} walk.inspected ∧
      walk.inspected.Nodup ∧ walk.inspected.length ≤ 3 ∧
      ChainWalk.ofText (crossedCausesUpTo 3) {} 3
        "Exception object: 1d4a10\nException type: App.Error\n" = walk := by
  obtain ⟨hnodup, hlength, hcongr⟩ := ofText_inspects crossedCauses {} (by decide : 1 ≤ 3)
    "Exception object: 1d4a10\nException type: App.Error\n"
  generalize ChainWalk.ofText crossedCauses {} 3
    "Exception object: 1d4a10\nException type: App.Error\n" = walk at hnodup hlength hcongr
  have hagrees : crossedCauses.AgreesOn (crossedCausesUpTo 3) {} walk.inspected := by
    intro earlier address hasked
    have hle := hasked.length_le
    rw [List.length_append, List.length_singleton] at hle
    exact (if_pos (by omega)).symm
  exact ⟨walk, rfl, by decide, hagrees, hnodup, hlength, hcongr _ hagrees⟩

end Postmortem
