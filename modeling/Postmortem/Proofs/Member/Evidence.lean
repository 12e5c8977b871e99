import Mathlib.Tactic
import Postmortem.Proofs.Member.Questions
import Postmortem.Proofs.Order.StableSort

/-!
# The members a diagnosis keeps

A report lists only so many members of a type. The list is cut behind the closest members
(`closeness`): those with the requested name stand in front, then those with a similar name, then
the others. So a member that a verdict rests on is never cut off as long as one member is listed.

* `isSimilarList_similarMembers`: the similar names are the names of members that are similar.
* `capMembers_cutsTo`: **the members that are cut off are no closer than those that are listed.**
* `ofRequest_keepsEvidence`: **a report keeps the members that its verdict rests on.**
-/

namespace Postmortem

open Text

variable {members : List MemberInfo} {requested : Option String} {similar : List String}

/-! ## Similar names -/

/-- Whether a list holds the names of members that are similar to a wanted name and differ from
it: each once, and in the order of the members. -/
structure IsSimilarList (wanted : String) (members : List MemberInfo) (similar : List String) :
    Prop where
  distinct : similar.Nodup
  ordered : similar.Sublist (members.map MemberInfo.name)
  mem_iff : ∀ name, name ∈ similar ↔ name ∈ members.map MemberInfo.name ∧ name ≠ wanted ∧
    similarNames (lowerCase name.toList) (lowerCase wanted.toList) = true

namespace IsSimilarList

variable {wanted : String} {m : MemberInfo}

/-- A member adds no name if it has the wanted one, a name that is there, or one that is not
similar. -/
theorem skip (h : IsSimilarList wanted members similar) (hskip : m.name = wanted ∨
    m.name ∈ similar ∨ ¬ similarNames (lowerCase m.name.toList) (lowerCase wanted.toList) = true) :
    IsSimilarList wanted (members ++ [m]) similar := by
  have hnames : (members ++ [m]).map MemberInfo.name = members.map MemberInfo.name ++ [m.name] :=
    List.map_append
  refine ⟨h.distinct, hnames ▸ h.ordered.trans (List.sublist_append_left _ _), fun name => ?_⟩
  rw [h.mem_iff, hnames, List.mem_append, List.mem_singleton]
  refine ⟨fun ⟨hname, hsimilar⟩ => ⟨.inl hname, hsimilar⟩, ?_⟩
  rintro ⟨hname | rfl, hne, hsimilar⟩
  · exact ⟨hname, hne, hsimilar⟩
  · rcases hskip with hwanted | hseen | hother
    · exact absurd hwanted hne
    · exact (h.mem_iff _).1 hseen
    · exact absurd hsimilar hother

/-- A member adds its name if it is similar, not the wanted one, and new. -/
theorem add (h : IsSimilarList wanted members similar) (hwanted : m.name ≠ wanted)
    (hnew : m.name ∉ similar)
    (hsimilar : similarNames (lowerCase m.name.toList) (lowerCase wanted.toList) = true) :
    IsSimilarList wanted (members ++ [m]) (similar ++ [m.name]) := by
  have hnames : (members ++ [m]).map MemberInfo.name = members.map MemberInfo.name ++ [m.name] :=
    List.map_append
  refine ⟨List.nodup_append.2 ⟨h.distinct, List.nodup_singleton _, ?_⟩,
    hnames ▸ h.ordered.append (List.Sublist.refl _), fun name => ?_⟩
  · rintro name hname other hother rfl
    exact hnew (List.mem_singleton.1 hother ▸ hname)
  · rw [List.mem_append, List.mem_singleton, h.mem_iff, hnames, List.mem_append,
      List.mem_singleton]
    constructor
    · rintro (⟨hname, hfits⟩ | rfl)
      · exact ⟨.inl hname, hfits⟩
      · exact ⟨.inr rfl, hwanted, hsimilar⟩
    · rintro ⟨hname | rfl, hfits⟩
      · exact .inl ⟨hname, hfits⟩
      · exact .inr rfl

end IsSimilarList

theorem similarMembers_append (members : List MemberInfo) (m : MemberInfo) (wanted : String) :
    similarMembers (members ++ [m]) wanted =
      if m.name == wanted || (similarMembers members wanted).contains m.name then
        similarMembers members wanted
      else if similarNames (lowerCase m.name.toList) (lowerCase wanted.toList) then
        similarMembers members wanted ++ [m.name]
      else similarMembers members wanted := by
  unfold similarMembers
  rw [List.foldl_append]
  rfl

/-- **The similar names are the names of members that are similar.** -/
theorem isSimilarList_similarMembers (members : List MemberInfo) (wanted : String) :
    IsSimilarList wanted members (similarMembers members wanted) := by
  induction members using List.reverseRecOn with
  | nil => exact ⟨List.nodup_nil, List.Sublist.refl _, by simp [similarMembers]⟩
  | append_singleton members m ih =>
    -- the fold reads the last member when the names in front of it are collected
    rw [similarMembers_append]
    split
    · rename_i hseen
      rw [Bool.or_eq_true, beq_iff_eq, List.contains_iff_mem] at hseen
      exact ih.skip (hseen.imp_right .inl)
    · rename_i hnew
      rw [Bool.or_eq_true, beq_iff_eq, List.contains_iff_mem, not_or] at hnew
      split
      · rename_i hsimilar
        exact ih.add hnew.1 hnew.2 hsimilar
      · rename_i hother
        exact ih.skip (.inr (.inr hother))

/-! ## Cutting the list -/

/-- How close a member is to the requested one: `0` if it has the name, `1` if its name is
similar, and `2` otherwise. -/
def closeness (requested : Option String) (similar : List String) (m : MemberInfo) : ℕ :=
  if requested = some m.name then 0 else if m.name ∈ similar then 1 else 2

theorem closeness_eq_zero_iff {m : MemberInfo} :
    closeness requested similar m = 0 ↔ requested = some m.name := by
  unfold closeness
  split
  · simp [*]
  · split <;> simp [*]

theorem closeness_eq_one_iff {m : MemberInfo} :
    closeness requested similar m = 1 ↔ requested ≠ some m.name ∧ m.name ∈ similar := by
  unfold closeness
  split
  · simp [*]
  · split <;> simp [*]

theorem closeness_eq_two_iff {m : MemberInfo} :
    closeness requested similar m = 2 ↔ requested ≠ some m.name ∧ m.name ∉ similar := by
  unfold closeness
  split
  · simp [*]
  · split <;> simp [*]

variable (requested similar)

theorem closeness_lt (m : MemberInfo) : closeness requested similar m < 3 := by
  unfold closeness
  split
  · omega
  · split <;> omega

/-- Whether members are cut to those that are kept: the kept ones and then the dropped ones are all
the members, the closest in front, and members that are equally close are in their order. -/
structure CutsTo (distance : MemberInfo → ℕ) (members kept dropped : List MemberInfo) : Prop where
  perm : (kept ++ dropped).Perm members
  sorted : (kept ++ dropped).Pairwise fun a b => distance a ≤ distance b
  grouped : ∀ d, ((kept ++ dropped).filter fun m => distance m = d) =
    members.filter fun m => distance m = d

/-- No member is dropped while a less close one is kept. -/
theorem CutsTo.le {distance : MemberInfo → ℕ} {kept dropped : List MemberInfo}
    (h : CutsTo distance members kept dropped) :
    ∀ m ∈ kept, ∀ m' ∈ dropped, distance m ≤ distance m' :=
  (List.pairwise_append.1 h.sorted).2.2

section Cap

variable {limit : ℕ}

theorem capMembers_eq_self (h : members.length ≤ limit) :
    capMembers members requested similar limit = members := if_pos h

/-- **A list that is too long is sorted by closeness, and cut.** -/
theorem capMembers_eq_take (h : limit < members.length) :
    capMembers members requested similar limit =
      (byKey (closeness requested similar) members).take limit := by
  have hexact : (members.filter fun m => requested == some m.name) =
      members.filter fun m => closeness requested similar m = 0 :=
    List.filter_congr fun m _ => by
      rw [Bool.eq_iff_iff, decide_eq_true_eq, closeness_eq_zero_iff, beq_iff_eq]
  have hsimilar : (members.filter fun m => !(requested == some m.name) && similar.contains m.name) =
      members.filter fun m => closeness requested similar m = 1 :=
    List.filter_congr fun m _ => by
      rw [Bool.eq_iff_iff, decide_eq_true_eq, closeness_eq_one_iff]
      simp
  have hother : (members.filter fun m => !(requested == some m.name) && !similar.contains m.name) =
      members.filter fun m => closeness requested similar m = 2 :=
    List.filter_congr fun m _ => by
      rw [Bool.eq_iff_iff, decide_eq_true_eq, closeness_eq_two_iff]
      simp
  unfold capMembers
  rw [if_neg (by omega)]
  dsimp only
  rw [hexact, hsimilar, hother, byKey_eq_flatMap fun m _ => closeness_lt requested similar m]
  simp [List.range_succ]

/-- **The members that are cut off are no closer than those that are listed.** -/
theorem capMembers_cutsTo (h : limit < members.length) :
    ∃ dropped, CutsTo (closeness requested similar) members
      (capMembers members requested similar limit) dropped := by
  refine ⟨(byKey (closeness requested similar) members).drop limit, ?_⟩
  rw [capMembers_eq_take requested similar h]
  refine { perm := ?_, sorted := ?_, grouped := ?_ }
  all_goals rw [List.take_append_drop]
  · exact byKey_perm members
  · exact byKey_pairwise members
  · exact filter_byKey members

theorem length_capMembers (members : List MemberInfo) (limit : ℕ) :
    (capMembers members requested similar limit).length = min members.length limit := by
  rcases Nat.lt_or_ge limit members.length with h | h
  · rw [capMembers_eq_take requested similar h, List.length_take, (byKey_perm members).length_eq,
      min_comm]
  · rw [capMembers_eq_self requested similar h, min_eq_left h]

theorem capMembers_subperm (members : List MemberInfo) (limit : ℕ) :
    (capMembers members requested similar limit).Subperm members := by
  rcases Nat.lt_or_ge limit members.length with h | h
  · obtain ⟨dropped, hcut⟩ := capMembers_cutsTo requested similar h
    exact (List.sublist_append_left _ dropped).subperm.trans hcut.perm.subperm
  · rw [capMembers_eq_self requested similar h]

/-- **For each member, one that is as close is listed.** -/
theorem exists_mem_capMembers (hlimit : 1 ≤ limit) {m : MemberInfo} (hm : m ∈ members) :
    ∃ kept ∈ capMembers members requested similar limit,
      closeness requested similar kept ≤ closeness requested similar m := by
  rcases Nat.lt_or_ge limit members.length with h | h
  · obtain ⟨dropped, hcut⟩ := capMembers_cutsTo requested similar h
    rcases List.mem_append.1 (hcut.perm.mem_iff.2 hm) with hkept | hdropped
    · exact ⟨m, hkept, le_rfl⟩
    -- it is cut off, but some member is kept, and that one is no less close
    · have hlength := length_capMembers requested similar members limit
      obtain ⟨kept, hkept⟩ := List.exists_mem_of_length_pos
        (show 0 < (capMembers members requested similar limit).length by omega)
      exact ⟨kept, hkept, hcut.le kept hkept m hdropped⟩
  · rw [capMembers_eq_self requested similar h]
    exact ⟨m, hm, le_rfl⟩

/-- If a member has the requested name, one that has it is listed. -/
theorem exists_exact_capMembers (hlimit : 1 ≤ limit) {m : MemberInfo} (hm : m ∈ members)
    (hname : requested = some m.name) :
    ∃ kept ∈ capMembers members requested similar limit, requested = some kept.name := by
  obtain ⟨kept, hkept, hle⟩ := exists_mem_capMembers requested similar hlimit hm
  rw [closeness_eq_zero_iff.2 hname, Nat.le_zero, closeness_eq_zero_iff] at hle
  exact ⟨kept, hkept, hle⟩

/-- If no member has the requested name but one has a similar name, such a member is listed. -/
theorem exists_similar_capMembers (hlimit : 1 ≤ limit)
    (hnone : ¬ ∃ m ∈ members, requested = some m.name) {m : MemberInfo} (hm : m ∈ members)
    (hsimilar : m.name ∈ similar) :
    ∃ kept ∈ capMembers members requested similar limit, kept.name ∈ similar := by
  obtain ⟨kept, hkept, hle⟩ := exists_mem_capMembers requested similar hlimit hm
  have hother : ∀ m ∈ members, requested ≠ some m.name := fun m hm hname => hnone ⟨m, hm, hname⟩
  rw [closeness_eq_one_iff.2 ⟨hother m hm, hsimilar⟩] at hle
  have hmem := (capMembers_subperm requested similar members limit).subset hkept
  -- what is listed is as close, and none is closer than similar
  have hzero : closeness requested similar kept ≠ 0 :=
    mt closeness_eq_zero_iff.1 (hother kept hmem)
  have hone : closeness requested similar kept = 1 := by omega
  exact ⟨kept, hkept, (closeness_eq_one_iff.1 hone).2⟩

end Cap

/-! ## Reports -/

theorem Diagnosis.decide_eq_similarMatchesFound
    {typeFound requested membersKnown exact similar : Bool}
    (h : Diagnosis.decide typeFound requested membersKnown exact similar = .similarMatchesFound) :
    exact = false ∧ similar = true := by
  revert h
  cases typeFound <;> cases requested <;> cases membersKnown <;> cases exact <;> cases similar <;>
    decide

namespace TypeResolution

variable {σ : Type} {maxMembers : ℕ}

/-- The members in the answer of a catalog. -/
def dumpedMembers (catalog : TypeCatalog σ) (typeName : String) (s : σ) : List MemberInfo :=
  ((dumped? catalog typeName s).map MemberTable.members).getD []

/-- **Whether a report keeps the evidence for its verdict**: which of the members of the type it
lists, and what it says about all of them. -/
structure KeepsEvidence (requested : Option String) (maxMembers : ℕ) (members : List MemberInfo)
    (found : TypeResolution) : Prop where
  total : found.totalMembers = members.length
  subperm : found.actualMembers.Subperm members
  length : found.actualMembers.length = min found.totalMembers maxMembers
  /-- Members that fit are listed as they are. -/
  whole : found.totalMembers ≤ maxMembers → found.actualMembers = members
  /-- Otherwise the closest are listed, and none is dropped while a less close one is kept. -/
  cut : maxMembers < found.totalMembers → ∃ dropped,
    CutsTo (closeness requested found.similarMatches) members found.actualMembers dropped ∧
      ∀ m ∈ found.actualMembers, ∀ m' ∈ dropped,
        closeness requested found.similarMatches m ≤ closeness requested found.similarMatches m'
  exactMatch_iff : found.exactMatch = true ↔ ∃ m ∈ members, requested = some m.name
  exactKept : found.exactMatch = true → ∃ m ∈ found.actualMembers, requested = some m.name
  similar : ∀ wanted ∈ requested, IsSimilarList wanted members found.similarMatches
  noSimilar : requested = none → found.similarMatches = []
  /-- A verdict that names are similar comes with a member that has such a name. -/
  similarKept : found.diagnosis = .similarMatchesFound →
    ∃ m ∈ found.actualMembers, m.name ∈ found.similarMatches

/-- **A report keeps the evidence for its verdict**, wherever the type was located. -/
theorem report_keepsEvidence (hmax : 1 ≤ maxMembers) (request : MemberRequest)
    (methodTable : Option Address) (resolvedVia : Option String) (table : Option MemberTable) :
    KeepsEvidence request.memberName maxMembers ((table.map MemberTable.members).getD [])
      (report maxMembers request methodTable resolvedVia table) := by
  unfold report
  dsimp only
  generalize (table.map MemberTable.members).getD [] = members
  generalize request.memberName = requested
  have hexact : (requested.any fun name => members.any fun m => m.name == name) = true ↔
      ∃ m ∈ members, requested = some m.name := by
    cases requested with
    | none => simp
    | some name => simp only [Option.any_some, List.any_eq_true, beq_iff_eq, Option.some.injEq,
        eq_comm (a := name)]
  have hlist : ∀ wanted ∈ requested,
      IsSimilarList wanted members ((requested.map (similarMembers members)).getD []) := by
    rintro wanted rfl
    exact isSimilarList_similarMembers members wanted
  have hnone : requested = none → (requested.map (similarMembers members)).getD [] = [] := by
    rintro rfl
    rfl
  generalize (requested.map (similarMembers members)).getD [] = similar at hlist hnone
  refine { total := rfl, subperm := capMembers_subperm _ _ _ _, length := length_capMembers _ _ _ _,
           whole := capMembers_eq_self _ _, cut := ?_, exactMatch_iff := hexact, exactKept := ?_,
           similar := hlist, noSimilar := hnone, similarKept := ?_ }
  · intro hlt
    obtain ⟨dropped, hcut⟩ := capMembers_cutsTo requested similar hlt
    exact ⟨dropped, hcut, hcut.le⟩
  · intro h
    obtain ⟨m, hm, hname⟩ := hexact.1 h
    exact exists_exact_capMembers requested similar hmax hm hname
  · intro h
    obtain ⟨hother, hsome⟩ := Diagnosis.decide_eq_similarMatchesFound h
    have hnoExact := mt hexact.2 (Bool.eq_false_iff.1 hother)
    rw [Bool.not_eq_true', List.isEmpty_eq_false_iff_exists_mem] at hsome
    obtain ⟨name, hname⟩ := hsome
    cases requested with
    | none => exact absurd (hnone rfl ▸ hname) List.not_mem_nil
    | some wanted =>
      obtain ⟨m, hm, rfl⟩ := List.mem_map.1 (((hlist wanted rfl).mem_iff name).1 hname).1
      exact exists_similar_capMembers _ similar hmax hnoExact hm hname

/-- **A diagnosis keeps the evidence for its verdict.** For every request and every catalog, the
report lists the members that are closest to the requested one. -/
theorem ofRequest_keepsEvidence (request : MemberRequest) (hmax : 1 ≤ maxMembers)
    (catalog : TypeCatalog σ) (s : σ) :
    KeepsEvidence request.memberName maxMembers (dumpedMembers catalog request.typeName s)
      (ofRequest maxMembers request catalog s).1 := by
  rw [ofRequest_fst]
  exact report_keepsEvidence hmax request _ _ _

/-- A catalog of one type, with two members of one name and two of similar names. -/
def overloads : TypeCatalog Unit where
  findType _ := pure (some { methodTable := some ⟨16⟩ })
  dumpMembers _ := pure (some
    { members := ["Store", "LoadAll", "Load", "UNLOAD", "Load"].map fun name =>
        { name, signature := name ++ "()", compileStatus := .jit } })
  heapHistogram := pure none

/-- Three of five members are kept: both that have the name, and the first with a similar one. -/
theorem ofRequest_keepsEvidence_overloads :
    ∃ found, (ofRequest 3 { typeName := "App.Cache", memberName := some "Load" } overloads ()).1 =
        found ∧
      1 ≤ 3 ∧ KeepsEvidence (some "Load") 3 (dumpedMembers overloads "App.Cache" ()) found ∧
      found.totalMembers = 5 ∧ found.similarMatches = ["LoadAll", "UNLOAD"] ∧
      found.actualMembers.map MemberInfo.name = ["Load", "Load", "LoadAll"] :=
  ⟨_, rfl, by decide, ofRequest_keepsEvidence { typeName := "App.Cache", memberName := some "Load" }
    (by decide) overloads (), by decide +kernel, by decide +kernel, by decide +kernel⟩

end TypeResolution

end Postmortem
