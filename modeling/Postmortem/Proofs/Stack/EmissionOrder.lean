import Mathlib.Tactic
import Postmortem.Proofs.Stack.Estimates
import Postmortem.Proofs.Stack.MergeAccount

/-!
# Frames stay where they were printed

A frame without a stack pointer has no place of its own, so its place is the one that it was
printed at. If the known stack pointers of a list lead from the inside out (`FromInside`), its
estimated ranks ascend with its positions, and sorting by rank moves nothing
(`normalize_of_fromInside`). If they lead from the outside in (`FromOutside`), the list is
turned round first.

* `merge_nil_keeps_order`: **without frames of the runtime, a stack in order keeps the order
  in which it was printed, or is reversed as a whole; and merging a merged stack again changes
  nothing.**
-/

namespace Postmortem

theorem getElem?_renumber (frames : List Frame) (i : ℕ) :
    (renumber frames)[i]? = frames[i]?.map fun frame => { frame with index := i } := by
  unfold renumber
  rw [List.getElem?_map, List.getElem?_zipIdx, Option.map_map, Nat.zero_add]
  rfl

theorem renumber_renumber (frames : List Frame) : renumber (renumber frames) = renumber frames := by
  refine List.ext_getElem? fun i => ?_
  rw [getElem?_renumber, getElem?_renumber, Option.map_map]
  rfl

namespace StackLayout

/-- The known stack pointers lead from the inside out. -/
def FromInside (layout : StackLayout) (frames : List Frame) : Prop :=
  (frames.filterMap Frame.stackPointer).Pairwise layout.growth.Inward

/-- The known stack pointers lead from the outside in. -/
def FromOutside (layout : StackLayout) (frames : List Frame) : Prop :=
  (frames.filterMap Frame.stackPointer).Pairwise fun a b => layout.growth.Inward b a

variable {layout : StackLayout} {frames : List Frame}

/-! ## Ranks of frames in order -/

theorem filterMap_rankOf (frames : List Frame) :
    frames.filterMap layout.rankOf = (frames.filterMap Frame.stackPointer).map layout.rank := by
  rw [List.map_filterMap]
  rfl

theorem rank_injective : Function.Injective layout.rank := by
  intro a b hab
  have hle := (rank_le_rank_iff a b).1 hab.le
  have hge := (rank_le_rank_iff b a).1 hab.ge
  have hvalue : a.value = b.value := by
    unfold StackGrowth.Inward at hle hge
    cases hgrowth : layout.growth with
    | downward =>
      rw [hgrowth] at hle hge
      exact UInt64.le_antisymm hle hge
    | upward =>
      rw [hgrowth] at hle hge
      exact UInt64.le_antisymm hge hle
  cases a
  cases b
  exact congrArg Address.mk hvalue

theorem rank_le_maxAddress (sp : Address) : layout.rank sp ≤ maxAddress := by
  have hle := toNat_le_maxAddress sp
  unfold rank
  cases layout.growth with
  | downward => exact hle
  | upward => exact Nat.sub_le _ _

/-- The known ranks of frames from the inside out never decrease. -/
theorem FromInside.ascending (h : layout.FromInside frames) :
    Ascending (layout.knownRanks frames) where
  listed := knownRanks_pairwise frames
  mono := by
    rintro ⟨i, r⟩ hp ⟨j, s⟩ hq hij
    obtain ⟨f, hf, hr⟩ := mem_knownRanks.1 hp
    obtain ⟨g, hg, hs⟩ := mem_knownRanks.1 hq
    rcases Nat.eq_or_lt_of_le hij with heq | hlt
    · obtain rfl : i = j := heq
      rw [hf] at hg
      obtain rfl := Option.some.inj hg
      rw [hr] at hs
      exact (Option.some.inj hs).le
    · obtain ⟨a, ha, rfl⟩ := Option.map_eq_some_iff.1 hr
      obtain ⟨b, hb, rfl⟩ := Option.map_eq_some_iff.1 hs
      obtain ⟨hi, rfl⟩ := List.getElem?_eq_some_iff.1 hf
      obtain ⟨hj, rfl⟩ := List.getElem?_eq_some_iff.1 hg
      have hpair := List.pairwise_iff_getElem.1 (List.pairwise_filterMap.1 h) i j hi hj hlt
      exact (rank_le_rank_iff a b).2 (hpair a ha b hb)
  le_max := by
    rintro ⟨i, r⟩ hp
    obtain ⟨f, -, hr⟩ := mem_knownRanks.1 hp
    obtain ⟨a, -, rfl⟩ := Option.map_eq_some_iff.1 hr
    exact rank_le_maxAddress a

/-- The ranks of frames from the inside out ascend, known and estimated ones alike. -/
theorem FromInside.withRanks_pairwise (h : layout.FromInside frames) :
    (layout.withRanks frames).Pairwise fun a b => a.rank.getD 0 ≤ b.rank.getD 0 := by
  have hpositions : frames.zipIdx.Pairwise fun p q => p.2 < q.2 := by
    rw [← List.pairwise_map (f := Prod.snd) (R := (· < ·)), List.zipIdx_map_snd]
    exact List.pairwise_lt_range'
  unfold withRanks
  refine List.Pairwise.map _ (fun p q hpq => ?_) hpositions
  show (layout.estimate _ p.2).getD 0 ≤ (layout.estimate _ q.2).getD 0
  cases hp : layout.estimate (layout.knownRanks frames) p.2 with
  | none => exact Nat.zero_le _
  | some d =>
    cases hq : layout.estimate (layout.knownRanks frames) q.2 with
    | none =>
      rw [estimate_eq_none_iff.1 hq] at hp
      cases hp
    | some e => exact h.ascending.estimate_mono hpq.le hp hq

/-! ## Normal forms of frames in order -/

/-- Frames from the inside out are not turned round. -/
theorem inward_of_fromInside (h : layout.FromInside frames) : layout.inward frames = frames := by
  have hranks : (frames.filterMap layout.rankOf).Pairwise (· ≤ ·) := by
    rw [filterMap_rankOf, List.pairwise_map]
    exact h.imp fun hab => (rank_le_rank_iff _ _).2 hab
  unfold inward
  dsimp only
  cases hknown : frames.filterMap layout.rankOf with
  | nil => rfl
  | cons first rest =>
    rw [hknown] at hranks
    have hle : first ≤ (first :: rest).getLast (List.cons_ne_nil _ _) :=
      hranks.rel_head (List.getLast_mem _)
    rw [List.head?_cons, List.getLast?_eq_some_getLast (List.cons_ne_nil _ _)]
    exact if_neg (not_lt.2 hle)

/-- Frames from the outside in are turned round, unless all are at one place. -/
theorem inward_of_fromOutside (h : layout.FromOutside frames)
    (hends : (frames.filterMap Frame.stackPointer).head? ≠
      (frames.filterMap Frame.stackPointer).getLast?) : layout.inward frames = frames.reverse := by
  unfold inward
  dsimp only
  rw [filterMap_rankOf, List.head?_map, List.getLast?_map]
  cases hknown : frames.filterMap Frame.stackPointer with
  | nil => rw [hknown] at hends; exact absurd rfl hends
  | cons first rest =>
    unfold FromOutside at h
    rw [hknown] at h hends
    rw [List.head?_cons, List.getLast?_eq_some_getLast (List.cons_ne_nil first rest)] at hends ⊢
    set last := (first :: rest).getLast (List.cons_ne_nil first rest) with hlast
    have hlt : layout.rank last < layout.rank first := by
      rcases List.mem_cons.1 (List.getLast_mem (List.cons_ne_nil first rest)) with heq | hmem
      · exact absurd (congrArg some heq.symm) hends
      · have hle := (rank_le_rank_iff _ _).2 ((List.pairwise_cons.1 h).1 _ hmem)
        exact lt_of_le_of_ne hle fun heq => hends (congrArg some (rank_injective heq).symm)
    exact if_pos hlt

/-- **Frames from the inside out are in normal form**, wherever stack pointers are missing. -/
theorem normalize_of_fromInside (h : layout.FromInside frames) :
    layout.normalize frames = layout.withRanks frames := by
  unfold normalize
  dsimp only
  rw [inward_of_fromInside h]
  split
  · refine List.mergeSort_of_pairwise (h.withRanks_pairwise.imp fun hab => ?_)
    exact decide_eq_true hab
  · rfl

theorem FromOutside.reverse (h : layout.FromOutside frames) :
    layout.FromInside frames.reverse := by
  unfold FromInside
  rw [List.filterMap_reverse]
  exact List.pairwise_reverse.2 h

/-- A normal form depends on the frames as they are turned. -/
theorem normalize_congr {others : List Frame} (h : layout.inward frames = layout.inward others) :
    layout.normalize frames = layout.normalize others := by
  unfold normalize
  rw [h]

theorem normalize_of_fromOutside (h : layout.FromOutside frames)
    (hends : (frames.filterMap Frame.stackPointer).head? ≠
      (frames.filterMap Frame.stackPointer).getLast?) :
    layout.normalize frames = layout.withRanks frames.reverse := by
  rw [← normalize_of_fromInside h.reverse]
  refine normalize_congr ?_
  rw [inward_of_fromOutside h hends, inward_of_fromInside h.reverse]

/-! ## Merging with nothing -/

/-- Frames without a counterpart are not joined. -/
theorem join_eq_self {tracked native : List RankedFrame}
    (h : ∀ f ∈ native, counterpart? tracked f.frame = none) (used : List ℕ) :
    join tracked used native = (native, used) := by
  induction native with
  | nil => rfl
  | cons f rest ih =>
    unfold join
    rw [h f List.mem_cons_self, Option.filter_none, ih fun g hg => h g (List.mem_cons_of_mem _ hg)]

theorem join_nil (native : List RankedFrame) (used : List ℕ) :
    join [] used native = (native, used) := by
  refine join_eq_self (fun f _ => ?_) used
  rw [counterpart?_eq]
  cases f.frame.stackPointer <;> rfl

/-- Merging with nothing puts frames in their normal form. -/
theorem frames_merge_nil (h : 2 ≤ knownCount frames) :
    (layout.merge frames []).frames =
      renumber ((layout.normalize frames).map RankedFrame.frame) := by
  have hnil : layout.normalize [] = [] := List.map_eq_nil_iff.1 (normalize_perm []).eq_nil
  rw [layout.merge_of_known (by rw [List.append_nil]; exact h), hnil, join_nil]
  rfl

/-- Fewer than two known stack pointers make a list as it was printed. -/
theorem frames_merge_nil_of_few (h : knownCount frames < 2) :
    (layout.merge frames []).frames = renumber frames := by
  rw [layout.merge_of_few (by rw [List.append_nil]; exact h), List.append_nil]

/-- **Frames from the inside out stay as they were printed.** -/
theorem frames_merge_nil_of_fromInside (h : layout.FromInside frames) :
    (layout.merge frames []).frames = renumber frames := by
  rcases lt_or_ge (knownCount frames) 2 with hfew | hknown
  · exact frames_merge_nil_of_few hfew
  · rw [frames_merge_nil hknown, normalize_of_fromInside h, map_frame_withRanks]

theorem length_filterMap_stackPointer (frames : List Frame) :
    (frames.filterMap Frame.stackPointer).length = knownCount frames := by
  rw [List.length_filterMap_eq_countP, List.countP_eq_length_filter]
  rfl

/-- **Frames from the outside in are turned round as a whole.** -/
theorem frames_merge_nil_of_fromOutside (h : layout.FromOutside frames)
    (hends : (frames.filterMap Frame.stackPointer).head? ≠
      (frames.filterMap Frame.stackPointer).getLast?) :
    (layout.merge frames []).frames = renumber frames.reverse := by
  have hknown : 2 ≤ knownCount frames := by
    rw [← length_filterMap_stackPointer]
    match hl : frames.filterMap Frame.stackPointer with
    | [] => rw [hl] at hends; exact absurd rfl hends
    | [a] => rw [hl] at hends; exact absurd rfl hends
    | a :: b :: rest => simp
  rw [frames_merge_nil hknown, normalize_of_fromOutside h hends, map_frame_withRanks]

/-- The stack pointers of a merged stack lead from the inside out. -/
theorem fromInside_merge (layout : StackLayout) (native runtime : List Frame) :
    layout.FromInside (layout.merge native runtime).frames := by
  unfold FromInside
  rcases lt_or_ge (knownCount (native ++ runtime)) 2 with hfew | hknown
  · rw [layout.merge_of_few hfew, filterMap_stackPointer_renumber]
    exact pairwise_of_few hfew _
  · rw [layout.merge_of_known hknown, filterMap_stackPointer_renumber]
    have hjoined := (normalize_inOrder native).congr
      (map_join (layout.normalize runtime) (layout.normalize native) [])
    refine (hjoined.foldl_place fun f hf => ?_).stackPointers
    have hmem : f ∈ layout.normalize runtime := by
      obtain ⟨p, hp, rfl⟩ := List.mem_map.1 hf
      exact List.fst_mem_of_mem_zipIdx (List.mem_of_mem_filter hp)
    exact (normalize_inOrder runtime).known f hmem

/-- A merged stack is numbered from zero. -/
theorem renumber_merge (layout : StackLayout) (native runtime : List Frame) :
    renumber (layout.merge native runtime).frames = (layout.merge native runtime).frames := by
  rcases lt_or_ge (knownCount (native ++ runtime)) 2 with hfew | hknown
  · rw [layout.merge_of_few hfew, renumber_renumber]
  · rw [layout.merge_of_known hknown, renumber_renumber]

/-- **Merging with nothing keeps frames where they were printed.** For any frames without a stack
pointer between them, in either direction and for every stride: frames whose known stack
pointers lead from the inside out stay in the order in which they were printed; frames whose
known stack pointers lead from the outside in, from one place to another, are reversed; and a
merged stack stays what it is. -/
theorem merge_nil_keeps_order (layout : StackLayout) (frames runtime : List Frame) :
    (layout.FromInside frames → (layout.merge frames []).frames = renumber frames) ∧
    (layout.FromOutside frames →
      (frames.filterMap Frame.stackPointer).head? ≠
        (frames.filterMap Frame.stackPointer).getLast? →
      (layout.merge frames []).frames = renumber frames.reverse) ∧
    (layout.merge (layout.merge frames runtime).frames []).frames =
      (layout.merge frames runtime).frames := by
  refine ⟨frames_merge_nil_of_fromInside, frames_merge_nil_of_fromOutside, ?_⟩
  rw [frames_merge_nil_of_fromInside (fromInside_merge layout frames runtime), renumber_merge]

/-- Frames without a stack pointer stand between, before and behind known ones, some of which
are equal. -/
theorem merge_nil_keeps_order_ties :
    let layout : StackLayout := {}
    let inside := runtimeFrames [none, some 0x100, none, none, some 0x100, some 0x180, none]
    let outside := runtimeFrames [some 0x180, none, some 0x100, none, some 0x100]
    (layout.FromInside inside ∧ (layout.merge inside []).frames = renumber inside) ∧
      layout.FromOutside outside ∧
      (outside.filterMap Frame.stackPointer).head? ≠
        (outside.filterMap Frame.stackPointer).getLast? ∧
      (layout.merge outside []).frames = renumber outside.reverse := by
  intro layout inside outside
  have hinside : layout.FromInside inside := by
    unfold FromInside
    simp [layout, inside, runtimeFrames, StackGrowth.Inward]
  have houtside : layout.FromOutside outside := by
    unfold FromOutside
    simp [layout, outside, runtimeFrames, StackGrowth.Inward]
  have hends : (outside.filterMap Frame.stackPointer).head? ≠
      (outside.filterMap Frame.stackPointer).getLast? := by decide
  exact ⟨⟨hinside, (merge_nil_keeps_order layout inside []).1 hinside⟩, houtside, hends,
    (merge_nil_keeps_order layout outside []).2.1 houtside hends⟩

end StackLayout

end Postmortem
