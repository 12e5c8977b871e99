import Mathlib.Data.List.TakeWhile
import Postmortem.Proofs.Stack.Rank

/-!
# The order of merged stacks

Joining keeps every native frame at its rank, and an orphan of the runtime goes behind
the frames whose ranks are at most its own. So a merge starts from frames in order
(`normalize_inOrder`) and keeps them in order with each orphan (`InOrder.place`,
`InOrder.foldl_place`).

* `merge_ordered`: **the frames of a merged stack are numbered from zero, and their
  stack pointers lead from the inside out**, whatever is known about the two lists.
-/

namespace Postmortem

/-! ## Numbering -/

theorem map_index_renumber (frames : List Frame) :
    (renumber frames).map Frame.index = List.range (renumber frames).length := by
  unfold renumber
  simp only [List.map_map, Function.comp_def, List.length_map, List.length_zipIdx]
  rw [List.range_eq_range']
  exact List.zipIdx_map_snd 0 frames

theorem filterMap_stackPointer_renumber (frames : List Frame) :
    (renumber frames).filterMap Frame.stackPointer = frames.filterMap Frame.stackPointer := by
  unfold renumber
  rw [List.filterMap_map]
  conv_rhs => rw [← List.zipIdx_map_fst 0 frames, List.filterMap_map]
  rfl

/-! ## Joining and placing -/

/-- **Joining moves no frame**: native frames keep their stack pointers and ranks. -/
theorem map_join (runtime : List RankedFrame) (native : List RankedFrame) :
    ∀ used, (join runtime used native).1.map (fun f => (f.frame.stackPointer, f.rank)) =
      native.map fun f => (f.frame.stackPointer, f.rank) := by
  induction native with
  | nil => intro used; rfl
  | cons f rest ih =>
    intro used
    unfold join
    split
    · rename_i i _
      simp only [List.map_cons, ih]
      cases runtime[i]? <;> rfl
    · simp only [List.map_cons, ih]

/-- Whether a frame stays in front of an orphan of rank `r`: its rank is at most `r`, or it
has none. -/
def RankedFrame.staysInside (r : ℕ) (f : RankedFrame) : Bool := !f.rank.any (r < ·)

theorem place_of_rank {merged : List RankedFrame} {orphan : RankedFrame} {r : ℕ}
    (hr : orphan.rank = some r) :
    place merged orphan = merged.takeWhile (RankedFrame.staysInside r) ++
      orphan :: merged.dropWhile (RankedFrame.staysInside r) := by
  unfold place
  rw [hr]
  simp only [List.span_eq_takeWhile_dropWhile]
  rfl

/-- Placing an orphan adds it and nothing else. -/
theorem place_perm (merged : List RankedFrame) (orphan : RankedFrame) :
    (place merged orphan).Perm (orphan :: merged) := by
  cases hr : orphan.rank with
  | none =>
    unfold place
    rw [hr]
    exact List.perm_append_comm
  | some r =>
    rw [place_of_rank hr]
    refine List.perm_middle.trans ?_
    rw [List.takeWhile_append_dropWhile]

theorem rank_le_of_mem_takeWhile {merged : List RankedFrame} {r s : ℕ}
    (hs : s ∈ (merged.takeWhile (RankedFrame.staysInside r)).filterMap RankedFrame.rank) :
    s ≤ r := by
  obtain ⟨f, hf, hfs⟩ := List.mem_filterMap.1 hs
  have hp : RankedFrame.staysInside r f = true := List.mem_takeWhile_imp hf
  simpa [RankedFrame.staysInside, hfs] using hp

/-- In sorted frames, everything behind the first frame further out is further out, too. -/
theorem lt_rank_of_mem_dropWhile {merged : List RankedFrame} {r s : ℕ}
    (hsorted : (merged.filterMap RankedFrame.rank).Pairwise (· ≤ ·))
    (hs : s ∈ (merged.dropWhile (RankedFrame.staysInside r)).filterMap RankedFrame.rank) :
    r < s := by
  induction merged with
  | nil => cases hs
  | cons f rest ih =>
    by_cases hf : RankedFrame.staysInside r f = true
    · rw [List.dropWhile_cons_of_pos hf] at hs
      refine ih (hsorted.sublist ?_) hs
      exact (List.sublist_cons_self f rest).filterMap _
    · rw [List.dropWhile_cons_of_neg hf] at hs
      obtain ⟨t, ht, hrt⟩ : ∃ t, f.rank = some t ∧ r < t := by
        simpa [RankedFrame.staysInside, Option.any_eq_true] using hf
      rw [List.filterMap_cons_some ht] at hs hsorted
      rcases List.mem_cons.1 hs with rfl | hs
      · exact hrt
      · exact lt_of_lt_of_le hrt ((List.pairwise_cons.1 hsorted).1 s hs)

namespace StackLayout

variable {layout : StackLayout} {ranked merged orphans : List RankedFrame}

/-- Whether frames are in order depends on their stack pointers and ranks alone. -/
theorem InOrder.congr (h : layout.InOrder ranked)
    (he : merged.map (fun f => (f.frame.stackPointer, f.rank)) =
      ranked.map fun f => (f.frame.stackPointer, f.rank)) : layout.InOrder merged := by
  refine ⟨fun f hf r hr => ?_, ?_⟩
  · have hm := List.mem_map_of_mem (f := fun f => (f.frame.stackPointer, f.rank)) hf
    rw [he] at hm
    obtain ⟨g, hg, hgf⟩ := List.mem_map.1 hm
    obtain ⟨hsp, hrank⟩ := Prod.mk.inj hgf
    rw [← hrank]
    refine h.known g hg r ?_
    unfold rankOf at hr ⊢
    rw [hsp, hr]
  · have hsnd : ∀ l : List RankedFrame, l.filterMap RankedFrame.rank =
        (l.map fun f => (f.frame.stackPointer, f.rank)).filterMap Prod.snd := by
      intro l; rw [List.filterMap_map]; rfl
    rw [hsnd, he, ← hsnd]
    exact h.sorted

/-- **Placing an orphan keeps frames in order.** -/
theorem InOrder.place (h : layout.InOrder merged) {orphan : RankedFrame}
    (ho : ∀ r, layout.rankOf orphan.frame = some r → orphan.rank = some r) :
    layout.InOrder (place merged orphan) := by
  refine ⟨fun f hf => ?_, ?_⟩
  · rcases List.mem_cons.1 ((place_perm merged orphan).mem_iff.1 hf) with rfl | hf
    · exact ho
    · exact h.known f hf
  · cases hr : orphan.rank with
    | none =>
      unfold Postmortem.place
      rw [hr, List.filterMap_append]
      simpa [hr] using h.sorted
    | some r =>
      -- the orphan stands between the frames that stay inside and the rest
      have hs := h.sorted
      rw [← List.takeWhile_append_dropWhile (p := RankedFrame.staysInside r) (l := merged),
        List.filterMap_append, List.pairwise_append] at hs
      obtain ⟨hin, hout, hcross⟩ := hs
      rw [place_of_rank hr, List.filterMap_append, List.filterMap_cons_some hr,
        List.pairwise_append, List.pairwise_cons]
      have hbehind := fun s hs => (@lt_rank_of_mem_dropWhile merged r s h.sorted hs).le
      refine ⟨hin, ⟨hbehind, hout⟩, fun a ha b hb => ?_⟩
      rcases List.mem_cons.1 hb with rfl | hb
      · exact rank_le_of_mem_takeWhile ha
      · exact hcross a ha b hb

/-- **Placing orphans keeps frames in order**, in whatever order they come. -/
theorem InOrder.foldl_place
    (ho : ∀ f ∈ orphans, ∀ r, layout.rankOf f.frame = some r → f.rank = some r) :
    ∀ {merged}, layout.InOrder merged →
      layout.InOrder (orphans.foldl Postmortem.place merged) := by
  induction orphans with
  | nil => intro merged h; exact h
  | cons orphan rest ih =>
    intro merged h
    rw [List.foldl_cons]
    exact ih (fun f hf => ho f (List.mem_cons_of_mem _ hf)) (h.place (ho orphan List.mem_cons_self))

/-! ## Merged stacks -/

/-- Fewer than two known stack pointers are in any order. -/
theorem pairwise_of_few {frames : List Frame}
    (h : (frames.filter (·.stackPointer.isSome)).length < 2) (R : Address → Address → Prop) :
    (frames.filterMap Frame.stackPointer).Pairwise R := by
  have hlen : (frames.filterMap Frame.stackPointer).length < 2 := by
    rw [List.length_filterMap_eq_countP, List.countP_eq_length_filter]
    exact h
  match hl : frames.filterMap Frame.stackPointer with
  | [] => exact List.Pairwise.nil
  | [a] => exact List.pairwise_singleton R a
  | a :: b :: rest => rw [hl] at hlen; simp at hlen

/-- **Merged stacks are numbered and in order.** For any native and runtime frames, with
stack pointers known, missing or repeated, and in any order: the frames of the merged
stack are numbered `0, 1, …` and their known stack pointers never turn back towards the
inside. -/
theorem merge_ordered (layout : StackLayout) (native runtime : List Frame) :
    let frames := (layout.merge native runtime).frames
    frames.map Frame.index = List.range frames.length ∧
      (frames.filterMap Frame.stackPointer).Pairwise layout.growth.Inward := by
  unfold merge
  split
  · rename_i hfew
    refine ⟨map_index_renumber _, ?_⟩
    rw [filterMap_stackPointer_renumber]
    exact pairwise_of_few hfew _
  · refine ⟨map_index_renumber _, ?_⟩
    rw [filterMap_stackPointer_renumber]
    -- joining starts from the native frames in order, and each orphan keeps them so
    have hjoin := (@normalize_inOrder layout native).congr
      (map_join (layout.normalize runtime) (layout.normalize native) [])
    refine (InOrder.foldl_place (fun f hf => ?_) hjoin).stackPointers
    obtain ⟨⟨g, i⟩, hg, rfl⟩ := List.mem_map.1 hf
    have hmem := List.fst_mem_of_mem_zipIdx (List.mem_of_mem_filter hg)
    exact (normalize_inOrder runtime).known g hmem

end StackLayout

end Postmortem
