import Mathlib.Tactic
import Postmortem.Proofs.Stack.EmissionOrder

/-!
# The order of the input

Where every frame of a list has a stack pointer of its own (`Located`), its normal form is the
one list of its frames in which ranks ascend, so the order in which the frames were printed
does not matter (`normalize_perm_eq`). A merge sees its lists only in their normal form.

* `merge_perm`: **merging gives the same stack for every order of the native and of the
  runtime's frames.**
-/

namespace Postmortem

/-- Every frame has a stack pointer, and no two have the same one. -/
structure Located (frames : List Frame) : Prop where
  known : ∀ f ∈ frames, f.stackPointer.isSome = true
  distinct : (frames.map Frame.stackPointer).Nodup

theorem Located.perm {frames others : List Frame} (h : Located frames)
    (hperm : frames.Perm others) : Located others where
  known := fun f hf => h.known f (hperm.mem_iff.2 hf)
  distinct := (hperm.map _).nodup_iff.1 h.distinct

theorem knownCount_perm {frames others : List Frame} (h : frames.Perm others) :
    knownCount frames = knownCount others := (h.filter _).length_eq

/-- A list with fewer than two members has one order. -/
theorem eq_of_perm_of_length_lt_two {α : Type} {l others : List α} (h : l.Perm others)
    (hlength : l.length < 2) : l = others := by
  match l with
  | [] => exact h.nil_eq
  | [a] => exact (List.perm_singleton.1 h.symm).symm
  | a :: b :: rest => simp at hlength

namespace StackLayout

variable {layout : StackLayout} {frames others : List Frame}

/-- The frame at its own rank. -/
def ranked (layout : StackLayout) (frame : Frame) : RankedFrame := ⟨frame, layout.rankOf frame⟩

/-- Nothing is estimated where every stack pointer is known. -/
theorem withRanks_of_known (h : ∀ f ∈ frames, f.stackPointer.isSome = true) :
    layout.withRanks frames = frames.map layout.ranked := by
  have hranked : ∀ f ∈ layout.withRanks frames, f = layout.ranked f.frame := by
    intro f hf
    have hmem : f.frame ∈ frames := by
      rw [← map_frame_withRanks layout frames]
      exact List.mem_map_of_mem hf
    obtain ⟨sp, hsp⟩ := Option.isSome_iff_exists.1 (h f.frame hmem)
    have hrank : layout.rankOf f.frame = some (layout.rank sp) := by
      unfold rankOf
      rw [hsp]
      rfl
    unfold ranked
    rw [hrank, ← rank_of_mem_withRanks hf hrank]
  calc layout.withRanks frames
      = (layout.withRanks frames).map fun f => layout.ranked f.frame := by
        conv_lhs => rw [← List.map_id (layout.withRanks frames)]
        exact List.map_congr_left hranked
    _ = ((layout.withRanks frames).map RankedFrame.frame).map layout.ranked := by
        rw [List.map_map]
        rfl
    _ = frames.map layout.ranked := by rw [map_frame_withRanks]

/-- The normal form of located frames has each of them at its own rank. -/
theorem normalize_perm_of_known (h : ∀ f ∈ frames, f.stackPointer.isSome = true) :
    (layout.normalize frames).Perm (frames.map layout.ranked) := by
  have hinward : ∀ f ∈ layout.inward frames, f.stackPointer.isSome = true :=
    fun f hf => h f ((inward_perm frames).mem_iff.1 hf)
  have hperm : ((layout.inward frames).map layout.ranked).Perm (frames.map layout.ranked) :=
    (inward_perm frames).map _
  unfold normalize
  dsimp only
  rw [withRanks_of_known hinward]
  split
  · exact (List.mergeSort_perm _ _).trans hperm
  · exact hperm

/-- **Located frames have one normal form**, in whatever order they come. -/
theorem normalize_perm_eq (h : Located frames) (hperm : frames.Perm others) :
    layout.normalize frames = layout.normalize others := by
  have hframes : (layout.normalize frames).Perm (frames.map layout.ranked) :=
    normalize_perm_of_known h.known
  have hothers : (layout.normalize others).Perm (others.map layout.ranked) :=
    normalize_perm_of_known (h.perm hperm).known
  refine List.Perm.eq_of_pairwise (fun a b ha hb hab hba => ?_)
    (List.pairwise_filterMap.1 (normalize_inOrder frames).sorted)
    (List.pairwise_filterMap.1 (normalize_inOrder others).sorted)
    (hframes.trans ((hperm.map layout.ranked).trans hothers.symm))
  -- two frames that may stand in either order have one rank, so they are one frame
  obtain ⟨f, hf, rfl⟩ := List.mem_map.1 (hframes.mem_iff.1 ha)
  obtain ⟨g, hg, rfl⟩ := List.mem_map.1 (hothers.mem_iff.1 hb)
  obtain ⟨sp, hsp⟩ := Option.isSome_iff_exists.1 (h.known f hf)
  obtain ⟨sp', hsp'⟩ := Option.isSome_iff_exists.1 ((h.perm hperm).known g hg)
  have hrank : (layout.ranked f).rank = some (layout.rank sp) := congrArg (Option.map _) hsp
  have hrank' : (layout.ranked g).rank = some (layout.rank sp') := congrArg (Option.map _) hsp'
  have heq : layout.rank sp = layout.rank sp' :=
    le_antisymm (hab _ hrank _ hrank') (hba _ hrank' _ hrank)
  have hpointer : f.stackPointer = g.stackPointer := by rw [hsp, hsp', rank_injective heq]
  rw [List.inj_on_of_nodup_map h.distinct hf (hperm.mem_iff.2 hg) hpointer]

/-- **The order of the input does not matter.** If every frame has a stack pointer, and no two
frames of one list have the same, then merging gives the same frames, strategy and counts for
every order of the native frames and every order of the runtime's. -/
theorem merge_perm (layout : StackLayout) {native native' runtime runtime' : List Frame}
    (hnative : Located native) (hruntime : Located runtime) (hn : native.Perm native')
    (hr : runtime.Perm runtime') : layout.merge native runtime = layout.merge native' runtime' := by
  have hcount := knownCount_perm (hn.append hr)
  rcases lt_or_ge (knownCount (native ++ runtime)) 2 with hfew | hknown
  · -- all stack pointers are known, so the lists have fewer than two frames together
    have hlength : (native ++ runtime).length < 2 := by
      rw [knownCount, List.filter_eq_self.2 ?_] at hfew
      · exact hfew
      · intro f hf
        rcases List.mem_append.1 hf with hf | hf
        · exact hnative.known f hf
        · exact hruntime.known f hf
    rw [List.length_append] at hlength
    rw [eq_of_perm_of_length_lt_two hn (by omega), eq_of_perm_of_length_lt_two hr (by omega)]
  · rw [layout.merge_of_known hknown, layout.merge_of_known (hcount ▸ hknown),
      normalize_perm_eq hnative hn, normalize_perm_eq hruntime hr]

/-- Stacks of which two frames are shared, printed in two orders. -/
theorem merge_perm_shuffled :
    let native := runtimeFrames [some 0x100, some 0x80, some 0xc0]
    let runtime := runtimeFrames [some 0x80, some 0x90, some 0xc0]
    (Located native ∧ Located runtime ∧ native.Perm native.reverse ∧
        runtime.Perm (runtime.rotate 1)) ∧
      ({} : StackLayout).merge native runtime =
        ({} : StackLayout).merge native.reverse (runtime.rotate 1) := by
  intro native runtime
  have hnative : Located native := ⟨by decide, by decide⟩
  have hruntime : Located runtime := ⟨by decide, by decide⟩
  have hn : native.Perm native.reverse := (List.reverse_perm native).symm
  have hr : runtime.Perm (runtime.rotate 1) := (List.rotate_perm runtime 1).symm
  exact ⟨⟨hnative, hruntime, hn, hr⟩, merge_perm {} hnative hruntime hn hr⟩

end StackLayout

end Postmortem
