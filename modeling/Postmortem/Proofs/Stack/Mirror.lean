import Mathlib.Data.List.Basic
import Postmortem.Proofs.Stack.MergeAccount

/-!
# Stacks that grow the other way

A stack that grows upward is the mirror image of one that grows downward: its stack
pointers are the complements of the other's. Ranks do not see the difference
(`rank_opposite`), and so every step of a merge commutes with mirroring the frames that it
works on. Matching compares stack pointers as they are, and complements differ where these do.

* `normalize_mirror`, `join_mirror`, `place_mirror`: the steps of a merge.
* `merge_opposite`: a merge of mirrored frames in the opposite direction is the mirrored
  merge.
* `merge_upward_eq_mirror`: **merging where stacks grow upward is merging where they grow
  downward, seen in the mirror.**
-/

namespace Postmortem

/-! ## Mirror images -/

/-- The address with every bit turned over. -/
def Address.complement (a : Address) : Address := ⟨~~~a.value⟩

/-- The frame at the mirrored place of the stack; all else stays. -/
def Frame.mirror (frame : Frame) : Frame :=
  { frame with stackPointer := frame.stackPointer.map Address.complement }

/-- The mirrored frame at its rank. -/
def RankedFrame.mirror (f : RankedFrame) : RankedFrame := { f with frame := f.frame.mirror }

/-- The stack of the mirrored frames. -/
def MergedStack.mirror (stack : MergedStack) : MergedStack :=
  { stack with frames := stack.frames.map Frame.mirror }

/-- The other direction. -/
def StackGrowth.opposite : StackGrowth → StackGrowth
  | downward => upward
  | upward => downward

/-- The layout of stacks that grow in the other direction. -/
def StackLayout.opposite (layout : StackLayout) : StackLayout :=
  { layout with growth := layout.growth.opposite }

namespace Address

@[simp] theorem complement_complement (a : Address) : a.complement.complement = a := by
  unfold complement
  rw [UInt64.not_not]

theorem complement_injective : Function.Injective complement :=
  Function.LeftInverse.injective complement_complement

theorem toNat_complement (a : Address) : a.complement.toNat = maxAddress - a.toNat := by
  unfold complement toNat maxAddress
  rw [UInt64.toNat_not]

end Address

namespace Frame

@[simp] theorem mirror_mirror (frame : Frame) : frame.mirror.mirror = frame := by
  unfold mirror
  simp only [Option.map_map]
  have hid : Address.complement ∘ Address.complement = id :=
    funext Address.complement_complement
  rw [hid, Option.map_id]
  rfl

@[simp] theorem isSome_stackPointer_mirror (frame : Frame) :
    frame.mirror.stackPointer.isSome = frame.stackPointer.isSome := Option.isSome_map

/-- Stack pointers are equal iff their mirror images are. -/
theorem stackPointer_mirror_beq (frame : Frame) (sp : Address) :
    (frame.mirror.stackPointer == some sp.complement) = (frame.stackPointer == some sp) := by
  rw [Bool.eq_iff_iff, beq_iff_eq, beq_iff_eq]
  unfold mirror
  rw [Option.map_eq_some_iff]
  constructor
  · rintro ⟨a, ha, hcomplement⟩
    rw [ha, Address.complement_injective hcomplement]
  · intro h
    exact ⟨sp, h, rfl⟩

/-- A joined frame stays where the native frame was. -/
theorem mirror_overlay (native runtime : Frame) :
    native.mirror.overlay runtime.mirror = (native.overlay runtime).mirror := rfl

end Frame

@[simp] theorem MergedStack.mirror_mirror (stack : MergedStack) : stack.mirror.mirror = stack := by
  unfold mirror
  simp [Function.comp_def]

/-! ## Ranks -/

namespace StackLayout

variable (layout : StackLayout)

/-- **Mirroring keeps ranks**, since the direction turns as well. -/
theorem rank_opposite (sp : Address) : layout.opposite.rank sp.complement = layout.rank sp := by
  have hle := toNat_le_maxAddress sp
  rcases layout with ⟨growth, stride⟩
  unfold opposite rank
  cases growth with
  | downward =>
    -- upward ranks are taken from the top, so the complement is turned over once more
    simp only [StackGrowth.opposite, Address.toNat_complement]
    omega
  | upward => exact Address.toNat_complement sp

theorem rankOf_mirror (frame : Frame) :
    layout.opposite.rankOf frame.mirror = layout.rankOf frame := by
  unfold rankOf Frame.mirror
  rw [Option.map_map]
  exact congrArg (Option.map · _) (funext layout.rank_opposite)

theorem knownRanks_mirror (frames : List Frame) :
    layout.opposite.knownRanks (frames.map Frame.mirror) = layout.knownRanks frames := by
  unfold knownRanks
  rw [List.zipIdx_map, List.filterMap_map]
  refine List.filterMap_congr fun p _ => ?_
  simp [rankOf_mirror]

theorem withRanks_mirror (frames : List Frame) :
    layout.opposite.withRanks (frames.map Frame.mirror) =
      (layout.withRanks frames).map RankedFrame.mirror := by
  unfold withRanks
  rw [knownRanks_mirror, List.zipIdx_map, List.map_map, List.map_map]
  rfl

theorem inward_mirror (frames : List Frame) :
    layout.opposite.inward (frames.map Frame.mirror) =
      (layout.inward frames).map Frame.mirror := by
  have hknown : (frames.map Frame.mirror).filterMap layout.opposite.rankOf =
      frames.filterMap layout.rankOf := by
    rw [List.filterMap_map]
    exact List.filterMap_congr fun f _ => layout.rankOf_mirror f
  unfold inward
  simp only [hknown]
  cases (frames.filterMap layout.rankOf).head? with
  | none => rfl
  | some first =>
    cases (frames.filterMap layout.rankOf).getLast? with
    | none => rfl
    | some last =>
      simp only
      split
      · exact List.map_reverse.symm
      · rfl

/-- **Normal forms of mirrored frames are mirrored**: the order of frames depends on their
ranks alone. -/
theorem normalize_mirror (frames : List Frame) :
    layout.opposite.normalize (frames.map Frame.mirror) =
      (layout.normalize frames).map RankedFrame.mirror := by
  set ranked := layout.withRanks (layout.inward frames) with hranked
  have hall : (ranked.map RankedFrame.mirror).all (·.rank.isSome) =
      ranked.all (·.rank.isSome) := List.all_map
  unfold normalize
  simp only [inward_mirror, withRanks_mirror, ← hranked, hall]
  split
  · exact (List.map_mergeSort (f := RankedFrame.mirror) fun a _ b _ => rfl).symm
  · rfl

end StackLayout

/-! ## Joining and placing -/

theorem counterpart?_mirror (runtime : List RankedFrame) (frame : Frame) :
    counterpart? (runtime.map RankedFrame.mirror) frame.mirror = counterpart? runtime frame := by
  unfold counterpart?
  cases hsp : frame.stackPointer with
  | none => simp [Frame.mirror, hsp]
  | some sp =>
    have hmirror : frame.mirror.stackPointer = some sp.complement := by simp [Frame.mirror, hsp]
    rw [hmirror, Option.bind_some, Option.bind_some, List.findIdx?_map]
    congr 1
    funext r
    exact r.frame.stackPointer_mirror_beq sp

/-- **Joining mirrored frames uses the same counterparts.** -/
theorem join_mirror (runtime native : List RankedFrame) : ∀ used,
    join (runtime.map RankedFrame.mirror) used (native.map RankedFrame.mirror) =
      ((join runtime used native).1.map RankedFrame.mirror, (join runtime used native).2) := by
  induction native with
  | nil => intro used; rfl
  | cons f rest ih =>
    intro used
    -- indices of runtime frames do not move, so the ones in use are the same on both sides
    have hcounterpart : counterpart? (runtime.map RankedFrame.mirror) f.mirror.frame =
        counterpart? runtime f.frame := counterpart?_mirror runtime f.frame
    rw [List.map_cons]
    unfold join
    rw [hcounterpart]
    cases (counterpart? runtime f.frame).filter fun i => !used.contains i with
    | none => simp only [ih, List.map_cons]
    | some i =>
      simp only [ih, List.map_cons, List.getElem?_map]
      cases runtime[i]? with
      | none => rfl
      | some r =>
        simp only [Option.map_some, Option.getD_some, RankedFrame.mirror, Frame.mirror_overlay]

theorem place_mirror (merged : List RankedFrame) (orphan : RankedFrame) :
    place (merged.map RankedFrame.mirror) orphan.mirror =
      (place merged orphan).map RankedFrame.mirror := by
  cases hr : orphan.rank with
  | none =>
    unfold place
    have hmirror : orphan.mirror.rank = none := hr
    rw [hr, hmirror]
    simp
  | some r =>
    have hmirror : orphan.mirror.rank = some r := hr
    rw [place_of_rank hr, place_of_rank hmirror, List.takeWhile_map, List.dropWhile_map,
      List.map_append, List.map_cons]
    rfl

theorem foldl_place_mirror (orphans : List RankedFrame) : ∀ merged,
    (orphans.map RankedFrame.mirror).foldl place (merged.map RankedFrame.mirror) =
      (orphans.foldl place merged).map RankedFrame.mirror := by
  induction orphans with
  | nil => intro merged; rfl
  | cons orphan rest ih =>
    intro merged
    rw [List.map_cons, List.foldl_cons, List.foldl_cons, place_mirror, ih]

theorem renumber_mirror (frames : List Frame) :
    renumber (frames.map Frame.mirror) = (renumber frames).map Frame.mirror := by
  unfold renumber
  rw [List.zipIdx_map, List.map_map, List.map_map]
  rfl

/-! ## Merged stacks -/

theorem orphansOf_mirror (runtime : List RankedFrame) (used : List ℕ) :
    orphansOf (runtime.map RankedFrame.mirror) used =
      (orphansOf runtime used).map RankedFrame.mirror := by
  unfold orphansOf
  rw [List.zipIdx_map, List.filter_map, List.map_map, List.map_map]
  rfl

theorem knownCount_mirror (frames : List Frame) :
    knownCount (frames.map Frame.mirror) = knownCount frames := by
  unfold knownCount
  rw [List.filter_map, List.length_map]
  exact congrArg List.length (List.filter_congr fun f _ => f.isSome_stackPointer_mirror)

namespace StackLayout

/-- **A merge of mirrored frames in the opposite direction is the mirrored merge.** -/
theorem merge_opposite (layout : StackLayout) (native runtime : List Frame) :
    layout.opposite.merge (native.map Frame.mirror) (runtime.map Frame.mirror) =
      (layout.merge native runtime).mirror := by
  have hcount := knownCount_mirror (native ++ runtime)
  rw [List.map_append] at hcount
  rcases lt_or_ge (knownCount (native ++ runtime)) 2 with hfew | hknown
  · rw [merge_of_few _ (hcount.trans_lt hfew), merge_of_few _ hfew, ← List.map_append,
      renumber_mirror, List.length_map]
    rfl
  · rw [merge_of_known _ (hknown.trans_eq hcount.symm), merge_of_known _ hknown]
    simp only [normalize_mirror, join_mirror, orphansOf_mirror, foldl_place_mirror,
      List.length_map]
    unfold MergedStack.mirror
    rw [← renumber_mirror, List.map_map, List.map_map]
    rfl

/-- **Stacks that grow upward are mirror images of stacks that grow downward**: merging frames
where stacks grow upward gives what comes out of merging their mirror images where stacks grow
downward, in the mirror. -/
theorem merge_upward_eq_mirror (stride : ℕ) (native runtime : List Frame) :
    (⟨.upward, stride⟩ : StackLayout).merge native runtime =
      ((⟨.downward, stride⟩ : StackLayout).merge (native.map Frame.mirror)
        (runtime.map Frame.mirror)).mirror := by
  have h := merge_opposite ⟨.upward, stride⟩ native runtime
  have hopposite : (⟨.upward, stride⟩ : StackLayout).opposite = ⟨.downward, stride⟩ := rfl
  rw [← hopposite, h, MergedStack.mirror_mirror]

end StackLayout

end Postmortem
