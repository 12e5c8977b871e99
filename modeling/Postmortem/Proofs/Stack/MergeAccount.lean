import Mathlib.Data.Finset.Card
import Postmortem.Proofs.Stack.MergeOrder

/-!
# What merged stacks are made of

Merging neither loses nor doubles a frame. Some native frames are joined with a frame of
the runtime at the same stack pointer (`Join`), and all other frames of both lists are
kept as they are. Joining uses each frame of the runtime once (`JoinedUp`), and every
position that is used belongs to one stack pointer.

* `normalize_perm`, `foldl_place_perm`: normal forms and placing only rearrange frames.
* `joinedUp_join`: **joining pairs frames one to one**, for each stack pointer once.
* `merge_accounts`: **a merged stack consists of the frames that went in**, and its counts
  are those of the stack pointers that both lists have.
-/

namespace Postmortem

/-! ## Frames up to their numbers -/

/-- The frame with its number left out. -/
def Frame.unnumbered (frame : Frame) : Frame := { frame with index := 0 }

theorem map_unnumbered_renumber (frames : List Frame) :
    (renumber frames).map Frame.unnumbered = frames.map Frame.unnumbered := by
  unfold renumber
  rw [List.map_map]
  conv_rhs => rw [← List.zipIdx_map_fst 0 frames, List.map_map]
  rfl

theorem length_renumber (frames : List Frame) : (renumber frames).length = frames.length := by
  unfold renumber
  rw [List.length_map, List.length_zipIdx]

/-! ## Overlays -/

/-- The result is the preferred value where that is there, and else the other one. -/
def Chosen {α : Type} (isThere : Bool) (result preferred other : α) : Prop :=
  (isThere = true → result = preferred) ∧ (isThere = false → result = other)

/-- **A native frame with what the runtime knows about it**: the pointers are the native
ones, and all else is the runtime's where the runtime has it. -/
structure Frame.Overlays (result native runtime : Frame) : Prop where
  stackPointer : result.stackPointer = native.stackPointer
  instructionPointer : Chosen native.instructionPointer.isSome result.instructionPointer
    native.instructionPointer runtime.instructionPointer
  function : Chosen runtime.function.isSome result.function runtime.function native.function
  moduleName : Chosen runtime.moduleName.isSome result.moduleName runtime.moduleName
    native.moduleName
  source : Chosen runtime.source.isSome result.source runtime.source native.source
  registers : Chosen (!runtime.registers.isEmpty) result.registers runtime.registers
    native.registers
  parameters : Chosen (!runtime.parameters.isEmpty) result.parameters runtime.parameters
    native.parameters
  locals : Chosen (!runtime.locals.isEmpty) result.locals runtime.locals native.locals
  isRuntimeTracked : result.isRuntimeTracked = true

theorem chosen_orElse {α : Type} (preferred other : Option α) :
    Chosen preferred.isSome (preferred <|> other) preferred other := by
  cases preferred with
  | none => exact ⟨nofun, fun _ => rfl⟩
  | some a => exact ⟨fun _ => rfl, nofun⟩

theorem chosen_ite {α : Type} (isEmpty : Bool) (preferred other : α) :
    Chosen (!isEmpty) (if isEmpty then other else preferred) preferred other := by
  cases isEmpty with
  | true => exact ⟨nofun, fun _ => rfl⟩
  | false => exact ⟨fun _ => rfl, nofun⟩

theorem Frame.overlay_overlays (native runtime : Frame) :
    (native.overlay runtime).Overlays native runtime where
  stackPointer := rfl
  instructionPointer := chosen_orElse _ _
  function := chosen_orElse _ _
  moduleName := chosen_orElse _ _
  source := chosen_orElse _ _
  registers := chosen_ite _ _ _
  parameters := chosen_ite _ _ _
  locals := chosen_ite _ _ _
  isRuntimeTracked := rfl

/-- A native frame and a frame of the runtime at one stack pointer, and what became of
them. -/
structure Join where
  native : Frame
  runtime : Frame
  result : Frame
  stackPointer : Address
  native_stackPointer : native.stackPointer = some stackPointer
  runtime_stackPointer : runtime.stackPointer = some stackPointer
  overlays : result.Overlays native runtime

/-! ## Joining -/

/-- The position of the first frame at a stack pointer. -/
def firstAt? (runtime : List RankedFrame) (sp : Address) : Option ℕ :=
  runtime.findIdx? fun r => r.frame.stackPointer == some sp

variable {runtime native : List RankedFrame} {used : List ℕ}

theorem counterpart?_eq (frame : Frame) :
    counterpart? runtime frame = frame.stackPointer.bind (firstAt? runtime) := rfl

theorem exists_of_firstAt? {sp : Address} {i : ℕ} (h : firstAt? runtime sp = some i) :
    ∃ r, runtime[i]? = some r ∧ r.frame.stackPointer = some sp := by
  obtain ⟨hlt, hi, -⟩ := List.findIdx?_eq_some_iff_getElem.1 h
  exact ⟨runtime[i], List.getElem?_eq_getElem hlt, by simpa using hi⟩

theorem firstAt?_isSome {sp : Address} {r : RankedFrame} (hr : r ∈ runtime)
    (hsp : r.frame.stackPointer = some sp) : ∃ i, firstAt? runtime sp = some i := by
  rw [← Option.isSome_iff_exists]
  unfold firstAt?
  rw [List.findIdx?_isSome, List.any_eq_true]
  exact ⟨r, hr, by simpa using hsp⟩

/-- **Native frames joined up with frames of the runtime**: `hits` are the joins with the
positions of their frames of the runtime, and `rest` are the native frames that stay as
they are. -/
structure JoinedUp (runtime native : List RankedFrame) (used : List ℕ)
    (hits : List (ℕ × Join)) (rest : List Frame) : Prop where
  native_perm : (native.map RankedFrame.frame).Perm (hits.map (·.2.native) ++ rest)
  result_perm : ((join runtime used native).1.map RankedFrame.frame).Perm
    (hits.map (·.2.result) ++ rest)
  used_perm : (join runtime used native).2.Perm (hits.map Prod.fst ++ used)
  nodup : (hits.map Prod.fst ++ used).Nodup
  position : ∀ p ∈ hits, firstAt? runtime p.2.stackPointer = some p.1
  runtime_frame : ∀ p ∈ hits, runtime[p.1]?.map RankedFrame.frame = some p.2.runtime
  left_over : ∀ f ∈ rest, ∀ i, counterpart? runtime f = some i →
    i ∈ hits.map Prod.fst ++ used

/-- **Joining pairs frames one to one.** -/
theorem joinedUp_join (runtime native : List RankedFrame) :
    ∀ used : List ℕ, used.Nodup → ∃ hits rest, JoinedUp runtime native used hits rest := by
  induction native with
  | nil =>
    intro used hused
    exact ⟨[], [], List.Perm.refl _, List.Perm.refl _, List.Perm.refl _, hused, by simp,
      by simp, by simp⟩
  | cons f native ih =>
    intro used hused
    cases hhit : (counterpart? runtime f.frame).filter fun i => !used.contains i with
    | some i =>
      obtain ⟨hcounter, hnew⟩ := Option.filter_eq_some_iff.1 hhit
      have hi : i ∉ used := by simpa using hnew
      obtain ⟨sp, hsp, hfirst⟩ := Option.bind_eq_some_iff.1 hcounter
      obtain ⟨r, hr, hrsp⟩ := exists_of_firstAt? hfirst
      obtain ⟨hits, rest, h⟩ := ih (i :: used) (List.nodup_cons.2 ⟨hi, hused⟩)
      let j : Join := ⟨f.frame, r.frame, f.frame.overlay r.frame, sp, hsp, hrsp,
        Frame.overlay_overlays _ _⟩
      have hjoin : join runtime used (f :: native) =
          (⟨f.frame.overlay r.frame, f.rank⟩ :: (join runtime (i :: used) native).1,
            (join runtime (i :: used) native).2) := by
        conv_lhs => unfold join
        rw [hhit]
        simp only [hr]
        rfl
      have hmiddle : (hits.map Prod.fst ++ i :: used).Perm
          (((i, j) :: hits).map Prod.fst ++ used) := List.perm_middle
      refine ⟨(i, j) :: hits, rest, h.native_perm.cons _, ?_, ?_, ?_, ?_, ?_, ?_⟩
      · rw [hjoin]
        exact h.result_perm.cons _
      · rw [hjoin]
        exact h.used_perm.trans hmiddle
      · exact hmiddle.nodup_iff.1 h.nodup
      · rintro p hp
        rcases List.mem_cons.1 hp with rfl | hp
        · exact hfirst
        · exact h.position p hp
      · rintro p hp
        rcases List.mem_cons.1 hp with rfl | hp
        · rw [hr]
          rfl
        · exact h.runtime_frame p hp
      · exact fun g hg k hk => hmiddle.mem_iff.1 (h.left_over g hg k hk)
    | none =>
      obtain ⟨hits, rest, h⟩ := ih used hused
      have hjoin : join runtime used (f :: native) =
          (f :: (join runtime used native).1, (join runtime used native).2) := by
        conv_lhs => unfold join
        rw [hhit]
      refine ⟨hits, f.frame :: rest, ?_, ?_, ?_, h.nodup, h.position, h.runtime_frame, ?_⟩
      · exact (h.native_perm.cons _).trans List.perm_middle.symm
      · rw [hjoin]
        exact (h.result_perm.cons _).trans List.perm_middle.symm
      · rw [hjoin]
        exact h.used_perm
      · intro g hg i hi
        rcases List.mem_cons.1 hg with rfl | hg
        · have hused := Option.filter_eq_none_iff.1 hhit i hi
          exact List.mem_append_right _ (by simpa using hused)
        · exact h.left_over g hg i hi

/-! ## Normal forms and orphans -/

namespace StackLayout

variable {layout : StackLayout}

theorem map_frame_withRanks (layout : StackLayout) (frames : List Frame) :
    (layout.withRanks frames).map RankedFrame.frame = frames := by
  unfold withRanks
  rw [List.map_map]
  conv_rhs => rw [← List.zipIdx_map_fst 0 frames]
  rfl

theorem inward_perm (frames : List Frame) : (layout.inward frames).Perm frames := by
  unfold inward
  dsimp only
  split
  · split
    · exact List.reverse_perm frames
    · exact List.Perm.refl _
  · exact List.Perm.refl _

/-- **A normal form has the frames of the list.** -/
theorem normalize_perm (frames : List Frame) :
    ((layout.normalize frames).map RankedFrame.frame).Perm frames := by
  have hranked := layout.map_frame_withRanks (layout.inward frames)
  unfold normalize
  dsimp only
  split
  · refine ((List.mergeSort_perm _ _).map _).trans ?_
    rw [hranked]
    exact inward_perm frames
  · rw [hranked]
    exact inward_perm frames

end StackLayout

/-- Placing orphans adds them and nothing else. -/
theorem foldl_place_perm (orphans : List RankedFrame) :
    ∀ merged, (orphans.foldl place merged).Perm (orphans ++ merged) := by
  induction orphans with
  | nil => exact fun merged => List.Perm.refl _
  | cons orphan rest ih =>
    intro merged
    rw [List.foldl_cons]
    refine (ih (place merged orphan)).trans ?_
    exact ((place_perm merged orphan).append_left rest).trans List.perm_middle

/-- The members of a list at positions that are in use. -/
theorem zipIdx_filter_perm {α : Type} (l : List α) {positions : List ℕ} (hn : positions.Nodup)
    (hin : ∀ i ∈ positions, i < l.length) :
    ((l.zipIdx.filter fun p => positions.contains p.2).map Prod.fst).Perm
      (positions.filterMap (l[·]?)) := by
  have hfst : (l.zipIdx.filter fun p => positions.contains p.2).map Prod.fst =
      ((l.zipIdx.filter fun p => positions.contains p.2).map Prod.snd).filterMap (l[·]?) := by
    rw [List.filterMap_map, ← List.filterMap_eq_map]
    refine List.filterMap_congr fun p hp => ?_
    exact (List.mem_zipIdx_iff_getElem?.1 (List.mem_of_mem_filter hp)).symm
  rw [hfst]
  refine List.Perm.filterMap _ ?_
  have hnodup : ((l.zipIdx.filter fun p => positions.contains p.2).map Prod.snd).Nodup := by
    have hall : (l.zipIdx.map Prod.snd).Nodup := by
      rw [List.zipIdx_map_snd, ← List.range_eq_range']
      exact List.nodup_range
    exact hall.sublist (List.filter_sublist.map _)
  refine (List.perm_ext_iff_of_nodup hnodup hn).2 fun i => ?_
  simp only [List.mem_map, List.mem_filter, List.contains_iff_mem, Prod.exists, exists_eq_right]
  constructor
  · rintro ⟨a, -, hi⟩
    exact hi
  · intro hi
    have hlt := hin i hi
    exact ⟨l[i], List.mem_zipIdx_iff_getElem?.2 (List.getElem?_eq_getElem hlt), hi⟩

/-! ## The account of a merged stack -/

/-- The stack pointers of frames. -/
def stackPointers (frames : List Frame) : Finset Address :=
  (frames.filterMap Frame.stackPointer).toFinset

/-- How many frames have a stack pointer. -/
def knownCount (frames : List Frame) : ℕ := (frames.filter (·.stackPointer.isSome)).length

/-- The frames of the runtime at positions that are not in use. -/
def orphansOf (runtime : List RankedFrame) (used : List ℕ) : List RankedFrame :=
  (runtime.zipIdx.filter fun p => !used.contains p.2).map Prod.fst

theorem StackLayout.merge_of_few (layout : StackLayout) {native runtime : List Frame}
    (h : knownCount (native ++ runtime) < 2) :
    layout.merge native runtime =
      { frames := renumber (native ++ runtime)
        strategy := .concatenated
        matched := 0
        inserted := runtime.length } :=
  if_pos h

theorem StackLayout.merge_of_known (layout : StackLayout) {native runtime : List Frame}
    (h : 2 ≤ knownCount (native ++ runtime)) :
    layout.merge native runtime =
      let joined := join (layout.normalize runtime) [] (layout.normalize native)
      let orphans := orphansOf (layout.normalize runtime) joined.2
      { frames := renumber ((orphans.foldl place joined.1).map RankedFrame.frame)
        strategy := .correlated
        matched := joined.2.length
        inserted := orphans.length } :=
  if_neg (not_lt.2 h)

/-- **The account of a merged stack**: the native frames and the frames of the runtime that
were joined, and those of either list that were not. -/
structure MergedStack.Accounts (merged : MergedStack) (native runtime : List Frame)
    (joins : List Join) (nativeOnly runtimeOnly : List Frame) : Prop where
  native_perm : native.Perm (joins.map Join.native ++ nativeOnly)
  runtime_perm : runtime.Perm (joins.map Join.runtime ++ runtimeOnly)
  /-- Up to order and numbers, the frames are the results of the joins and the other frames,
  which are unchanged. -/
  frames_perm : (merged.frames.map Frame.unnumbered).Perm
    ((joins.map Join.result ++ nativeOnly ++ runtimeOnly).map Frame.unnumbered)
  /-- No stack pointer is joined twice. -/
  nodup : (joins.map Join.stackPointer).Nodup
  /-- The stack pointers that are joined are those that both lists have. -/
  shared : (joins.map Join.stackPointer).toFinset = stackPointers native ∩ stackPointers runtime
  matched : merged.matched = (stackPointers native ∩ stackPointers runtime).card
  inserted : merged.inserted = runtime.length - merged.matched
  length : merged.frames.length = native.length + merged.inserted
  /-- Frames without a stack pointer stay without one: they are unchanged. -/
  unknown : ((merged.frames.map Frame.unnumbered).filter (·.stackPointer.isNone)).Perm
    (((native ++ runtime).map Frame.unnumbered).filter (·.stackPointer.isNone))

theorem mem_stackPointers {frames : List Frame} {sp : Address} :
    sp ∈ stackPointers frames ↔ ∃ f ∈ frames, f.stackPointer = some sp := by
  unfold stackPointers
  rw [List.mem_toFinset, List.mem_filterMap]

theorem stackPointers_perm {frames others : List Frame} (h : frames.Perm others) :
    stackPointers frames = stackPointers others := by
  ext sp
  simp only [mem_stackPointers, h.mem_iff]

namespace JoinedUp

variable {hits : List (ℕ × Join)} {rest : List Frame}

/-- A position belongs to one stack pointer, so no stack pointer is joined twice. -/
theorem nodup_stackPointer (h : JoinedUp runtime native [] hits rest) :
    (hits.map (·.2.stackPointer)).Nodup := by
  have hpos : (hits.map (·.2.stackPointer)).map (firstAt? runtime) =
      (hits.map Prod.fst).map some := by
    rw [List.map_map, List.map_map]
    exact List.map_congr_left h.position
  have hnodup := h.nodup
  rw [List.append_nil] at hnodup
  refine List.Nodup.of_map (firstAt? runtime) ?_
  rw [hpos]
  exact hnodup.map (Option.some_injective ℕ)

/-- **The stack pointers that are joined are those of both lists.** -/
theorem shared (h : JoinedUp runtime native [] hits rest) :
    (hits.map (·.2.stackPointer)).toFinset =
      stackPointers (native.map RankedFrame.frame) ∩
        stackPointers (runtime.map RankedFrame.frame) := by
  ext sp
  rw [List.mem_toFinset, Finset.mem_inter, mem_stackPointers, mem_stackPointers]
  constructor
  · intro hsp
    obtain ⟨p, hp, rfl⟩ := List.mem_map.1 hsp
    refine ⟨⟨p.2.native, ?_, p.2.native_stackPointer⟩, p.2.runtime, ?_, p.2.runtime_stackPointer⟩
    · exact h.native_perm.mem_iff.2 (List.mem_append_left _ (List.mem_map.2 ⟨p, hp, rfl⟩))
    · obtain ⟨r, hr, hrf⟩ := Option.map_eq_some_iff.1 (h.runtime_frame p hp)
      exact List.mem_map.2 ⟨r, List.mem_of_getElem? hr, hrf⟩
  · rintro ⟨⟨f, hf, hfsp⟩, g, hg, hgsp⟩
    obtain ⟨r, hr, rfl⟩ := List.mem_map.1 hg
    obtain ⟨i, hi⟩ := firstAt?_isSome hr hgsp
    rcases List.mem_append.1 (h.native_perm.mem_iff.1 hf) with hf | hf
    · obtain ⟨p, hp, rfl⟩ := List.mem_map.1 hf
      have := p.2.native_stackPointer.symm.trans hfsp
      exact List.mem_map.2 ⟨p, hp, Option.some.inj this⟩
    · -- the frame was left over, so its position had been used for its stack pointer
      have hused := h.left_over f hf i (by rw [counterpart?_eq, hfsp]; exact hi)
      rw [List.append_nil] at hused
      obtain ⟨p, hp, rfl⟩ := List.mem_map.1 hused
      obtain ⟨s, hs, hssp⟩ := exists_of_firstAt? hi
      obtain ⟨s', hs', hssp'⟩ := exists_of_firstAt? (h.position p hp)
      rw [hs] at hs'
      obtain rfl := Option.some.inj hs'
      exact List.mem_map.2 ⟨p, hp, Option.some.inj (hssp'.symm.trans hssp)⟩

/-- The frames of the runtime that are joined and those that are not are all of them. -/
theorem runtime_perm (h : JoinedUp runtime native [] hits rest) :
    (runtime.map RankedFrame.frame).Perm (hits.map (·.2.runtime) ++
      (orphansOf runtime (join runtime [] native).2).map RankedFrame.frame) := by
  set used := (join runtime [] native).2 with hused
  have hperm : used.Perm (hits.map Prod.fst) := by simpa using h.used_perm
  have hnodup : (hits.map Prod.fst).Nodup := by simpa using h.nodup
  have hin : ∀ i ∈ used, i < runtime.length := by
    intro i hi
    obtain ⟨p, hp, rfl⟩ := List.mem_map.1 (hperm.mem_iff.1 hi)
    obtain ⟨r, hr, -⟩ := exists_of_firstAt? (h.position p hp)
    exact (List.getElem?_eq_some_iff.1 hr).1
  have hjoined : (((runtime.zipIdx.filter fun p => used.contains p.2).map Prod.fst).map
      RankedFrame.frame).Perm (hits.map (·.2.runtime)) := by
    refine ((zipIdx_filter_perm runtime (hperm.nodup_iff.2 hnodup) hin).map _).trans ?_
    refine ((hperm.filterMap _).map _).trans (List.Perm.of_eq ?_)
    rw [List.map_filterMap, List.filterMap_map, ← List.filterMap_eq_map]
    exact List.filterMap_congr h.runtime_frame
  have hsplit := (List.filter_append_perm (fun p => used.contains p.2) runtime.zipIdx).map Prod.fst
  rw [List.zipIdx_map_fst, List.map_append] at hsplit
  refine (hsplit.symm.map RankedFrame.frame).trans ?_
  rw [List.map_append]
  exact hjoined.append_right _

end JoinedUp

/-- Joined frames have stack pointers. -/
theorem filter_isNone_map_join {part : Join → Frame}
    (hpart : ∀ j, (part j).stackPointer = some j.stackPointer) (joins : List Join) :
    ((joins.map part).map Frame.unnumbered).filter (·.stackPointer.isNone) = [] := by
  rw [List.filter_eq_nil_iff]
  intro f hf
  rw [List.map_map] at hf
  obtain ⟨j, -, rfl⟩ := List.mem_map.1 hf
  show ¬ (part j).stackPointer.isNone = true
  rw [hpart j]
  simp

theorem Join.result_stackPointer (j : Join) : j.result.stackPointer = some j.stackPointer :=
  j.overlays.stackPointer.trans j.native_stackPointer

/-- The frames without a stack pointer are those that no join has. -/
theorem filter_isNone_perm {frames native runtime nativeOnly runtimeOnly : List Frame}
    {joins : List Join} (hn : native.Perm (joins.map Join.native ++ nativeOnly))
    (hr : runtime.Perm (joins.map Join.runtime ++ runtimeOnly))
    (hf : (frames.map Frame.unnumbered).Perm
      ((joins.map Join.result ++ nativeOnly ++ runtimeOnly).map Frame.unnumbered)) :
    ((frames.map Frame.unnumbered).filter (·.stackPointer.isNone)).Perm
      (((native ++ runtime).map Frame.unnumbered).filter (·.stackPointer.isNone)) := by
  have hboth := ((hn.append hr).map Frame.unnumbered).filter (·.stackPointer.isNone)
  refine (hf.filter _).trans (List.Perm.trans ?_ hboth.symm)
  simp only [List.map_append, List.filter_append,
    filter_isNone_map_join Join.result_stackPointer,
    filter_isNone_map_join Join.native_stackPointer,
    filter_isNone_map_join Join.runtime_stackPointer, List.nil_append]
  exact List.Perm.refl _

/-- **The frames of a stack that was correlated.** -/
theorem JoinedUp.accounts {layout : StackLayout} {nativeFrames runtimeFrames : List Frame}
    {hits : List (ℕ × Join)} {rest : List Frame}
    (hknown : 2 ≤ knownCount (nativeFrames ++ runtimeFrames))
    (h : JoinedUp (layout.normalize runtimeFrames) (layout.normalize nativeFrames) [] hits rest) :
    ∃ runtimeOnly, (layout.merge nativeFrames runtimeFrames).Accounts nativeFrames runtimeFrames
      (hits.map Prod.snd) rest runtimeOnly := by
  set runtime := layout.normalize runtimeFrames with hruntime
  set native := layout.normalize nativeFrames with hnative
  set joined := (join runtime [] native).1 with hjoined
  set used := (join runtime [] native).2 with hused
  set orphans := orphansOf runtime used with horphans
  have hmerge := layout.merge_of_known hknown
  have hn : nativeFrames.Perm ((hits.map Prod.snd).map Join.native ++ rest) := by
    rw [List.map_map]
    exact (StackLayout.normalize_perm nativeFrames).symm.trans h.native_perm
  have hr : runtimeFrames.Perm ((hits.map Prod.snd).map Join.runtime ++
      orphans.map RankedFrame.frame) := by
    rw [List.map_map]
    exact (StackLayout.normalize_perm runtimeFrames).symm.trans h.runtime_perm
  have hplaced : ((orphans.foldl place joined).map RankedFrame.frame).Perm
      ((hits.map Prod.snd).map Join.result ++ rest ++ orphans.map RankedFrame.frame) := by
    refine ((foldl_place_perm orphans joined).map RankedFrame.frame).trans ?_
    rw [List.map_append, List.map_map]
    exact List.perm_append_comm.trans (h.result_perm.append_right _)
  have hf : ((layout.merge nativeFrames runtimeFrames).frames.map Frame.unnumbered).Perm
      (((hits.map Prod.snd).map Join.result ++ rest ++ orphans.map RankedFrame.frame).map
        Frame.unnumbered) := by
    rw [hmerge, map_unnumbered_renumber]
    exact hplaced.map _
  have hnodup : ((hits.map Prod.snd).map Join.stackPointer).Nodup := by
    rw [List.map_map]
    exact h.nodup_stackPointer
  have hshared : ((hits.map Prod.snd).map Join.stackPointer).toFinset =
      stackPointers nativeFrames ∩ stackPointers runtimeFrames := by
    rw [List.map_map, ← stackPointers_perm (StackLayout.normalize_perm nativeFrames),
      ← stackPointers_perm (StackLayout.normalize_perm runtimeFrames)]
    exact h.shared
  have hmatched : used.length = hits.length := by simpa using h.used_perm.length_eq
  have hlengths := hr.length_eq
  have hlengthn := hn.length_eq
  simp only [List.length_append, List.length_map] at hlengths hlengthn
  refine ⟨orphans.map RankedFrame.frame, hn, hr, hf, hnodup, hshared, ?_, ?_, ?_,
    filter_isNone_perm hn hr hf⟩
  · rw [← hshared, List.toFinset_card_of_nodup hnodup, hmerge]
    simpa using hmatched
  · rw [hmerge]
    show orphans.length = runtimeFrames.length - used.length
    omega
  · have hlength := hplaced.length_eq
    simp only [List.length_append, List.length_map] at hlength
    rw [hmerge]
    show (renumber ((orphans.foldl place joined).map RankedFrame.frame)).length =
      nativeFrames.length + orphans.length
    rw [length_renumber, List.length_map, hlength]
    omega

/-- **A merged stack consists of the frames that went in.** With two stack pointers or more
the shared ones are joined, each on one native frame; with fewer the native frames are
followed by the runtime's. -/
theorem merge_accounts (layout : StackLayout) (native runtime : List Frame) :
    (2 ≤ knownCount (native ++ runtime) → ∃ joins nativeOnly runtimeOnly,
      (layout.merge native runtime).Accounts native runtime joins nativeOnly runtimeOnly) ∧
    (knownCount (native ++ runtime) < 2 →
      (layout.merge native runtime).frames.map Frame.unnumbered =
        (native ++ runtime).map Frame.unnumbered) := by
  refine ⟨fun hknown => ?_, fun hfew => ?_⟩
  · obtain ⟨hits, rest, h⟩ := joinedUp_join (layout.normalize runtime) (layout.normalize native)
      [] List.nodup_nil
    exact ⟨hits.map Prod.snd, rest, h.accounts hknown⟩
  · rw [layout.merge_of_few hfew]
    exact map_unnumbered_renumber _

/-- A frame of the runtime at each of some stack pointers. -/
def runtimeFrames (pointers : List (Option UInt64)) : List Frame :=
  pointers.map fun sp => { stackPointer := sp.map Address.mk, isRuntimeTracked := true }

/-- Two native frames share their stack pointer with two of the runtime: one of each is
joined, and the others are kept. A single stack pointer joins nothing. -/
theorem merge_accounts_repeated :
    let native : List Frame :=
      [{ stackPointer := some ⟨0x100⟩, function := some "main" }, { function := some "stub" },
        { stackPointer := some ⟨0x80⟩, instructionPointer := some ⟨0x7f80⟩ },
        { stackPointer := some ⟨0x80⟩ }]
    let runtime := runtimeFrames [some 0x80, none, some 0x80, some 0x90]
    let single := runtimeFrames [some 0x80]
    (2 ≤ knownCount (native ++ runtime) ∧
      (({} : StackLayout).merge native runtime).matched = 1 ∧
      ∃ joins nativeOnly runtimeOnly, (({} : StackLayout).merge native runtime).Accounts
        native runtime joins nativeOnly runtimeOnly) ∧
      knownCount ([({} : Frame)] ++ single) < 2 ∧
        (({} : StackLayout).merge [({} : Frame)] single).frames.map Frame.unnumbered =
          ([({} : Frame)] ++ single).map Frame.unnumbered := by
  intro native runtime single
  have hknown : 2 ≤ knownCount (native ++ runtime) := by decide +kernel
  have hfew : knownCount ([({} : Frame)] ++ single) < 2 := by decide +kernel
  obtain ⟨joins, nativeOnly, runtimeOnly, h⟩ := (merge_accounts {} native runtime).1 hknown
  exact ⟨⟨hknown, h.matched.trans (by decide +kernel), joins, nativeOnly, runtimeOnly, h⟩,
    hfew, (merge_accounts {} _ single).2 hfew⟩

end Postmortem
