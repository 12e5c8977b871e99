import Mathlib.Tactic
import Postmortem.Proofs.Order.StableSort
import Postmortem.Proofs.Stack.EmissionOrder

/-!
# Where orphans are placed

An orphan goes behind all frames whose rank is at most its own. As long as every frame has a
rank, placing one orphan after the other is sorting them all at once, stably and with the native
frames in front (`InOrder.foldl_place_eq`). Where only one list has known stack pointers, the
frames of the other one have no rank, and nothing is placed in front of them.

* `getElem?_join`, `contains_join`: joining, frame by frame. A native frame is joined with its
  counterpart unless a frame in front of it has the same one.
* `merge_places`: **a merged stack is the stable sort by rank of the native frames followed by the
  frames of the runtime that were not joined, or one normal form behind the other.**
-/

namespace Postmortem

/-! ## Joining, frame by frame -/

/-- Whether a frame of some native frames has its counterpart at a position. -/
def hasCounterpart (tracked : List RankedFrame) (native : List RankedFrame) (i : ℕ) : Bool :=
  native.any fun f => counterpart? tracked f.frame == some i

/-- A native frame with what the runtime knows about it: it is joined with its counterpart unless
an earlier frame has the same one. -/
def joinedAt (tracked earlier : List RankedFrame) (f : RankedFrame) : RankedFrame :=
  let hit := (counterpart? tracked f.frame).filter fun i => !hasCounterpart tracked earlier i
  ⟨((hit.bind (tracked[·]?)).map fun r => f.frame.overlay r.frame).getD f.frame, f.rank⟩

/-- The frames of the runtime that are no native frame's counterpart. -/
def unmatched (native tracked : List RankedFrame) : List RankedFrame :=
  (tracked.zipIdx.filter fun p => !hasCounterpart tracked native p.2).map Prod.fst

section Joining

variable {tracked : List RankedFrame}

theorem hasCounterpart_append (a b : List RankedFrame) (i : ℕ) :
    hasCounterpart tracked (a ++ b) i = (hasCounterpart tracked a i || hasCounterpart tracked b i) :=
  List.any_append

theorem hasCounterpart_singleton (f : RankedFrame) (i : ℕ) :
    hasCounterpart tracked [f] i = (counterpart? tracked f.frame == some i) :=
  Bool.or_false _

/-- **One step of joining**: the first native frame is joined as the earlier ones permit, and the
position of its counterpart is in use from then on. -/
theorem join_cons {used : List ℕ} {earlier : List RankedFrame}
    (hused : ∀ i, used.contains i = hasCounterpart tracked earlier i) (f : RankedFrame)
    (native : List RankedFrame) : ∃ used' : List ℕ,
      join tracked used (f :: native) = (joinedAt tracked earlier f ::
        (join tracked used' native).1, (join tracked used' native).2) ∧
      ∀ i, used'.contains i = hasCounterpart tracked (earlier ++ [f]) i := by
  have hsame : ((counterpart? tracked f.frame).filter fun i => !hasCounterpart tracked earlier i) =
      (counterpart? tracked f.frame).filter fun i => !used.contains i := by simp only [hused]
  unfold joinedAt
  rw [hsame]
  cases hhit : (counterpart? tracked f.frame).filter fun i => !used.contains i with
  | some i =>
    obtain ⟨hcounter, -⟩ := Option.filter_eq_some_iff.1 hhit
    refine ⟨i :: used, ?_, fun j => ?_⟩
    · conv_lhs => unfold join
      rw [hhit]
      rfl
    · rw [hasCounterpart_append, hasCounterpart_singleton, hcounter, ← hused, List.contains_cons,
        Bool.or_comm, BEq.comm]
      rfl
  | none =>
    refine ⟨used, ?_, fun j => ?_⟩
    · conv_lhs => unfold join
      rw [hhit]
      rfl
    · rw [hasCounterpart_append, hasCounterpart_singleton, ← hused]
      cases hcounter : counterpart? tracked f.frame with
      | none => simp
      | some k =>
        -- the counterpart was in use before
        have hk := Option.filter_eq_none_iff.1 hhit k hcounter
        by_cases hkj : k = j
        · subst hkj
          simpa using hk
        · simp [hkj]

/-- **Joining, frame by frame.** -/
theorem getElem?_join (own : List RankedFrame) : ∀ {used : List ℕ} {earlier : List RankedFrame},
    (∀ i, used.contains i = hasCounterpart tracked earlier i) → ∀ k : ℕ,
      (join tracked used own).1[k]? =
        own[k]?.map (joinedAt tracked (earlier ++ own.take k)) := by
  induction own with
  | nil => intro used earlier _ k; rfl
  | cons f own ih =>
    intro used earlier hused k
    obtain ⟨used', hjoin, hused'⟩ := join_cons hused f own
    rw [hjoin]
    cases k with
    | zero => rw [List.take_zero, List.append_nil]; rfl
    | succ k =>
      rw [List.take_succ_cons, List.append_cons, List.getElem?_cons_succ, List.getElem?_cons_succ]
      exact ih hused' k

/-- **The positions that are used by joining** are the counterparts of native frames. -/
theorem contains_join (own : List RankedFrame) : ∀ {used : List ℕ} {earlier : List RankedFrame},
    (∀ i, used.contains i = hasCounterpart tracked earlier i) → ∀ i : ℕ,
      (join tracked used own).2.contains i = hasCounterpart tracked (earlier ++ own) i := by
  induction own with
  | nil => intro used earlier hused i; rw [List.append_nil]; exact hused i
  | cons f own ih =>
    intro used earlier hused i
    obtain ⟨used', hjoin, hused'⟩ := join_cons hused f own
    rw [hjoin, List.append_cons]
    exact ih hused' i

theorem orphansOf_join (native : List RankedFrame) :
    orphansOf tracked (join tracked [] native).2 = unmatched native tracked := by
  have hused : ∀ i, (join tracked [] native).2.contains i = hasCounterpart tracked native i :=
    @contains_join tracked native [] [] fun _ => rfl
  unfold orphansOf unmatched
  simp only [hused]

end Joining

/-! ## Placing -/

/-- The frames in the order of their ranks; frames of one rank stay in their order. -/
def byRank (frames : List RankedFrame) : List RankedFrame := byKey (fun f => f.rank.getD 0) frames

/-- Nothing is placed in front of frames whose ranks are no greater. -/
theorem foldl_place_of_pairwise (orphans : List RankedFrame) : ∀ {merged : List RankedFrame},
    ((merged ++ orphans).filterMap RankedFrame.rank).Pairwise (· ≤ ·) →
      orphans.foldl place merged = merged ++ orphans := by
  induction orphans with
  | nil => intro merged _; exact (List.append_nil merged).symm
  | cons orphan orphans ih =>
    intro merged h
    have hplace : place merged orphan = merged ++ [orphan] := by
      cases hr : orphan.rank with
      | none =>
        unfold place
        rw [hr]
      | some r =>
        have hinside : ∀ f ∈ merged, RankedFrame.staysInside r f = true := by
          intro f hf
          rw [List.filterMap_append, List.filterMap_cons_some hr, List.pairwise_append] at h
          cases hs : f.rank with
          | none => simp [RankedFrame.staysInside, hs]
          | some s =>
            have hle := h.2.2 s (List.mem_filterMap.2 ⟨f, hf, hs⟩) r List.mem_cons_self
            simpa [RankedFrame.staysInside, hs] using hle
        rw [place_of_rank hr, List.takeWhile_eq_self_iff.2 hinside,
          List.dropWhile_eq_nil_iff.2 hinside]
    rw [List.foldl_cons, hplace, ih (by rwa [List.append_assoc]), List.append_assoc]
    rfl

namespace StackLayout

variable {layout : StackLayout} {frames : List Frame} {merged orphans : List RankedFrame}

/-- Ranked frames in order are sorted by rank. -/
theorem InOrder.pairwise (h : layout.InOrder merged) (hranked : ∀ f ∈ merged, f.rank.isSome = true) :
    merged.Pairwise fun a b => a.rank.getD 0 ≤ b.rank.getD 0 := by
  refine (List.pairwise_filterMap.1 h.sorted).imp_of_mem fun {a b} ha hb hab => ?_
  obtain ⟨r, hr⟩ := Option.isSome_iff_exists.1 (hranked a ha)
  obtain ⟨s, hs⟩ := Option.isSome_iff_exists.1 (hranked b hb)
  rw [hr, hs]
  exact hab r hr s hs

/-- An orphan goes behind the frames of its own rank. -/
theorem InOrder.filter_place (h : layout.InOrder merged)
    (hranked : ∀ f ∈ merged, f.rank.isSome = true) {orphan : RankedFrame}
    (horphan : orphan.rank.isSome = true) (k : ℕ) :
    ((Postmortem.place merged orphan).filter fun f => f.rank.getD 0 = k) =
      (merged ++ [orphan]).filter fun f => f.rank.getD 0 = k := by
  obtain ⟨r, hr⟩ := Option.isSome_iff_exists.1 horphan
  rw [place_of_rank hr]
  by_cases hk : r = k
  · have hbehind : ((merged.dropWhile (RankedFrame.staysInside r)).filter
        fun f => f.rank.getD 0 = k) = [] := by
      rw [List.filter_eq_nil_iff]
      intro f hf
      obtain ⟨s, hs⟩ :=
        Option.isSome_iff_exists.1 (hranked f ((List.dropWhile_sublist _).subset hf))
      have hlt := lt_rank_of_mem_dropWhile h.sorted (List.mem_filterMap.2 ⟨f, hf, hs⟩)
      simp only [hs, Option.getD_some, decide_eq_true_eq]
      omega
    conv_rhs => rw [← List.takeWhile_append_dropWhile (p := RankedFrame.staysInside r) (l := merged)]
    simp only [List.filter_append, List.filter_cons, hbehind, List.append_nil, List.filter_nil]
  · -- an orphan of another rank is filtered out
    have hout : ∀ l : List RankedFrame, ((orphan :: l).filter fun f => f.rank.getD 0 = k) =
        l.filter fun f => f.rank.getD 0 = k :=
      fun l => List.filter_cons_of_neg (by simpa [hr] using hk)
    rw [List.filter_append, List.filter_append, hout, hout, List.filter_nil, List.append_nil,
      ← List.filter_append, List.takeWhile_append_dropWhile]

/-- **Placing orphans one after the other is sorting by rank**, if every frame has one. -/
theorem InOrder.foldl_place_eq (h : layout.InOrder merged)
    (hranked : ∀ f ∈ merged ++ orphans, f.rank.isSome = true)
    (ho : ∀ f ∈ orphans, ∀ r, layout.rankOf f.frame = some r → f.rank = some r) :
    orphans.foldl Postmortem.place merged = byRank (merged ++ orphans) := by
  have hkept : ∀ k, ((orphans.foldl Postmortem.place merged).filter fun f => f.rank.getD 0 = k) =
      (merged ++ orphans).filter fun f => f.rank.getD 0 = k := by
    intro k
    induction orphans generalizing merged with
    | nil => rw [List.append_nil, List.foldl_nil]
    | cons orphan orphans ih =>
      have hplaced := place_perm merged orphan
      have hmerged : ∀ f ∈ merged, f.rank.isSome = true :=
        fun f hf => hranked f (List.mem_append_left _ hf)
      have horphan := hranked orphan (List.mem_append_right _ List.mem_cons_self)
      have hrest : ∀ f ∈ Postmortem.place merged orphan ++ orphans, f.rank.isSome = true := by
        intro f hf
        refine hranked f ?_
        rw [List.mem_append, hplaced.mem_iff, List.mem_cons] at hf
        rw [List.mem_append, List.mem_cons]
        tauto
      rw [List.foldl_cons, ih (h.place (ho orphan List.mem_cons_self)) hrest
        fun f hf => ho f (List.mem_cons_of_mem _ hf), List.filter_append,
        h.filter_place hmerged horphan, ← List.filter_append, List.append_assoc,
        List.singleton_append]
  have hin := InOrder.foldl_place ho h
  refine eq_byKey (hin.pairwise fun f hf => hranked f ?_) hkept
  exact (List.perm_append_comm.mem_iff.1 ((foldl_place_perm orphans merged).mem_iff.1 hf))

/-! ## Ranks of normal forms -/

theorem mem_normalize {f : RankedFrame} :
    f ∈ layout.normalize frames ↔ f ∈ layout.withRanks (layout.inward frames) := by
  unfold normalize
  dsimp only
  split
  · exact (List.mergeSort_perm _ _).mem_iff
  · exact Iff.rfl

theorem knownCount_pos_iff : 0 < knownCount frames ↔ ∃ f ∈ frames, f.stackPointer.isSome = true := by
  unfold knownCount
  rw [List.length_pos_iff_exists_mem]
  simp only [List.mem_filter]

/-- The frames of a list have ranks iff one of them has a stack pointer. -/
theorem isSome_rank_of_mem_normalize {f : RankedFrame} (hf : f ∈ layout.normalize frames) :
    f.rank.isSome = true ↔ 0 < knownCount frames := by
  obtain ⟨i, -, hrank⟩ := mem_withRanks.1 (mem_normalize.1 hf)
  rw [Option.isSome_iff_ne_none, hrank, Ne, estimate_eq_none_iff, knownCount_pos_iff]
  constructor
  · intro hknown
    obtain ⟨⟨j, r⟩, hp⟩ := List.exists_mem_of_ne_nil _ hknown
    obtain ⟨g, hg, hr⟩ := mem_knownRanks.1 hp
    obtain ⟨sp, hsp, -⟩ := Option.map_eq_some_iff.1 hr
    exact ⟨g, (inward_perm frames).mem_iff.1 (List.mem_of_getElem? hg), by rw [hsp]; rfl⟩
  · rintro ⟨g, hg, hsome⟩ hnil
    obtain ⟨sp, hsp⟩ := Option.isSome_iff_exists.1 hsome
    obtain ⟨j, hj⟩ := List.mem_iff_getElem?.1 ((inward_perm frames).mem_iff.2 hg)
    have hmem : (j, layout.rank sp) ∈ layout.knownRanks (layout.inward frames) :=
      mem_knownRanks.2 ⟨g, hj, by unfold rankOf; rw [hsp]; rfl⟩
    rw [hnil] at hmem
    cases hmem

/-- **A normal form with a known stack pointer is sorted by rank**, stably. -/
theorem normalize_eq_byRank (h : 0 < knownCount frames) :
    layout.normalize frames = byRank (layout.withRanks (layout.inward frames)) := by
  have hall : (layout.withRanks (layout.inward frames)).all (·.rank.isSome) = true := by
    rw [List.all_eq_true]
    exact fun f hf => (isSome_rank_of_mem_normalize (mem_normalize.2 hf)).2 h
  unfold normalize
  exact if_pos hall

/-- Without a known stack pointer there are no ranks. -/
theorem filterMap_rank_normalize (h : knownCount frames = 0) :
    (layout.normalize frames).filterMap RankedFrame.rank = [] := by
  rw [List.filterMap_eq_nil_iff]
  intro f hf
  have hnot : ¬ f.rank.isSome = true := fun hsome =>
    (isSome_rank_of_mem_normalize hf).1 hsome |>.ne' h
  simpa using hnot

theorem stackPointer_eq_none (h : knownCount frames = 0) {f : RankedFrame}
    (hf : f ∈ layout.normalize frames) : f.frame.stackPointer = none := by
  have hmem : f.frame ∈ frames := (normalize_perm frames).mem_iff.1 (List.mem_map_of_mem hf)
  by_contra hsome
  exact (knownCount_pos_iff.2 ⟨f.frame, hmem, Option.isSome_iff_ne_none.2 hsome⟩).ne' h

/-- Fewer than two known stack pointers leave a list as it was printed. -/
theorem map_frame_normalize_of_few (h : knownCount frames < 2) :
    (layout.normalize frames).map RankedFrame.frame = frames := by
  rw [normalize_of_fromInside (pairwise_of_few h _), map_frame_withRanks]

/-! ## Merged stacks -/

/-- **A stack that is put together by ranks**: `joined` are the native frames and `orphans` are
the frames of the runtime that were not joined. -/
structure PlacedByRank (layout : StackLayout) (native runtime : List Frame)
    (joined orphans : List RankedFrame) : Prop where
  /-- Both normal forms are sorted by rank. -/
  normal : layout.normalize native = byRank (layout.withRanks (layout.inward native)) ∧
    layout.normalize runtime = byRank (layout.withRanks (layout.inward runtime))
  /-- The native frames keep their places, and each is joined as its predecessors permit. -/
  native_joined : ∀ i : ℕ, joined[i]? = (layout.normalize native)[i]?.map
    (joinedAt (layout.normalize runtime) ((layout.normalize native).take i))
  runtime_unmatched : orphans = unmatched (layout.normalize native) (layout.normalize runtime)
  /-- Every frame has a rank, which is that of its stack pointer if it has one. -/
  ranked : ∀ f ∈ joined ++ orphans, ∃ r, f.rank = some r ∧
    ∀ sp, f.frame.stackPointer = some sp → r = layout.rank sp
  frames : (layout.merge native runtime).frames =
    renumber ((byRank (joined ++ orphans)).map RankedFrame.frame)
  /-- Native frames come before orphans of the same rank. -/
  ties : ∀ r, ((byRank (joined ++ orphans)).filter fun f => f.rank.getD 0 = r) =
    (joined.filter fun f => f.rank.getD 0 = r) ++ orphans.filter fun f => f.rank.getD 0 = r

theorem knownCount_append (a b : List Frame) :
    knownCount (a ++ b) = knownCount a + knownCount b := by
  unfold knownCount
  rw [List.filter_append, List.length_append]

variable {native runtime : List Frame}

/-- The native frames stay in order when they are joined. -/
theorem inOrder_join (layout : StackLayout) (native : List Frame) (tracked : List RankedFrame) :
    layout.InOrder (join tracked [] (layout.normalize native)).1 :=
  (normalize_inOrder native).congr (map_join tracked (layout.normalize native) [])

/-- Joining gives no frame a rank and takes none away. -/
theorem isSome_rank_of_mem_join {tracked : List RankedFrame} {f : RankedFrame}
    (hf : f ∈ (join tracked [] (layout.normalize native)).1) :
    f.rank.isSome = true ↔ 0 < knownCount native := by
  have hmem := List.mem_map_of_mem (f := fun f => (f.frame.stackPointer, f.rank)) hf
  rw [map_join] at hmem
  obtain ⟨g, hg, heq⟩ := List.mem_map.1 hmem
  rw [← (Prod.mk.inj heq).2]
  exact isSome_rank_of_mem_normalize hg

theorem mem_of_mem_unmatched {native tracked : List RankedFrame} {f : RankedFrame}
    (hf : f ∈ unmatched native tracked) : f ∈ tracked := by
  obtain ⟨p, hp, rfl⟩ := List.mem_map.1 hf
  exact List.fst_mem_of_mem_zipIdx (List.mem_of_mem_filter hp)

/-- **With stack pointers on both sides, a merged stack is sorted by rank.** -/
theorem placedByRank_merge (hn : 0 < knownCount native) (hr : 0 < knownCount runtime) :
    layout.PlacedByRank native runtime
      (join (layout.normalize runtime) [] (layout.normalize native)).1
      (unmatched (layout.normalize native) (layout.normalize runtime)) := by
  set tracked := layout.normalize runtime
  set joined := (join tracked [] (layout.normalize native)).1 with hjoined
  set orphans := unmatched (layout.normalize native) tracked with horphans
  have hin : layout.InOrder joined := inOrder_join layout native tracked
  have hknown : ∀ f ∈ orphans, ∀ r, layout.rankOf f.frame = some r → f.rank = some r :=
    fun f hf => (normalize_inOrder runtime).known f (mem_of_mem_unmatched hf)
  have hranked : ∀ f ∈ joined ++ orphans, f.rank.isSome = true := by
    intro f hf
    rcases List.mem_append.1 hf with hf | hf
    · exact (isSome_rank_of_mem_join hf).2 hn
    · exact (isSome_rank_of_mem_normalize (mem_of_mem_unmatched hf)).2 hr
  refine ⟨⟨normalize_eq_byRank hn, normalize_eq_byRank hr⟩, ?_, rfl, fun f hf => ?_, ?_, fun r => ?_⟩
  · exact @getElem?_join tracked (layout.normalize native) [] [] fun _ => rfl
  · obtain ⟨r, hrank⟩ := Option.isSome_iff_exists.1 (hranked f hf)
    refine ⟨r, hrank, fun sp hsp => ?_⟩
    have hrankOf : layout.rankOf f.frame = some (layout.rank sp) := by
      unfold rankOf
      rw [hsp]
      rfl
    have hreal : f.rank = some (layout.rank sp) := by
      rcases List.mem_append.1 hf with hf | hf
      · exact hin.known f hf _ hrankOf
      · exact hknown f hf _ hrankOf
    rw [hrank] at hreal
    exact Option.some.inj hreal
  · rw [layout.merge_of_known (by rw [knownCount_append]; omega)]
    dsimp only
    rw [orphansOf_join, ← horphans, ← hjoined, hin.foldl_place_eq hranked hknown]
  · unfold byRank
    rw [filter_byKey, List.filter_append]

/-- **With stack pointers on one side only, one normal form stands behind the other.** -/
theorem frames_merge_of_oneSide (h : knownCount native = 0 ∨ knownCount runtime = 0) :
    (layout.merge native runtime).frames =
      renumber ((layout.normalize native ++ layout.normalize runtime).map RankedFrame.frame) := by
  rcases lt_or_ge (knownCount (native ++ runtime)) 2 with hfew | hknown
  · rw [knownCount_append] at hfew
    rw [layout.merge_of_few (by rw [knownCount_append]; exact hfew), List.map_append,
      map_frame_normalize_of_few (by omega), map_frame_normalize_of_few (by omega)]
  · have hcounter : ∀ f ∈ layout.normalize native,
        counterpart? (layout.normalize runtime) f.frame = none := by
      intro f hf
      rw [counterpart?_eq, Option.bind_eq_none_iff]
      intro sp hsp
      rcases h with hn | hr
      · rw [stackPointer_eq_none hn hf] at hsp
        cases hsp
      · unfold firstAt?
        rw [List.findIdx?_eq_none_iff]
        intro r hmem
        rw [stackPointer_eq_none hr hmem]
        rfl
    have horphans : orphansOf (layout.normalize runtime) [] = layout.normalize runtime := by
      unfold orphansOf
      simp
    -- the ranks of both lists together are those of one of them
    have hsorted : ((layout.normalize native ++ layout.normalize runtime).filterMap
        RankedFrame.rank).Pairwise (· ≤ ·) := by
      rw [List.filterMap_append]
      rcases h with hn | hr
      · rw [filterMap_rank_normalize hn]
        exact (normalize_inOrder runtime).sorted
      · rw [filterMap_rank_normalize hr, List.append_nil]
        exact (normalize_inOrder native).sorted
    rw [layout.merge_of_known hknown]
    dsimp only
    rw [join_eq_self hcounter, horphans, foldl_place_of_pairwise _ hsorted]

/-- **Orphans are placed by rank.** If both lists have a known stack pointer, the merged stack is
the stable sort by rank of the native frames, in normal form and joined, followed by the unmatched
frames of the runtime, in normal form; so native frames come first among equal ranks. If only one
list has known stack pointers, it is the normal form of the native frames followed by that of the
runtime's. -/
theorem merge_places (layout : StackLayout) (native runtime : List Frame) :
    (0 < knownCount native → 0 < knownCount runtime →
      ∃ joined orphans, layout.PlacedByRank native runtime joined orphans) ∧
    (knownCount native = 0 ∨ knownCount runtime = 0 →
      (layout.merge native runtime).frames =
        renumber ((layout.normalize native ++ layout.normalize runtime).map RankedFrame.frame)) :=
  ⟨fun hn hr => ⟨_, _, placedByRank_merge hn hr⟩, frames_merge_of_oneSide⟩

/-- Two orphans at the stack pointer of a native frame, and one without a stack pointer whose
rank is estimated; and a list that is turned round behind one without stack pointers. -/
theorem merge_places_ties :
    let native := runtimeFrames [some 0x200, none, some 0x100]
    let runtime := runtimeFrames [some 0x100, some 0x100, none, some 0x180]
    let unknown := runtimeFrames [none, none]
    (0 < knownCount native ∧ 0 < knownCount runtime ∧ ∃ joined orphans,
        ({} : StackLayout).PlacedByRank native runtime joined orphans) ∧
      knownCount unknown = 0 ∧ (({} : StackLayout).merge unknown native).frames =
        renumber ((({} : StackLayout).normalize unknown ++
          ({} : StackLayout).normalize native).map RankedFrame.frame) := by
  intro native runtime unknown
  have hn : 0 < knownCount native := by decide
  have hr : 0 < knownCount runtime := by decide
  have hunknown : knownCount unknown = 0 := by decide
  exact ⟨⟨hn, hr, (merge_places {} native runtime).1 hn hr⟩, hunknown,
    (merge_places {} unknown native).2 (.inl hunknown)⟩

end StackLayout

end Postmortem
