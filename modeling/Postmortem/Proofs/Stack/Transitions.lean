import Mathlib.Tactic
import Postmortem.Proofs.Stack.DetailLines
import Postmortem.Proofs.Stack.MergeAccount
import Postmortem.Proofs.Text.Columns
import Postmortem.Proofs.Text.Cuts
import Postmortem.Stack.Listing

/-!
# Transitions in walks of managed frames

The row of a transition between managed and native code adds no frame. A transition that is
put into a walk together with detail lines of its own should therefore change nothing. But the
frame in front of the transition is still the last one, and the details are added to it.

* `readLine_of_isTransition`: the row of a transition ends a block and does nothing else.
* `Transition.exists_foldl_text`: the details of a transition are added to the frame in front.
* `Transition.unchanged_iff_addsNothing`: **the walk stays as it is iff that frame has the
  registers already and there are no variables.**
-/

namespace Postmortem.ManagedWalk

open Text Scan

/-! ## Rows of transitions -/

/-- Whether a line is the row of a transition: a row in the first column whose call site has no
method. -/
def isTransition (line : List Char) : Bool :=
  !isIndented line && (first? heading line).isNone &&
    (pointerRow? line).any fun (_, _, site) => (methodSite? site).isNone

/-- A row with a pointer is no title. -/
theorem title?_of_pointerRow? {line : List Char} (h : (pointerRow? line).isSome = true) :
    title? line = none := by
  have hcolumn := isHexColumn_of_pointerRow? h
  unfold title?
  split
  · rename_i htitle
    rw [eq_of_beq htitle] at hcolumn
    exact absurd hcolumn (by decide)
  · split
    · rename_i htitle
      rw [eq_of_beq htitle] at hcolumn
      exact absurd hcolumn (by decide)
    · rfl

/-- Nor is it blank or a remark. -/
theorem isIdle_of_pointerRow? {line : List Char} (h : (pointerRow? line).isSome = true) :
    isIdle line = false := by
  have hcolumn := isHexColumn_of_pointerRow? h
  have hword : ∀ (w : Word) (rest : List Char), isHexColumn 8 16 w.chars = false →
      w.chars ++ ' ' :: rest ≠ trim line := by
    intro w rest hno heq
    rw [← heq, (takeWhile_append_blank w.noBlank isBlank_of_mem_head?_space).1, hno] at hcolumn
    cases hcolumn
  rw [Bool.eq_false_iff]
  intro hidle
  unfold isIdle isRemark at hidle
  rw [Bool.or_eq_true, Bool.or_eq_true, List.isPrefixOf_iff_prefix, List.isPrefixOf_iff_prefix,
    List.isEmpty_iff] at hidle
  rcases hidle with hblank | ⟨rest, hheading⟩ | ⟨rest, hfailure⟩
  · rw [hblank] at hcolumn
    exact absurd hcolumn (by decide)
  · exact hword { chars := "Child".toList } ("SP".toList ++ rest) (by decide) hheading
  · exact hword { chars := "Failed".toList } ("to start".toList ++ rest) (by decide) hfailure

/-- **The row of a transition ends a block and does nothing else.** -/
theorem readLine_of_isTransition {line : List Char} (h : isTransition line = true) (s : State) :
    readLine s line = { s with block := .none } := by
  unfold isTransition at h
  obtain ⟨h, hrow⟩ := Bool.and_eq_true_iff.1 h
  obtain ⟨hindent, hheading⟩ := Bool.and_eq_true_iff.1 h
  cases hpointer : pointerRow? line with
  | none =>
    rw [hpointer] at hrow
    cases hrow
  | some row =>
    obtain ⟨sp, ip, site⟩ := row
    have hsome : (pointerRow? line).isSome = true := by rw [hpointer]; rfl
    have hmethod : methodSite? site = none := by
      rw [hpointer] at hrow
      exact Option.isNone_iff_eq_none.1 hrow
    have hframe : frame? line = none := by
      unfold frame?
      rw [hpointer]
      show (methodSite? site).bind _ = none
      rw [hmethod]
      rfl
    rw [readLine_of_firstColumn (Option.isNone_iff_eq_none.1 hheading)
      (by simpa using hindent) (title?_of_pointerRow? hsome) (isIdle_of_pointerRow? hsome),
      hframe]

/-! ## Transitions put into walks -/

theorem nonEmpty?_inj {α : Type} {xs ys : List α} : nonEmpty? xs = nonEmpty? ys ↔ xs = ys := by
  cases xs <;> cases ys <;> simp [nonEmpty?]

/-- A transition with detail lines of its own that is put into a walk, in front of a row or
before the end. -/
structure Transition where
  before : List Char
  inserted : List Char
  row : List Char
  details : List (List Char)
  after : List Char
  before_isEnded : IsEnded before
  inserted_isEnded : IsEnded inserted
  lines_inserted : lines inserted = row :: details
  row_isTransition : isTransition row = true
  details_areDetails : areDetails .none details = true
  after_isRow : ∀ line ∈ ((lines after).dropWhile isPassed).head?, isRow line = true
  isWalk_plain : isWalk (.ofList (before ++ after)) = true

namespace Transition

variable (t : Transition)

/-- The walk without the transition. -/
def plain : String := .ofList (t.before ++ t.after)

/-- The walk with the transition. -/
def text : String := .ofList (t.before ++ (t.inserted ++ t.after))

/-- The transition does not change the stacks that are read. -/
def Unchanged : Prop :=
  ThreadStack.ofRuntimeListing? t.text = ThreadStack.ofRuntimeListing? t.plain

/-- The sections read up to where the transition is put. -/
def start : Sections := ((lines t.before).foldl readLine {}).sections

/-- The last frame in front of the transition. -/
def lastFrame? : Option Frame := t.start.lastFrame?

/-- What stands in the detail lines. -/
def added : Details := .ofLines .none t.details

/-- The details add nothing to the frame in front of the transition. -/
def AddsNothing : Prop := ∀ frame ∈ t.lastFrame?,
  frame.registers.insertAll t.added.registers = frame.registers ∧
    t.added.parameters = [] ∧ t.added.locals = []

instance : Decidable t.AddsNothing := inferInstanceAs (Decidable (∀ frame ∈ t.lastFrame?, _ ∧ _))

/-- The transition stands between two frames or at the end of a section, and not in front of
another transition. -/
def EndsFrame : Prop := ∀ line ∈ ((lines t.after).dropWhile isPassed).head?, endsFrame line = true

instance : Decidable t.EndsFrame := inferInstanceAs (Decidable (∀ line ∈ List.head? _, _))

/-! ## Reading with and without the transition -/

theorem isWalk_text : isWalk t.text = true := by
  -- what is found in the walk has no line feed, so it is in front of the transition or behind it
  have hkeep : ∀ pattern : String, '\n' ∉ pattern.toList → mentions t.plain pattern = true →
      mentions t.text pattern = true := by
    intro pattern hfeed h
    unfold mentions plain text at *
    rw [occursIn_iff, String.toList_ofList] at *
    rcases eq_nil_or_eq_append_of_isEnded t.before_isEnded with hnil | ⟨start, hstart⟩
    · rw [hnil, List.nil_append] at h ⊢
      exact h.trans (List.suffix_append _ _).isInfix
    · rw [hstart, List.append_assoc, List.singleton_append] at h
      rcases infix_append_cons hfeed h with h | h
      · rw [hstart, List.append_assoc]
        exact h.trans (List.prefix_append _ _).isInfix
      · exact h.trans ((List.suffix_append _ _).trans (List.suffix_append _ _)).isInfix
  have hwalk := t.isWalk_plain
  unfold isWalk at hwalk ⊢
  rw [Bool.or_eq_true] at hwalk ⊢
  exact hwalk.imp (hkeep _ (by decide)) (hkeep _ (by decide))

/-- Only the sections matter, since either text is a walk. -/
theorem unchanged_iff_sections : t.Unchanged ↔ sections t.text = sections t.plain := by
  have hplain : isWalk t.plain = true := t.isWalk_plain
  unfold Unchanged ThreadStack.ofRuntimeListing?
  rw [if_pos t.isWalk_text, if_pos hplain, nonEmpty?_inj]

theorem exists_foldl_plain : ∃ block, (lines t.plain.toList).foldl readLine {} =
    (lines t.after).foldl readLine ⟨t.start, block⟩ := by
  refine ⟨((lines t.before).foldl readLine {}).block, ?_⟩
  unfold plain
  rw [String.toList_ofList, lines_append_of_isEnded t.before_isEnded, List.foldl_append]
  rfl

/-- **The details are added to the last frame in front of the transition.** -/
theorem exists_foldl_text : ∃ block, (lines t.text.toList).foldl readLine {} =
    (lines t.after).foldl readLine ⟨t.start.modifyLast t.added.addTo, block⟩ := by
  have hread := foldl_readLine_details t.details_areDetails t.start
  refine ⟨(t.details.foldl readLine ⟨t.start, .none⟩).block, ?_⟩
  unfold text added
  rw [← hread, String.toList_ofList, lines_append_of_isEnded t.before_isEnded,
    lines_append_of_isEnded t.inserted_isEnded, t.lines_inserted, List.foldl_append,
    List.foldl_append, List.foldl_cons, readLine_of_isTransition t.row_isTransition]
  rfl

/-- The details make no difference if they add nothing. -/
theorem unchanged_of_addsNothing (h : t.AddsNothing) : t.Unchanged := by
  obtain ⟨block, hplain⟩ := t.exists_foldl_plain
  obtain ⟨block', htext⟩ := t.exists_foldl_text
  have hsame : t.start.modifyLast t.added.addTo = t.start :=
    Sections.modifyLast_eq_self fun frame hframe =>
      (t.added.addTo_eq_self_iff frame).2 (h frame hframe)
  rw [unchanged_iff_sections]
  unfold sections
  rw [hplain, htext, hsame, sections_foldl_eq t.after_isRow t.start block' block]

/-- Stacks that are numbered alike have the same frames in the same places. -/
theorem unnumbered_eq_of_renumber {frames more more' : List Frame} {frame frame' : Frame}
    (h : renumber (frames ++ frame :: more) = renumber (frames ++ frame' :: more')) :
    frame.unnumbered = frame'.unnumbered := by
  have hmap := congrArg (List.map Frame.unnumbered) h
  rw [map_unnumbered_renumber, map_unnumbered_renumber, List.map_append, List.map_append] at hmap
  exact (List.cons.inj (List.append_cancel_left hmap)).1

/-- The details make a difference if they add something. -/
theorem addsNothing_of_unchanged (hends : t.EndsFrame) (h : t.Unchanged) : t.AddsNothing := by
  intro frame hframe
  obtain ⟨block, hplain⟩ := t.exists_foldl_plain
  obtain ⟨block', htext⟩ := t.exists_foldl_text
  obtain ⟨stack, hstart⟩ := Sections.eq_of_lastFrame? hframe
  have hadded := Sections.modifyLast_concat t.start.finished stack stack.frames frame t.added.addTo
  rw [← hstart] at hadded
  obtain ⟨more, others, hclose⟩ := exists_close_foldl t.after_isRow hends t.start.finished stack
    frame block
  obtain ⟨more', others', hclose'⟩ := exists_close_foldl t.after_isRow hends t.start.finished stack
    (t.added.addTo frame) block'
  rw [unchanged_iff_sections] at h
  unfold sections at h
  rw [hplain, htext, hadded, hstart, hclose', hclose, List.map_append, List.map_append] at h
  have hstacks := (List.cons.inj (List.append_cancel_left h)).1
  have hsame : t.added.addTo frame.unnumbered = frame.unnumbered :=
    unnumbered_eq_of_renumber (congrArg ThreadStack.frames hstacks)
  exact (t.added.addTo_eq_self_iff frame.unnumbered).1 hsame

/-- **When a transition with details changes a walk**: never if the frame in front of it has the
registers already and there are no variables, and always if this is not so and no other
transition follows. -/
theorem unchanged_iff_addsNothing :
    (t.AddsNothing → t.Unchanged) ∧ (t.EndsFrame → (t.Unchanged ↔ t.AddsNothing)) :=
  ⟨t.unchanged_of_addsNothing,
    fun hends => ⟨t.addsNothing_of_unchanged hends, t.unchanged_of_addsNothing⟩⟩

/-- The row of a transition into the garbage collector. -/
def collectorRow : List Char :=
  "000000E51A7FE7A0                  [GCFrame: 000000e51a7fe7a0]".toList

/-- A walk of two frames with a transition between them, which has the registers of the frame in
front of it. -/
def throughCollector : Transition where
  before := unlines ["OS Thread Id: 0x2a3c (0)".toList,
    "000000E51A7FE6C8 00007FF8A1B2C3D4 Worker.Run()".toList, "    rip=00007ff8a1b2c3d4".toList]
  inserted := unlines [collectorRow, "    rip=00007ff8a1b2c3d4".toList]
  row := collectorRow
  details := ["    rip=00007ff8a1b2c3d4".toList]
  after := "000000E51A7FE8B0 00007FF8A1B2C700 Program.Main()".toList
  before_isEnded := isEnded_unlines _
  inserted_isEnded := isEnded_unlines _
  lines_inserted := lines_unlines (by decide)
  row_isTransition := by decide +kernel
  details_areDetails := by decide +kernel
  after_isRow := by decide +kernel
  isWalk_plain := by decide +kernel

theorem unchanged_throughCollector : throughCollector.AddsNothing ∧
    throughCollector.EndsFrame ∧ throughCollector.Unchanged := by
  have hnothing : throughCollector.AddsNothing := by decide +kernel
  have hends : throughCollector.EndsFrame := by decide +kernel
  exact ⟨hnothing, hends, (throughCollector.unchanged_iff_addsNothing.2 hends).2 hnothing⟩

/-- The same walk, with another value in the register of the transition. -/
def withRegister : Transition :=
  { throughCollector with
    inserted := unlines [collectorRow, "    rip=00007ff8a1b2c500".toList]
    details := ["    rip=00007ff8a1b2c500".toList]
    inserted_isEnded := isEnded_unlines _
    lines_inserted := lines_unlines (by decide)
    details_areDetails := by decide +kernel }

/-- The register of the frame is overwritten by that of the transition. -/
theorem not_unchanged_of_register : ¬ ∀ t : Transition, t.Unchanged := by
  intro h
  have hnothing := withRegister.addsNothing_of_unchanged (by decide +kernel) (h withRegister)
  exact absurd hnothing (by decide +kernel)

end Transition

end Postmortem.ManagedWalk
