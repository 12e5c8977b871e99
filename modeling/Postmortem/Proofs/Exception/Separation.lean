import Postmortem.Exception.Record
import Postmortem.Proofs.Text.PrintedLines

/-!
# Sections between rules

The sections of a chain are read in one pass over its lines: a line joins the section being read, a
rule ends it, and it is forgotten if no text was in it. Rules may follow each other and stand at
either end.

* `CutAt`: a list cut at its separators, into the runs between them. There is one such cut
  (`cutAt_iff`).
* `NestedReader.foldl_cutAt`: over lines that are cut at the rules, the pass adds the sections of
  the runs that have text.
* `isNestedRule_mono`: a line that begins with a rule is one, so reading a section again finds
  no rule in it.
* `nestedSections_keeps`: **the sections are the runs between the rules that have text**, line by
  line and in order.
-/

namespace Postmortem

open Text

/-! ## Cuts -/

section Cuts

variable {α : Type} {isSep : α → Bool} {xs : List α} {runs : List (List α)}

/-- A list falls into the runs between its separators. A run is empty where two separators follow
each other, or where one stands at an end of the list. -/
inductive CutAt (isSep : α → Bool) : List α → List (List α) → Prop
  | last {run : List α} (hrun : ∀ x ∈ run, isSep x = false) : CutAt isSep run [run]
  | more {run rest : List α} {sep : α} {runs : List (List α)} (hrun : ∀ x ∈ run, isSep x = false)
      (hsep : isSep sep = true) (hrest : CutAt isSep rest runs) :
      CutAt isSep (run ++ sep :: rest) (run :: runs)

namespace CutAt

theorem splitOnP_eq (h : CutAt isSep xs runs) : xs.splitOnP isSep = runs := by
  induction h with
  | last hrun => exact List.splitOnP_eq_singleton hrun
  | more hrun hsep _ ih => rw [List.splitOnP_append_cons_of_forall_mem hrun _ hsep, ih]

/-- In front of a list, what is no separator joins the first run. -/
theorem cons {x : α} (hx : isSep x = false) (h : CutAt isSep xs runs) :
    CutAt isSep (x :: xs) (runs.modifyHead (x :: ·)) := by
  cases h with
  | last hrun => exact .last (List.forall_mem_cons.2 ⟨hx, hrun⟩)
  | more hrun hsep hrest => exact .more (List.forall_mem_cons.2 ⟨hx, hrun⟩) hsep hrest

theorem eq_false_of_mem (h : CutAt isSep xs runs) : ∀ run ∈ runs, ∀ x ∈ run, isSep x = false := by
  induction h with
  | last hrun => exact List.forall_mem_singleton.2 hrun
  | more hrun _ _ ih => exact List.forall_mem_cons.2 ⟨hrun, ih⟩

theorem infix_of_mem (h : CutAt isSep xs runs) : ∀ run ∈ runs, run <:+: xs := by
  induction h with
  | last => exact List.forall_mem_singleton.2 List.infix_rfl
  | more _ _ _ ih =>
    refine List.forall_mem_cons.2 ⟨(List.prefix_append _ _).isInfix, fun run hrun => ?_⟩
    exact (ih run hrun).trans ((List.suffix_cons _ _).trans (List.suffix_append _ _)).isInfix

end CutAt

theorem cutAt_splitOnP (isSep : α → Bool) (xs : List α) : CutAt isSep xs (xs.splitOnP isSep) := by
  induction xs with
  | nil =>
    rw [List.splitOnP_nil]
    exact .last (List.forall_mem_nil _)
  | cons x xs ih =>
    rw [List.splitOnP_cons_eq_if_modifyHead]
    split
    case isTrue hx => exact .more (List.forall_mem_nil _) hx ih
    case isFalse hx => exact ih.cons (Bool.eq_false_of_not_eq_true hx)

/-- **A list is cut in one way.** -/
theorem cutAt_iff : CutAt isSep xs runs ↔ runs = xs.splitOnP isSep :=
  ⟨fun h => h.splitOnP_eq.symm, fun h => h ▸ cutAt_splitOnP isSep xs⟩

end Cuts

/-! ## Sections of runs -/

/-- Whether some line has something other than blanks. -/
def hasText (run : List (List Char)) : Bool := run.any fun l => l.any fun c => !isBlank c

/-- The section with these lines. -/
def sectionText (run : List (List Char)) : String := .ofList (unlines run)

/-- The sections of the runs that have text. -/
def sectionsOf (runs : List (List (List Char))) : List String :=
  (runs.filter hasText).map sectionText

variable {run : List (List Char)}

theorem all_isBlank_unlines (run : List (List Char)) :
    (unlines run).all isBlank = !hasText run := by
  have hfeed : isBlank '\n' = true := by decide
  simp [unlines, hasText, List.all_flatMap, hfeed, List.not_any_eq_all_not]

theorem sectionsOf_cons (run : List (List Char)) (runs : List (List (List Char))) :
    sectionsOf (run :: runs) = sectionsOf [run] ++ sectionsOf runs := by
  unfold sectionsOf
  rw [← List.map_append, ← List.filter_append, List.singleton_append]

theorem sectionText_append_line (run : List (List Char)) (l : List Char) :
    sectionText (run ++ [l]) = sectionText run ++ .ofList l ++ "\n" := by
  have hfeed : "\n" = String.ofList ['\n'] := rfl
  unfold sectionText unlines
  rw [List.flatMap_append, List.flatMap_singleton, hfeed, String.ofList_append,
    String.ofList_append, String.append_assoc]

/-! ## The pass -/

namespace NestedReader

/-- A section in which no text was read is forgotten. -/
theorem close_sectionText (found : List String) (run : List (List Char)) :
    close ⟨found, sectionText run⟩ = { sections := found ++ sectionsOf [run] } := by
  unfold close
  have hblank : (sectionText run).toList.all isBlank = !hasText run := by
    rw [← all_isBlank_unlines, sectionText, String.toList_ofList]
  cases htext : hasText run <;> simp [hblank, htext, sectionsOf]

/-- A rule ends the section being read. -/
theorem readLine_rule {l : List Char} (hl : isNestedRule l = true) (s : NestedReader) :
    s.readLine l = s.close := if_pos hl

/-- Another line joins the section being read. -/
theorem readLine_line {l : List Char} (hl : isNestedRule l = false) (found : List String)
    (run : List (List Char)) :
    readLine ⟨found, sectionText run⟩ l = ⟨found, sectionText (run ++ [l])⟩ := by
  unfold readLine
  rw [if_neg (ne_true_of_eq_false hl), sectionText_append_line]

/-- Lines without a rule among them join the section being read. -/
theorem foldl_readLine_run {rest : List (List Char)} (hrest : ∀ l ∈ rest, isNestedRule l = false)
    (found : List String) (run : List (List Char)) :
    rest.foldl readLine ⟨found, sectionText run⟩ = ⟨found, sectionText (run ++ rest)⟩ := by
  induction rest generalizing run with
  | nil => rw [List.foldl_nil, List.append_nil]
  | cons l rest ih =>
    obtain ⟨hl, hrest⟩ := List.forall_mem_cons.1 hrest
    rw [List.foldl_cons, readLine_line hl, ih hrest, List.append_assoc, List.singleton_append]

/-- **The pass adds the sections of the runs that have text.** -/
theorem foldl_cutAt {ls : List (List Char)} {runs : List (List (List Char))}
    (h : CutAt isNestedRule ls runs) (found : List String) :
    (ls.foldl readLine { sections := found }).close = { sections := found ++ sectionsOf runs } := by
  -- every run is read from a section without lines
  have hempty : ∀ found, ({ sections := found } : NestedReader) = ⟨found, sectionText []⟩ :=
    fun _ => rfl
  induction h generalizing found with
  | last hrun => rw [hempty, foldl_readLine_run hrun, List.nil_append, close_sectionText]
  | more hrun hsep _ ih =>
    rw [hempty, List.foldl_append, foldl_readLine_run hrun, List.nil_append, List.foldl_cons,
      readLine_rule hsep, close_sectionText, ih, List.append_assoc, ← sectionsOf_cons]

end NestedReader

/-- A text has the sections of the runs that its rules leave. -/
theorem nestedSections_eq (text : String) :
    nestedSections text = sectionsOf ((lines text.toList).splitOnP isNestedRule) := by
  unfold nestedSections
  rw [NestedReader.foldl_cutAt (cutAt_splitOnP _ _), List.nil_append]

/-! ## Reading a section again -/

/-- A line that begins with a rule is one. -/
theorem isNestedRule_mono {w l : List Char} (h : w <+: l) (hw : isNestedRule w = true) :
    isNestedRule l = true := by
  obtain ⟨behind, rfl⟩ := h
  unfold isNestedRule at hw ⊢
  rw [List.isPrefixOf_iff_prefix] at hw ⊢
  -- the words of the rule stay at the start of the line, whatever follows
  have hne : trimStart w ≠ [] := fun hnil => absurd (hnil ▸ hw) (by decide)
  rw [trimStart_append_of_ne_nil hne]
  exact hw.trans (List.prefix_append _ _)

/-- A section is read again as the lines of its run. -/
theorem lines_sectionText {cs : List Char} (hrun : run <:+: lines cs) :
    lines (sectionText run).toList = run.map withoutReturn := by
  rw [sectionText, String.toList_ofList]
  exact lines_unlines_of_noFeed fun l hl => noFeed_of_mem_lines (hrun.subset hl)

theorem isNestedRule_withoutReturn {l : List Char} (h : isNestedRule l = false) :
    isNestedRule (withoutReturn l) = false := by
  refine Bool.eq_false_of_not_eq_true fun hrule => ?_
  exact ne_true_of_eq_false h (isNestedRule_mono (prefix_withoutReturn l) hrule)

theorem exists_notBlank_of_hasText (h : hasText run = true) :
    ∃ c ∈ (sectionText run).toList, isBlank c = false := by
  have hshown : (unlines run).all isBlank = false := by rw [all_isBlank_unlines, h, Bool.not_true]
  obtain ⟨c, hc, hblank⟩ := List.all_eq_false.1 hshown
  refine ⟨c, ?_, Bool.eq_false_of_not_eq_true hblank⟩
  rwa [sectionText, String.toList_ofList]

/-- **The sections are the runs between the rules that have text**: the lines of each run, in order
and each ended by a line feed. The rules cut the text in one way. Read again, the sections have the
lines of these runs, but for carriage returns at their ends; none of them is a rule, and no section
is blank. -/
theorem nestedSections_keeps (text : String) :
    ∃ runs : List (List (List Char)),
      (∀ other, CutAt isNestedRule (lines text.toList) other ↔ other = runs) ∧
      nestedSections text = (runs.filter hasText).map sectionText ∧
      (nestedSections text).map (fun s => lines s.toList) =
        (runs.filter hasText).map (List.map withoutReturn) ∧
      ∀ s ∈ nestedSections text,
        (∀ l ∈ lines s.toList, isNestedRule l = false) ∧ ∃ c ∈ s.toList, isBlank c = false := by
  have hcut := cutAt_splitOnP isNestedRule (lines text.toList)
  have hsections := nestedSections_eq text
  have hunique : ∀ other, CutAt isNestedRule (lines text.toList) other ↔
      other = (lines text.toList).splitOnP isNestedRule := fun _ => cutAt_iff
  -- from here on, all that matters is how the runs lie in the text
  generalize (lines text.toList).splitOnP isNestedRule = runs at hcut hsections hunique
  have hread : ∀ run ∈ runs, lines (sectionText run).toList = run.map withoutReturn :=
    fun run hrun => lines_sectionText (hcut.infix_of_mem run hrun)
  refine ⟨runs, hunique, hsections, ?_, fun s hs => ?_⟩
  · rw [hsections, sectionsOf, List.map_map]
    exact List.map_congr_left fun run hrun => hread run (List.mem_of_mem_filter hrun)
  · rw [hsections] at hs
    obtain ⟨run, hrun, rfl⟩ := List.mem_map.1 hs
    obtain ⟨hrun, htext⟩ := List.mem_filter.1 hrun
    refine ⟨?_, exists_notBlank_of_hasText htext⟩
    rw [hread run hrun, List.forall_mem_map]
    exact fun l hl => isNestedRule_withoutReturn (hcut.eq_false_of_mem run hrun l hl)

/-- Rules that follow each other and stand at both ends, a run of blanks, and lines that end in
carriage returns. -/
theorem nestedSections_keeps_doubledRules :
    let text := "Nested exception 1\n \nNested exception 2\r\nA: 1\r\n\nB: 2\r\r\n" ++
      "  Nested exception 3\nNested exception\nC: 3\nNested exception 4"
    nestedSections text = ["A: 1\n\nB: 2\r\n", "C: 3\n"] ∧
      "C: 3\n" ∈ nestedSections text ∧
      (∀ l ∈ lines "C: 3\n".toList, isNestedRule l = false) ∧
      ∃ c ∈ "C: 3\n".toList, isBlank c = false := by
  intro text
  have hsections : nestedSections text = ["A: 1\n\nB: 2\r\n", "C: 3\n"] := by decide +kernel
  have hmem : "C: 3\n" ∈ nestedSections text := by
    rw [hsections]
    exact List.mem_cons_of_mem _ List.mem_cons_self
  obtain ⟨runs, -, -, -, hplain⟩ := nestedSections_keeps text
  exact ⟨hsections, hmem, hplain _ hmem⟩

end Postmortem
