import Postmortem.Proofs.Stack.DetailLines
import Postmortem.Stack.Listing

/-!
# Sections are read independently

A stack listing is read line by line, and a state goes from line to line: the section that is being
read, and with it the return address of the last row or the open block of variables. A heading
starts a section and drops all of this. So whatever stands in front of a heading, well formed or
not, adds its own stacks and changes none of those behind it.

What all forms of listings have in common is a `SectionReader`: finished sections do not matter to
the reading of a line, and behind a heading nothing else is left of what was read before.

* `SectionReader.threadStacks_cut`: listings that are read so can be cut in front of any heading.
* `StackForm.threadStacks_append`: **in every form, the stacks of two texts are the stacks of the one
  followed by those of the other**, if the other one begins with a heading.
-/

namespace Postmortem

open Text

namespace Sections

/-- The sections with others in front of them, which are finished. -/
def behind (finished : List ThreadStack) (s : Sections) : Sections :=
  { s with finished := finished ++ s.finished }

variable (finished : List ThreadStack) (s : Sections)

theorem close_behind : (s.behind finished).close = finished ++ s.close :=
  List.append_assoc finished s.finished _

theorem start_behind (threadId osThreadId : Option ThreadId) :
    (s.behind finished).start threadId osThreadId =
      (s.start threadId osThreadId).behind finished := by
  unfold start
  rw [close_behind]
  rfl

/-- A heading finishes the section that is being read, and starts an empty one. -/
theorem start_eq_behind (threadId osThreadId : Option ThreadId) :
    s.start threadId osThreadId =
      (({} : Sections).start threadId osThreadId).behind s.close := by
  unfold start behind
  rw [show ({} : Sections).close = [] from rfl, List.append_nil]

end Sections

/-- A way of reading listings line by line, for which finished sections do not matter. -/
structure SectionReader where
  State : Type
  /-- The state before the first line. -/
  initial : State
  readLine : State → List Char → State
  sections : State → Sections
  /-- The state with other sections finished in front of its own. -/
  behind : List ThreadStack → State → State
  isHeading : List Char → Bool
  sections_behind : ∀ finished s,
    sections (behind finished s) = (sections s).behind finished
  readLine_behind : ∀ finished s line,
    readLine (behind finished s) line = behind finished (readLine s line)
  close_initial : (sections initial).close = []
  readLine_heading : ∀ s line, isHeading line = true →
    readLine s line = behind (sections s).close (readLine initial line)

namespace SectionReader

variable (r : SectionReader)

/-- The state behind some lines. -/
def run (s : r.State) (ls : List (List Char)) : r.State := ls.foldl r.readLine s

/-- The stacks of a text. -/
def threadStacks (cs : List Char) : List ThreadStack :=
  (r.sections (r.run r.initial (lines cs))).close

/-- Finished sections do not matter to the reading of any lines. -/
theorem run_behind (finished : List ThreadStack) (s : r.State) (ls : List (List Char)) :
    r.run (r.behind finished s) ls = r.behind finished (r.run s ls) := by
  induction ls generalizing s with
  | nil => rfl
  | cons line ls ih =>
    unfold run at ih ⊢
    rw [List.foldl_cons, List.foldl_cons, r.readLine_behind, ih]

/-- Lines that begin with a heading are read as if nothing stood in front of them. -/
theorem run_of_isHeading {line : List Char} (h : r.isHeading line = true) (s : r.State)
    (ls : List (List Char)) :
    r.run s (line :: ls) = r.behind (r.sections s).close (r.run r.initial (line :: ls)) := by
  rw [← run_behind]
  unfold run
  rw [List.foldl_cons, List.foldl_cons, r.readLine_behind, ← r.readLine_heading s line h]

/-- **Listings can be cut in front of any heading.** -/
theorem threadStacks_cut {front behind : List Char} (hfront : IsEnded front)
    (hbehind : ∃ line ∈ (lines behind).head?, r.isHeading line = true) :
    r.threadStacks (front ++ behind) = r.threadStacks front ++ r.threadStacks behind := by
  obtain ⟨line, hline, hheading⟩ := hbehind
  obtain ⟨ls, hlines⟩ := List.head?_eq_some_iff.1 hline
  have hrun : ∀ s ls ls', r.run s (ls ++ ls') = r.run (r.run s ls) ls' :=
    fun s ls ls' => List.foldl_append
  unfold threadStacks
  rw [lines_append_of_isEnded hfront, hrun, hlines, r.run_of_isHeading hheading,
    r.sections_behind, Sections.close_behind]

end SectionReader

/-! ## Backtraces -/

namespace Backtrace

open Scan

/-- What stands behind an optional mark, as it is read. -/
theorem bind_optional_literal {β : Type} (mark : String) (next : Option Unit → Scan β)
    (cs : List Char) : (optional (literal mark) >>= next) cs =
      match mark.toList.isPrefixOf? cs with
      | some rest => next (some ()) rest
      | none => next none cs := by
  show ((some <$> literal mark <|> pure none : Scan (Option Unit)) cs).bind
    (fun x => next x.1 x.2) = _
  have hread : (some <$> literal mark : Scan (Option Unit)) cs =
      (mark.toList.isPrefixOf? cs).map fun rest => (some (), rest) := by
    show ((mark.toList.isPrefixOf? cs).map fun rest => ((), rest)).bind _ = _
    cases mark.toList.isPrefixOf? cs <;> rfl
  show ((some <$> literal mark : Scan (Option Unit)) cs <|> (pure none : Scan _) cs).bind _ = _
  rw [hread]
  cases mark.toList.isPrefixOf? cs <;> rfl

/-- A heading is no frame: behind the mark, a line cannot begin with both words. -/
theorem frame?_of_heading {line : List Char} (h : (front? heading line).isSome = true) :
    frame? line = none := by
  have hfails : ∀ {α β : Type} (cs : List Char) (next : Unit → Scan α) (next' : Unit → Scan β),
      (literal "frame #" >>= next) cs = none ∨ (literal "thread #" >>= next') cs = none := by
    intro α β cs next next'
    by_cases hframe : "frame #".toList <+: cs
    · refine .inr (bind_of_eq_none (literal_eq_none fun hthread => ?_) _)
      obtain ⟨rest, rfl⟩ := hframe
      exact absurd (List.cons_prefix_cons.1 hthread).1 (by decide)
    · exact .inl (bind_of_eq_none (literal_eq_none hframe) _)
  have hline : frameLine line = none ∨ heading line = none := by
    unfold frameLine heading
    rw [bind_blanks, bind_blanks, bind_optional_literal, bind_optional_literal]
    split
    · rw [bind_blanks, bind_blanks]
      exact hfails _ _ _
    · rw [bind_blanks, bind_blanks]
      exact hfails _ _ _
  rcases hline with hnone | hnone
  · unfold frame?
    rw [front?_of_eq_none hnone]
    rfl
  · rw [front?_of_eq_none hnone] at h
    cases h

/-- Reading backtraces. -/
def reader : SectionReader where
  State := Sections
  initial := {}
  readLine := readLine
  sections := id
  behind := Sections.behind
  isHeading line := (front? heading line).isSome
  sections_behind _ _ := rfl
  readLine_behind finished s line := by
    unfold readLine
    cases frame? line with
    | some frame => rfl
    | none =>
      cases front? heading line with
      | some ids => exact Sections.start_behind finished s _ _
      | none => rfl
  close_initial := rfl
  readLine_heading s line h := by
    obtain ⟨ids, hids⟩ := Option.isSome_iff_exists.1 h
    unfold readLine
    rw [frame?_of_heading h, hids]
    exact Sections.start_eq_behind s _ _

end Backtrace

/-! ## Tables with return addresses -/

namespace ReturnTable

open Scan

/-- Reading tables with return addresses. The address of the last row does not outlive its
section. -/
def reader : SectionReader where
  State := State
  initial := {}
  readLine := readLine
  sections := State.sections
  behind finished s := { s with sections := s.sections.behind finished }
  isHeading line := (front? heading line).isSome
  sections_behind _ _ := rfl
  readLine_behind finished s line := by
    unfold readLine
    cases front? heading line with
    | some ids =>
      exact congrArg (State.mk · none) (Sections.start_behind finished s.sections _ _)
    | none => cases front? row line <;> rfl
  close_initial := rfl
  readLine_heading s line h := by
    obtain ⟨ids, hids⟩ := Option.isSome_iff_exists.1 h
    unfold readLine
    rw [hids]
    exact congrArg (State.mk · none) (Sections.start_eq_behind s.sections _ _)

end ReturnTable

/-! ## Walks of managed frames -/

namespace ManagedWalk

open Scan

variable (finished : List ThreadStack) (s : State)

/-- The state with other sections finished in front of its own. -/
def State.behind : State := { s with sections := s.sections.behind finished }

theorem readDetail_behind (line : List Char) :
    readDetail (s.behind finished) line = (readDetail s line).behind finished := by
  rw [show s.behind finished = ⟨s.sections.behind finished, s.block⟩ from rfl, readDetail_eq,
    readDetail_eq]
  rfl

theorem readLine_behind (line : List Char) :
    readLine (s.behind finished) line = (readLine s line).behind finished := by
  have hblock : (s.behind finished).block = s.block := rfl
  rw [readLine_eq, readLine_eq, hblock]
  cases first? heading line with
  | some ids =>
    exact congrArg (State.mk · .none) (Sections.start_behind finished s.sections _ _)
  | none =>
    cases title? line with
    | some block => rfl
    | none =>
      dsimp only
      split
      · rfl
      · split
        · rfl
        · split
          · exact readDetail_behind finished s _
          · rfl

/-- Reading walks of managed frames. A block of variables does not outlive its section. -/
def reader : SectionReader where
  State := State
  initial := {}
  readLine := readLine
  sections := State.sections
  behind := State.behind
  isHeading line := (first? heading line).isSome
  sections_behind _ _ := rfl
  readLine_behind := readLine_behind
  close_initial := rfl
  readLine_heading s line h := by
    obtain ⟨ids, hids⟩ := Option.isSome_iff_exists.1 h
    rw [readLine_eq, readLine_eq, hids]
    exact congrArg (State.mk · .none) (Sections.start_eq_behind s.sections _ _)

end ManagedWalk

/-! ## All forms -/

/-- The forms of stack listings. -/
inductive StackForm where
  | backtrace
  | returnTable
  | managedWalk
deriving DecidableEq, Repr

namespace StackForm

/-- Whether a line is the heading of a section. -/
def isHeading : StackForm → List Char → Bool
  | backtrace, line => (Scan.front? Backtrace.heading line).isSome
  | returnTable, line => (Scan.front? ReturnTable.heading line).isSome
  | managedWalk, line => (Scan.first? ManagedWalk.heading line).isSome

/-- The stacks that a text has in this form, if it has any. -/
def decode? : StackForm → String → Option (List ThreadStack)
  | backtrace, text => nonEmpty? (Backtrace.sections text)
  | returnTable, text => nonEmpty? (ReturnTable.sections text)
  | managedWalk, text => nonEmpty? (ManagedWalk.sections text)

/-- The stacks that a text has in this form. -/
def threadStacks (form : StackForm) (text : String) : List ThreadStack := (form.decode? text).getD []

theorem getD_nonEmpty? {α : Type} (xs : List α) : (nonEmpty? xs).getD [] = xs := by
  cases xs <;> rfl

/-- **Sections are read independently**: what stands in front of a heading does not matter to the
stacks behind it. -/
theorem threadStacks_append (form : StackForm) {front behind : String}
    (hfront : IsEnded front.toList)
    (hbehind : ∃ line ∈ (lines behind.toList).head?, form.isHeading line = true) :
    form.threadStacks (front ++ behind) = form.threadStacks front ++ form.threadStacks behind := by
  cases form with
  | backtrace =>
    have hread : ∀ text, threadStacks backtrace text = Backtrace.reader.threadStacks text.toList :=
      fun text => getD_nonEmpty? _
    rw [hread, hread, hread, String.toList_append]
    exact Backtrace.reader.threadStacks_cut hfront hbehind
  | returnTable =>
    have hread : ∀ text, threadStacks returnTable text = ReturnTable.reader.threadStacks text.toList :=
      fun text => getD_nonEmpty? _
    rw [hread, hread, hread, String.toList_append]
    exact ReturnTable.reader.threadStacks_cut hfront hbehind
  | managedWalk =>
    have hread : ∀ text, threadStacks managedWalk text =
        (ManagedWalk.reader.threadStacks text.toList).map fun stack =>
          { stack with frames := renumber stack.frames } := fun text => getD_nonEmpty? _
    -- frames are numbered within their stack
    rw [hread, hread, hread, String.toList_append, ← List.map_append]
    exact congrArg _ (ManagedWalk.reader.threadStacks_cut hfront hbehind)

/-- The return address of a row without a heading is not taken for the instruction pointer of the
first row behind the next heading. -/
theorem threadStacks_append_rows :
    let front := "00 000000e5`1a7fe6c8 00007ff8`a1b2c3d4 app!Run+0x14\n"
    let behind := "   1  Id: 1b2c.2a3c Suspend: 1\n00 000000e5`1a7ff6c8 00007ff8`a1b2c7d4 app!main\n"
    IsEnded front.toList ∧
      (∃ line ∈ (lines behind.toList).head?, returnTable.isHeading line = true) ∧
      returnTable.threadStacks (front ++ behind) =
        returnTable.threadStacks front ++ returnTable.threadStacks behind ∧
      (returnTable.threadStacks (front ++ behind)).map (·.frames.map Frame.instructionPointer) =
        [[none], [none]] := by
  intro front behind
  have hfront : IsEnded front.toList := by decide +kernel
  have hbehind : ∃ line ∈ (lines behind.toList).head?, returnTable.isHeading line = true :=
    ⟨"   1  Id: 1b2c.2a3c Suspend: 1".toList, by decide +kernel, by decide +kernel⟩
  have happend := returnTable.threadStacks_append hfront hbehind
  refine ⟨hfront, hbehind, happend, ?_⟩
  rw [happend]
  decide +kernel

end StackForm

end Postmortem
