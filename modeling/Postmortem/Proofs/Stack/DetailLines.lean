import Mathlib.Tactic
import Postmortem.Proofs.Text.PrintedLines
import Postmortem.Stack.ManagedWalk

/-!
# Lines of walks of managed frames

A walk is read line by line. A line starts a section, adds a frame or changes the last frame,
and nothing else (`readLine_cases`), so a frame is settled once another one follows
(`Settled.foldl`).

The lines fall into three kinds. Rows stand in the first column or are headings, and they are
read alike in every block. Blank lines and remarks are passed over. Detail lines are indented,
and what stands in them (`Details`) is added to the last frame.

* `sections_foldl_eq`: **lines that begin with a row are read alike in every block.**
* `foldl_readLine_details`: **detail lines add what they hold to the last frame.**
* `Settled.foldl`: **what has been read of a frame stays** when another frame follows.
-/

namespace Postmortem

open Text

/-! ## The frame that was read last -/

namespace Sections

/-- The frame that was read last, if the section that is being read has one. -/
def lastFrame? (s : Sections) : Option Frame := s.current.bind fun stack => stack.frames.getLast?

theorem modify_concat (frames : List Frame) (last : Frame) (f : Frame → Frame) :
    (frames ++ [last]).modify ((frames ++ [last]).length - 1) f = frames ++ [f last] := by
  rw [List.length_append, List.length_singleton, Nat.add_sub_cancel]
  induction frames with
  | nil => rfl
  | cons frame frames ih =>
    rw [List.cons_append, List.length_cons, List.modify_succ_cons, ih, List.cons_append]

theorem modifyLast_modifyLast (s : Sections) (f g : Frame → Frame) :
    (s.modifyLast f).modifyLast g = s.modifyLast (g ∘ f) := by
  obtain ⟨finished, current⟩ := s
  cases current with
  | none => rfl
  | some stack =>
    simp only [modifyLast, Option.map_some, List.length_modify, List.modify_modify_eq]

/-- The section of the last frame ends in it. -/
theorem eq_of_lastFrame? {s : Sections} {frame : Frame} (h : s.lastFrame? = some frame) :
    ∃ stack : ThreadStack,
      s = ⟨s.finished, some { stack with frames := stack.frames ++ [frame] }⟩ := by
  obtain ⟨stack, hcurrent, hlast⟩ := Option.bind_eq_some_iff.1 h
  obtain ⟨frames, hframes⟩ := List.getLast?_eq_some_iff.1 hlast
  refine ⟨{ stack with frames }, ?_⟩
  obtain ⟨finished, current⟩ := s
  obtain rfl : current = some stack := hcurrent
  rw [← hframes]

theorem modifyLast_concat (finished : List ThreadStack) (stack : ThreadStack)
    (frames : List Frame) (frame : Frame) (f : Frame → Frame) :
    modifyLast ⟨finished, some { stack with frames := frames ++ [frame] }⟩ f =
      ⟨finished, some { stack with frames := frames ++ [f frame] }⟩ := by
  unfold modifyLast
  rw [Option.map_some, modify_concat]

/-- A change that leaves the last frame as it is changes nothing. -/
theorem modifyLast_eq_self {s : Sections} {f : Frame → Frame}
    (h : ∀ frame ∈ s.lastFrame?, f frame = frame) : s.modifyLast f = s := by
  cases hlast : s.lastFrame? with
  | some frame =>
    obtain ⟨stack, hs⟩ := eq_of_lastFrame? hlast
    rw [hs, modifyLast_concat, h frame hlast]
  | none =>
    obtain ⟨finished, current⟩ := s
    cases current with
    | none => rfl
    | some stack =>
      have hnil : stack.frames = [] := List.getLast?_eq_none_iff.1 hlast
      unfold modifyLast
      rw [Option.map_some, hnil, List.modify_nil, ← hnil]

end Sections

namespace ManagedWalk

open Scan

/-! ## Lines -/

variable {s : State} {block : Block} {line : List Char} {ls : List (List Char)}

/-- The block that a line opens, if it is the title of one. -/
def title? (line : List Char) : Option Block :=
  if trim line == "PARAMETERS:".toList then some .parameters
  else if trim line == "LOCALS:".toList then some .locals
  else none

/-- Whether a line is indented. -/
def isIndented (line : List Char) : Bool := line.head?.any fun c => c == ' ' || c == '\t'

/-- Whether a line is blank or a remark. -/
def isIdle (line : List Char) : Bool := (trim line).isEmpty || isRemark (trim line)

/-- Lines are read by their kind: heading, title, idle line, row, detail. -/
theorem readLine_eq (s : State) (line : List Char) : readLine s line =
    match first? heading line with
    | some (os, number) =>
      { sections := s.sections.start (number.map fun n => .parse (.ofList n))
          (some (.parse (.ofList os))) }
    | none =>
      match title? line with
      | some block => { s with block }
      | none =>
        if isIdle line then s
        else
          match if !isIndented line || s.block == .none then frame? line else none with
          | some frame => { sections := s.sections.addFrame frame }
          | none =>
            if isIndented line then readDetail s (trim line) else { s with block := .none } := by
  unfold readLine title? isIdle
  cases first? heading line with
  | some parts => rfl
  | none =>
    dsimp only
    split
    · rfl
    · split <;> rfl

/-- A detail changes the last frame and nothing else. -/
theorem exists_readDetail (s : State) (text : List Char) :
    ∃ f, (readDetail s text).sections = s.sections.modifyLast f := by
  have hsame : ∃ f, s.sections = s.sections.modifyLast f :=
    ⟨id, (Sections.modifyLast_eq_self fun _ _ => rfl).symm⟩
  unfold readDetail
  dsimp only
  split
  · exact ⟨_, rfl⟩
  · split
    · exact hsame
    · split
      · exact ⟨_, rfl⟩
      · exact hsame

/-- **A line starts a section, adds a frame or changes the last one**, whatever it is. -/
theorem readLine_cases (s : State) (line : List Char) :
    (∃ threadId osThreadId, (readLine s line).sections = s.sections.start threadId osThreadId) ∨
    (∃ frame, (readLine s line).sections = s.sections.addFrame frame) ∨
    ∃ f, (readLine s line).sections = s.sections.modifyLast f := by
  have hsame : ∃ f, s.sections = s.sections.modifyLast f :=
    ⟨id, (Sections.modifyLast_eq_self fun _ _ => rfl).symm⟩
  rw [readLine_eq]
  split
  · exact .inl ⟨_, _, rfl⟩
  · split
    · exact .inr (.inr hsame)
    · split
      · exact .inr (.inr hsame)
      · split
        · exact .inr (.inl ⟨_, rfl⟩)
        · split
          · exact .inr (.inr (exists_readDetail s _))
          · exact .inr (.inr hsame)

/-- Whether a line is passed over. -/
def isPassed (line : List Char) : Bool := (first? heading line).isNone && isIdle line

/-- Whether a line is a row: a heading, or a line in the first column that is neither a title
nor passed over. -/
def isRow (line : List Char) : Bool :=
  (first? heading line).isSome || (!isIndented line && (title? line).isNone && !isIdle line)

theorem title?_eq_none_of_isIdle (h : isIdle line = true) : title? line = none := by
  unfold isIdle at h
  unfold title?
  split
  · rename_i htitle
    rw [eq_of_beq htitle] at h
    exact absurd h (by decide)
  · split
    · rename_i htitle
      rw [eq_of_beq htitle] at h
      exact absurd h (by decide)
    · rfl

theorem readLine_of_isPassed (h : isPassed line = true) (s : State) : readLine s line = s := by
  unfold isPassed at h
  obtain ⟨hheading, hidle⟩ := Bool.and_eq_true_iff.1 h
  rw [readLine_eq, Option.isNone_iff_eq_none.1 hheading, title?_eq_none_of_isIdle hidle]
  dsimp only
  rw [hidle, if_pos rfl]

/-- A row in the first column is a frame or the end of a block. -/
theorem readLine_of_firstColumn (hheading : first? heading line = none)
    (hindent : isIndented line = false) (htitle : title? line = none) (hidle : isIdle line = false)
    (s : State) : readLine s line =
      match frame? line with
      | some frame => { sections := s.sections.addFrame frame }
      | none => { s with block := .none } := by
  rw [readLine_eq, hheading, htitle]
  dsimp only
  rw [hidle, hindent]
  rfl

/-- A row is read alike in every block. -/
theorem readLine_of_isRow (h : isRow line = true) (sections : Sections) (block block' : Block) :
    readLine ⟨sections, block⟩ line = readLine ⟨sections, block'⟩ line := by
  cases hheading : first? heading line with
  | some parts =>
    rw [readLine_eq, readLine_eq, hheading]
  | none =>
    unfold isRow at h
    rw [hheading, Option.isSome_none, Bool.false_or, Bool.and_eq_true, Bool.and_eq_true,
      Bool.not_eq_true', Bool.not_eq_true', Option.isNone_iff_eq_none] at h
    obtain ⟨⟨hindent, htitle⟩, hidle⟩ := h
    rw [readLine_of_firstColumn hheading hindent htitle hidle,
      readLine_of_firstColumn hheading hindent htitle hidle]

/-- **Lines that begin with a row are read alike in every block**, also behind lines that are
passed over. -/
theorem sections_foldl_eq (h : ∀ line ∈ (ls.dropWhile isPassed).head?, isRow line = true)
    (sections : Sections) (block block' : Block) :
    (ls.foldl readLine ⟨sections, block⟩).sections =
      (ls.foldl readLine ⟨sections, block'⟩).sections := by
  induction ls with
  | nil => rfl
  | cons line ls ih =>
    rw [List.foldl_cons, List.foldl_cons]
    by_cases hpassed : isPassed line = true
    · rw [List.dropWhile_cons_of_pos hpassed] at h
      rw [readLine_of_isPassed hpassed, readLine_of_isPassed hpassed]
      exact ih h
    · rw [List.dropWhile_cons_of_neg hpassed] at h
      rw [readLine_of_isRow (h line rfl) sections block block']

/-! ## Details -/

/-- What stands in detail lines. -/
structure Details where
  registers : List (String × String) := []
  parameters : List Variable := []
  locals : List Variable := []

namespace Details

/-- A frame with the details added. -/
def addTo (d : Details) (frame : Frame) : Frame :=
  { frame with
    registers := frame.registers.insertAll d.registers
    parameters := frame.parameters ++ d.parameters
    locals := frame.locals ++ d.locals }

/-- The details one after the other. -/
def append (d d' : Details) : Details where
  registers := d.registers ++ d'.registers
  parameters := d.parameters ++ d'.parameters
  locals := d.locals ++ d'.locals

/-- A variable in a block; outside of blocks it does not count. -/
def ofVariable (v : Variable) : Block → Details
  | .parameters => { parameters := [v] }
  | .locals => { locals := [v] }
  | .none => {}

/-- The details in a trimmed line: registers, unless it reads like an assignment, or a
variable. -/
def ofText (block : Block) (text : List Char) : Details :=
  let registers := (sweep register none text).1
  if !registers.isEmpty && !occursIn " = ".toList text then { registers }
  else if text == "<no data>".toList then {}
  else (readVariable? text).elim {} fun v => ofVariable v block

/-- The details in a line. -/
def ofLine (block : Block) (line : List Char) : Details :=
  if (title? line).isSome || isIdle line then {} else ofText block (trim line)

/-- The details in lines, of which the first one is read in the block. -/
def ofLines : Block → List (List Char) → Details
  | _, [] => {}
  | block, line :: ls => (ofLine block line).append (ofLines ((title? line).getD block) ls)

theorem empty_addTo (frame : Frame) : ({} : Details).addTo frame = frame := by
  simp [addTo, SortedMap.insertAll]

theorem append_addTo (d d' : Details) : (d.append d').addTo = d'.addTo ∘ d.addTo := by
  funext frame
  simp [addTo, append, SortedMap.insertAll, List.foldl_append]

theorem registers_addTo (registers : List (String × String)) :
    ({ registers } : Details).addTo =
      fun frame => { frame with registers := frame.registers.insertAll registers } := by
  funext frame
  simp [addTo]

theorem ofVariable_addTo (v : Variable) (block : Block) :
    (ofVariable v block).addTo = block.store v := by
  funext frame
  cases block <;> simp [ofVariable, addTo, Block.store, SortedMap.insertAll]

/-- What details add shows in the frame. -/
theorem addTo_eq_self_iff (d : Details) (frame : Frame) : d.addTo frame = frame ↔
    frame.registers.insertAll d.registers = frame.registers ∧ d.parameters = [] ∧
      d.locals = [] := by
  have hframe : d.addTo frame = frame ↔ (d.addTo frame).registers = frame.registers ∧
      (d.addTo frame).parameters = frame.parameters ∧ (d.addTo frame).locals = frame.locals := by
    obtain ⟨⟩ := frame
    simp [addTo]
  rw [hframe]
  simp [addTo]

end Details

/-- Whether a line is a detail line: indented, no heading and, outside of blocks, no frame row. -/
def isDetail (block : Block) (line : List Char) : Bool :=
  isIndented line && (first? heading line).isNone &&
    (block != .none || (frame? line).isNone)

/-- Whether lines are detail lines, of which the first one is read in the block. -/
def areDetails : Block → List (List Char) → Bool
  | _, [] => true
  | block, line :: ls => isDetail block line && areDetails ((title? line).getD block) ls

/-- The text of a detail line adds its details to the last frame. -/
theorem readDetail_eq (sections : Sections) (block : Block) (text : List Char) :
    readDetail ⟨sections, block⟩ text =
      ⟨sections.modifyLast (Details.ofText block text).addTo, block⟩ := by
  have hnone : sections.modifyLast ({} : Details).addTo = sections :=
    Sections.modifyLast_eq_self fun frame _ => Details.empty_addTo frame
  unfold readDetail Details.ofText
  dsimp only
  split
  · rw [Details.registers_addTo]
  · split
    · rw [hnone]
    · cases readVariable? text with
      | none => rw [Option.elim_none, hnone]
      | some v => rw [Option.elim_some, Details.ofVariable_addTo]

/-- A detail line adds its details to the last frame. -/
theorem readLine_of_isDetail (h : isDetail block line = true) (sections : Sections) :
    readLine ⟨sections, block⟩ line =
      ⟨sections.modifyLast (Details.ofLine block line).addTo, (title? line).getD block⟩ := by
  have hnone : sections.modifyLast ({} : Details).addTo = sections :=
    Sections.modifyLast_eq_self fun frame _ => Details.empty_addTo frame
  unfold isDetail at h
  obtain ⟨h, hframe⟩ := Bool.and_eq_true_iff.1 h
  obtain ⟨hindent, hheading⟩ := Bool.and_eq_true_iff.1 h
  rw [readLine_eq, Option.isNone_iff_eq_none.1 hheading]
  dsimp only
  unfold Details.ofLine
  cases htitle : title? line with
  | some opened =>
    rw [Option.isSome_some, Bool.true_or, if_pos rfl, hnone, Option.getD_some]
  | none =>
    dsimp only
    rw [Option.isSome_none, Bool.false_or, Option.getD_none]
    by_cases hidle : isIdle line = true
    · rw [if_pos hidle, if_pos hidle, hnone]
    · -- in a block the line is no candidate for a frame row, and outside it is none
      have hnoFrame :
          (if !isIndented line || block == .none then frame? line else none) = none := by
        split
        · rename_i hcandidate
          rw [hindent, Bool.not_true, Bool.false_or, beq_iff_eq] at hcandidate
          rw [hcandidate] at hframe
          exact Option.isNone_iff_eq_none.1 hframe
        · rfl
      rw [if_neg hidle, if_neg hidle, hnoFrame]
      dsimp only
      rw [if_pos hindent, readDetail_eq]

/-- **Detail lines add what they hold to the last frame**, and change nothing else. -/
theorem foldl_readLine_details (h : areDetails block ls = true) (sections : Sections) :
    (ls.foldl readLine ⟨sections, block⟩).sections =
      sections.modifyLast (Details.ofLines block ls).addTo := by
  induction ls generalizing sections block with
  | nil => exact (Sections.modifyLast_eq_self fun frame _ => Details.empty_addTo frame).symm
  | cons line ls ih =>
    obtain ⟨hline, hrest⟩ := Bool.and_eq_true_iff.1 h
    rw [List.foldl_cons, readLine_of_isDetail hline, ih hrest, Sections.modifyLast_modifyLast,
      Details.ofLines, Details.append_addTo]

/-! ## Settled frames -/

/-- A frame stands in the section `stack` of its thread, behind the frames that `stack` has and
behind the sections `front`, and it is not the frame that was read last. -/
def Settled (front : List ThreadStack) (stack : ThreadStack) (frame : Frame) (s : Sections) :
    Prop :=
  (∃ next more,
    s = ⟨front, some { stack with frames := stack.frames ++ frame :: next :: more }⟩) ∨
  ∃ more others,
    s.finished = front ++ { stack with frames := stack.frames ++ frame :: more } :: others

namespace Settled

variable {front : List ThreadStack} {stack : ThreadStack} {frame : Frame} {sections : Sections}

/-- All sections have the frame in its place. -/
theorem close (h : Settled front stack frame sections) : ∃ more others,
    sections.close = front ++ { stack with frames := stack.frames ++ frame :: more } :: others := by
  unfold Sections.close
  rcases h with ⟨next, more, rfl⟩ | ⟨more, others, hfinished⟩
  · exact ⟨next :: more, [], by simp [Option.filter]⟩
  · rw [hfinished, List.append_assoc, List.cons_append]
    exact ⟨more, _, rfl⟩

/-- Reading a line keeps the frame: what a line changes is another frame. -/
theorem readLine {s : State} (h : Settled front stack frame s.sections) (line : List Char) :
    Settled front stack frame (readLine s line).sections := by
  rcases readLine_cases s line with ⟨threadId, osThreadId, hstart⟩ | ⟨added, hadded⟩ | ⟨f, hlast⟩
  · rw [hstart]
    exact .inr h.close
  · rw [hadded]
    rcases h with ⟨next, more, hs⟩ | h
    · refine .inl ⟨next, more ++ [added], ?_⟩
      rw [hs]
      simp [Sections.addFrame]
    · exact .inr h
  · rw [hlast]
    rcases h with ⟨next, more, hs⟩ | h
    · -- the last frame is one of those behind the settled one
      obtain ⟨init, last, hsplit⟩ : ∃ init last, next :: more = init ++ [last] :=
        ⟨_, _, (List.dropLast_append_getLast (List.cons_ne_nil next more)).symm⟩
      obtain ⟨next', more', hmore⟩ := List.exists_cons_of_ne_nil
        (List.append_ne_nil_of_right_ne_nil init (List.cons_ne_nil (f last) []))
      refine .inl ⟨next', more', ?_⟩
      rw [hs, hsplit, ← List.cons_append, ← List.append_assoc, Sections.modifyLast_concat,
        List.append_assoc, List.cons_append, hmore]
    · exact .inr h

/-- **What has been read of a frame stays** when another frame follows, whatever lines come. -/
theorem foldl {s : State} (h : Settled front stack frame s.sections) (ls : List (List Char)) :
    Settled front stack frame (ls.foldl ManagedWalk.readLine s).sections := by
  induction ls generalizing s with
  | nil => exact h
  | cons line ls ih =>
    rw [List.foldl_cons]
    exact ih (h.readLine line)

end Settled

/-- What ends a frame for good: a heading or the row of another frame. -/
def endsFrame (line : List Char) : Bool := (first? heading line).isSome || (frame? line).isSome

/-- **The last frame stays as it is** if the lines begin with what ends it, or have no row. -/
theorem exists_close_foldl (hrow : ∀ line ∈ (ls.dropWhile isPassed).head?, isRow line = true)
    (hends : ∀ line ∈ (ls.dropWhile isPassed).head?, endsFrame line = true)
    (front : List ThreadStack) (stack : ThreadStack) (frame : Frame) (block : Block) :
    let s : Sections := ⟨front, some { stack with frames := stack.frames ++ [frame] }⟩
    ∃ more others, (ls.foldl readLine ⟨s, block⟩).sections.close =
      front ++ { stack with frames := stack.frames ++ frame :: more } :: others := by
  intro s
  have hclose : s.close = front ++ [{ stack with frames := stack.frames ++ [frame] }] := by
    simp [s, Sections.close, Option.filter]
  induction ls with
  | nil => exact ⟨[], [], hclose⟩
  | cons line ls ih =>
    rw [List.foldl_cons]
    by_cases hpassed : isPassed line = true
    · rw [List.dropWhile_cons_of_pos hpassed] at hrow hends
      rw [readLine_of_isPassed hpassed]
      exact ih hrow hends
    · rw [List.dropWhile_cons_of_neg hpassed] at hrow hends
      have hline := hrow line rfl
      have hend := hends line rfl
      have hsettled : Settled front stack frame (readLine ⟨s, block⟩ line).sections := by
        unfold isRow at hline
        unfold endsFrame at hend
        cases hheading : first? heading line with
        | some parts =>
          rw [readLine_eq, hheading]
          exact .inr ⟨[], [], hclose⟩
        | none =>
          rw [hheading, Option.isSome_none, Bool.false_or] at hline hend
          obtain ⟨hline, hidle⟩ := Bool.and_eq_true_iff.1 hline
          obtain ⟨hindent, htitle⟩ := Bool.and_eq_true_iff.1 hline
          obtain ⟨next, hnext⟩ := Option.isSome_iff_exists.1 hend
          rw [readLine_of_firstColumn hheading (by simpa using hindent) (by simpa using htitle)
            (by simpa using hidle), hnext]
          refine .inl ⟨next, [], ?_⟩
          simp [s, Sections.addFrame]
      exact (hsettled.foldl ls).close

end ManagedWalk

end Postmortem
