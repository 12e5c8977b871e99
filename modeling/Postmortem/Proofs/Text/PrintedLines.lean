import Postmortem.Proofs.Text.Numerals
import Postmortem.Proofs.Text.Words
import Postmortem.Stack.CallSite
import Postmortem.Text.Lines

/-!
# Printed lines

Listings are written line by line, and a line has a form of its own: a property with a label and
a value, or a row of columns. What is written in such a form is read back.

* `LineText`: a text that fits on a line, with nothing to cut off.
* `lines_unlines`: the lines of a text that was written line by line; without their last carriage
  returns if they have such (`lines_unlines_of_noFeed`).
* `lines_append_of_isEnded`: text behind an ended text adds its own lines.
* `labelled?_fieldLine`: a line is read around its first colon.
* `labelled?_property`: a property has the label and the value that it was written with.
* `pointerRow?_pointerRow`: a row has the columns that it was written with.
-/

namespace Postmortem.Text

variable {cs l w : List Char} {label : String}

/-- A text that fits on a line: not empty, without line feeds and without blanks at its edges. -/
structure LineText where
  text : String
  ne_nil : text.toList ≠ [] := by decide
  noFeed : '\n' ∉ text.toList := by decide
  trimmed : trim text.toList = text.toList := by decide

/-- The digits of a number, padded with zeros to `width`. -/
def LineText.hex (width n : ℕ) : LineText where
  text := .ofList (hexPadded width n)
  ne_nil := by
    rw [String.toList_ofList]
    exact hexPadded_ne_nil width n
  noFeed := by
    rw [String.toList_ofList]
    exact fun h => absurd (isHexDigit_of_mem_hexPadded h) (by decide)
  trimmed := by
    rw [String.toList_ofList]
    exact trimWhere_of_forall
      (forall_eq_false_of_run (fun _ => isHexDigit_of_mem_hexPadded) (by decide))

@[simp] theorem LineText.toList_hex (width n : ℕ) :
    (LineText.hex width n).text.toList = hexPadded width n := String.toList_ofList

/-! ## Lines -/

/-- A text that can be written as a line: no line feed belongs to it, and no carriage return at
its end. -/
def IsLine (l : List Char) : Prop := '\n' ∉ l ∧ l.getLast? ≠ some '\r'

instance (l : List Char) : Decidable (IsLine l) :=
  inferInstanceAs (Decidable ('\n' ∉ l ∧ l.getLast? ≠ some '\r'))

theorem IsLine.append (hcs : IsLine cs) (h : IsLine l) : IsLine (cs ++ l) := by
  refine ⟨by simp [hcs.1, h.1], ?_⟩
  rw [List.getLast?_append]
  cases hlast : l.getLast? with
  | none => exact hcs.2
  | some c =>
    rw [Option.some_or, ← hlast]
    exact h.2

theorem isLine_replicate (n : ℕ) : IsLine (List.replicate n ' ') := by
  refine ⟨fun h => absurd (List.eq_of_mem_replicate h) (by decide), fun h => ?_⟩
  exact absurd (List.eq_of_mem_replicate (List.mem_of_getLast? h)) (by decide)

/-- A trimmed text does not end in a carriage return. -/
theorem LineText.isLine (t : LineText) : IsLine t.text.toList := by
  refine ⟨t.noFeed, fun h => ?_⟩
  obtain ⟨hne, hc⟩ := List.mem_getLast?_eq_getLast h
  have hblank := (trim_eq_self_iff.1 t.trimmed hne).2
  rw [← hc] at hblank
  exact absurd hblank (by decide)

theorem LineText.trimStart_text (t : LineText) : trimStart t.text.toList = t.text.toList :=
  trimStart_eq_self_iff.2 fun h => (trim_eq_self_iff.1 t.trimmed h).1

theorem LineText.trimEnd_text (t : LineText) : trimEnd t.text.toList = t.text.toList :=
  trimEnd_eq_self_iff.2 fun h => (trim_eq_self_iff.1 t.trimmed h).2

theorem LineText.isLine_append (hfeed : '\n' ∉ l) (t : LineText) : IsLine (l ++ t.text.toList) := by
  have hlast : (l ++ t.text.toList).getLast? = t.text.toList.getLast? := by
    rw [List.getLast?_append, List.getLast?_eq_some_getLast t.ne_nil, Option.some_or]
  refine ⟨?_, hlast ▸ t.isLine.2⟩
  rw [List.mem_append, not_or]
  exact ⟨hfeed, t.noFeed⟩

/-- In front of a single line, a text without line feeds belongs to that line, unless it ends in a
carriage return that belongs to the line's end. -/
theorem lines_append_of_noFeed (hfeed : '\n' ∉ w) (hcs : lines cs = [l])
    (hreturn : w.getLast? = some '\r' → cs.head? ≠ some '\n') : lines (w ++ cs) = [w ++ l] := by
  induction w with
  | nil => exact hcs
  | cons c w ih =>
    have hfeed : c ≠ '\n' ∧ '\n' ∉ w := by simpa [eq_comm] using hfeed
    have hrest := ih hfeed.2 fun hlast => hreturn (by rw [List.getLast?_cons, hlast]; rfl)
    have hplain : ∀ rest, c = '\r' → w ++ cs ≠ '\n' :: rest := by
      rintro rest rfl hw
      cases w with
      | nil => exact hreturn rfl (by rw [show cs = '\n' :: rest from hw]; rfl)
      | cons d w =>
        rw [List.cons_append, List.cons.injEq] at hw
        exact hfeed.2 (by rw [hw.1]; exact List.mem_cons_self)
    rw [List.cons_append, lines.eq_4 _ _ hfeed.1 hplain, hrest, List.cons_append]

/-- A line without the carriage return at its end. -/
def withoutReturn (l : List Char) : List Char :=
  if l.getLast? = some '\r' then l.dropLast else l

theorem withoutReturn_of_isLine (h : IsLine l) : withoutReturn l = l := if_neg h.2

theorem prefix_withoutReturn (l : List Char) : withoutReturn l <+: l := by
  unfold withoutReturn
  split
  · exact List.dropLast_prefix l
  · exact List.prefix_refl l

/-- A carriage return at the end of a line is cut off with the blanks around it. -/
theorem trim_withoutReturn (l : List Char) : trim (withoutReturn l) = trim l := by
  unfold withoutReturn
  split
  case isTrue hlast =>
    obtain ⟨w, rfl⟩ := List.getLast?_eq_some_iff.1 hlast
    rw [List.dropLast_concat]
    exact (trimWhere_concat (by decide) w).symm
  case isFalse => rfl

/-- Where a line feed follows, a carriage return in front of it is no part of the line. -/
theorem lines_append_lineFeed_of_noFeed (h : '\n' ∉ l) : lines (l ++ ['\n']) = [withoutReturn l] := by
  unfold withoutReturn
  split
  case isTrue hlast =>
    obtain ⟨w, rfl⟩ := List.getLast?_eq_some_iff.1 hlast
    have hend : lines ['\r', '\n'] = [[]] := rfl
    rw [List.mem_append, not_or] at h
    have hlines := lines_append_of_noFeed h.1 hend fun _ hhead => by cases hhead
    rw [List.append_nil] at hlines
    rwa [List.append_assoc, List.singleton_append, List.dropLast_concat]
  case isFalse hlast =>
    have hend : lines ['\n'] = [[]] := rfl
    have hlines := lines_append_of_noFeed h hend fun hreturn => absurd hreturn hlast
    rwa [List.append_nil] at hlines

/-- A line may lack its end. -/
theorem lines_of_noFeed (hne : l ≠ []) (h : '\n' ∉ l) : lines l = [l] := by
  cases l using List.reverseRecOn with
  | nil => contradiction
  | append_singleton w c =>
    rw [List.mem_append, List.mem_singleton, not_or] at h
    have hc : '\n' ≠ c := h.2
    have hlast : lines [c] = [[c]] := by
      rw [lines.eq_4 _ _ hc.symm fun _ _ hnil => absurd hnil (List.cons_ne_nil _ _).symm]
      rfl
    exact lines_append_of_noFeed h.1 hlast fun _ hfeed => hc (Option.some.inj hfeed).symm

theorem unlines_cons (l : List Char) (ls : List (List Char)) :
    unlines (l :: ls) = l ++ '\n' :: unlines ls := by
  unfold unlines
  rw [List.flatMap_cons, List.append_assoc, List.singleton_append]

theorem infix_unlines {ls : List (List Char)} (h : l ∈ ls) : l <:+: unlines ls := by
  have hline : l ++ ['\n'] <:+: unlines ls := by
    unfold unlines
    rw [List.flatMap_def]
    exact List.infix_of_mem_flatten (List.mem_map_of_mem h)
  exact (List.prefix_append l ['\n']).isInfix.trans hline

/-- A text begins with its first line. -/
theorem prefix_of_head?_lines (h : (lines cs).head? = some l) : l <+: cs := by
  fun_induction lines cs generalizing l with
  | case1 => cases h
  | case2 rest ih => exact Option.some.inj h ▸ List.nil_prefix
  | case3 rest ih => exact Option.some.inj h ▸ List.nil_prefix
  | case4 c rest => exact Option.some.inj h ▸ List.prefix_append [c] rest
  | case5 c rest _ _ first others hlines ih =>
    rw [← Option.some.inj h]
    exact List.cons_prefix_cons.2 ⟨rfl, ih (by rw [hlines]; rfl)⟩

/-- Every line of a text is a part of it. -/
theorem infix_of_mem_lines (h : l ∈ lines cs) : l <:+: cs := by
  fun_induction lines cs generalizing l with
  | case1 => cases h
  | case2 rest ih =>
    rcases List.mem_cons.1 h with rfl | h
    · exact List.nil_infix
    · exact (ih h).trans (List.suffix_cons _ _).isInfix
  | case3 rest ih =>
    rcases List.mem_cons.1 h with rfl | h
    · exact List.nil_infix
    · exact (ih h).trans (List.suffix_append ['\r', '\n'] rest).isInfix
  | case4 c rest =>
    rw [List.mem_singleton.1 h]
    exact (List.prefix_append [c] rest).isInfix
  | case5 c rest _ _ first others hlines ih =>
    rcases List.mem_cons.1 h with rfl | h
    · have hfirst : first <+: rest := prefix_of_head?_lines (by rw [hlines]; rfl)
      exact (List.cons_prefix_cons.2 ⟨rfl, hfirst⟩).isInfix
    · exact (ih (by rw [hlines]; exact List.mem_cons_of_mem _ h)).trans (List.suffix_cons _ _).isInfix

/-- No line feed belongs to a line. -/
theorem noFeed_of_mem_lines (h : l ∈ lines cs) : '\n' ∉ l := by
  fun_induction lines cs generalizing l with
  | case1 => cases h
  | case2 rest ih =>
    rcases List.mem_cons.1 h with rfl | h
    · exact List.not_mem_nil
    · exact ih h
  | case3 rest ih =>
    rcases List.mem_cons.1 h with rfl | h
    · exact List.not_mem_nil
    · exact ih h
  | case4 c rest hc =>
    rw [List.mem_singleton.1 h, List.mem_singleton]
    exact fun hfeed => hc hfeed.symm
  | case5 c rest hc _ first others hlines ih =>
    rw [hlines] at ih
    rcases List.mem_cons.1 h with rfl | h
    · rw [List.mem_cons, not_or]
      exact ⟨fun hfeed => hc hfeed.symm, ih List.mem_cons_self⟩
    · exact ih (List.mem_cons_of_mem _ h)

/-- Lines that are written one after the other are read back, up to carriage returns at their
ends. -/
theorem lines_unlines_of_noFeed {ls : List (List Char)} (h : ∀ l ∈ ls, '\n' ∉ l) :
    lines (unlines ls) = ls.map withoutReturn := by
  induction ls with
  | nil => rfl
  | cons l ls ih =>
    rw [unlines_cons, lines_append, lines_append_lineFeed_of_noFeed (h l List.mem_cons_self),
      ih fun l hl => h l (List.mem_cons_of_mem _ hl), List.singleton_append, List.map_cons]

/-- **Lines that are written one after the other are the lines of the text.** -/
theorem lines_unlines {ls : List (List Char)} (h : ∀ l ∈ ls, IsLine l) :
    lines (unlines ls) = ls := by
  rw [lines_unlines_of_noFeed fun l hl => (h l hl).1]
  exact (List.map_congr_left fun l hl => withoutReturn_of_isLine (h l hl)).trans (List.map_id' ls)

/-- A text that is empty or ends in a line feed. -/
def IsEnded (cs : List Char) : Prop := cs.getLast?.all (· == '\n') = true

instance (cs : List Char) : Decidable (IsEnded cs) :=
  inferInstanceAs (Decidable (cs.getLast?.all (· == '\n') = true))

theorem eq_nil_or_eq_append_of_isEnded (h : IsEnded cs) : cs = [] ∨ ∃ w, cs = w ++ ['\n'] := by
  cases cs using List.reverseRecOn with
  | nil => exact .inl rfl
  | append_singleton w c =>
    have hc : c = '\n' := by
      unfold IsEnded at h
      rw [List.getLast?_concat] at h
      exact eq_of_beq h
    exact .inr ⟨w, by rw [hc]⟩

/-- An ended text keeps its lines when more text follows. -/
theorem lines_append_of_isEnded (h : IsEnded cs) (w : List Char) :
    lines (cs ++ w) = lines cs ++ lines w := by
  rcases eq_nil_or_eq_append_of_isEnded h with rfl | ⟨start, rfl⟩
  · rfl
  · rw [List.append_assoc, List.singleton_append, lines_append]

/-- A text is cut in front of its last line, which lacks its end. -/
theorem exists_isEnded_append (cs : List Char) :
    ∃ front l, IsEnded front ∧ '\n' ∉ l ∧ cs = front ++ l := by
  induction cs using List.reverseRecOn with
  | nil => exact ⟨[], [], rfl, List.not_mem_nil, rfl⟩
  | append_singleton cs c ih =>
    obtain ⟨front, l, hfront, hl, rfl⟩ := ih
    by_cases hc : c = '\n'
    · exact ⟨front ++ l ++ [c], [], by simp [IsEnded, hc], List.not_mem_nil, by simp⟩
    · exact ⟨front, l ++ [c], hfront, by simp [hl, Ne.symm hc], List.append_assoc front l [c]⟩

theorem isEnded_unlines (ls : List (List Char)) : IsEnded (unlines ls) := by
  cases ls using List.reverseRecOn with
  | nil => rfl
  | append_singleton ls l =>
    unfold IsEnded unlines
    rw [List.flatMap_append, List.flatMap_singleton, ← List.append_assoc, List.getLast?_concat]
    rfl

/-! ## Properties -/

/-- The first place where a character occurs cuts the text. -/
theorem cutAt?_append {c : Char} (h : c ∉ w) (cs : List Char) :
    cutAt? [c] (w ++ c :: cs) = some (w, cs) := by
  induction w with
  | nil => simp [cutAt?]
  | cons d w ih =>
    have hd : (c == d) = false := by
      rw [beq_eq_false_iff_ne]
      rintro rfl
      exact h List.mem_cons_self
    rw [List.cons_append, cutAt?, ih fun hc => h (List.mem_cons_of_mem _ hc)]
    simp [List.isPrefixOf, hd]

/-- The line of a field: what stands in front of its first colon and behind it. -/
def fieldLine (front value : List Char) : List Char := front ++ ':' :: value

/-- **A line is read around its first colon**, without the blanks around label and value. -/
theorem labelled?_fieldLine (hcolon : ':' ∉ w) (hne : trim w ≠ [])
    (hshort : byteLength (trim w) ≤ maxLabelLength) (value : List Char) :
    labelled? (fieldLine w value) = some (.ofList (trim w), trim value) := by
  have hcut : cutAt? [':'] (fieldLine w value) = some (w, value) := cutAt?_append hcolon value
  have hlabel : (trim w).isEmpty = false := by simpa using hne
  unfold labelled?
  simp only [hcut, hlabel, hshort, bind, Option.bind, guard, decide_true, Bool.not_false,
    Bool.and_true, if_true, pure]

/-- A line is trimmed around its first colon. -/
theorem trim_fieldLine (hne : trim w ≠ []) (value : List Char) :
    trim (fieldLine w value) = fieldLine (trimStart w) (trimEnd value) := by
  have hstart : trimStart w ≠ [] := by
    intro h
    have htrim : trim w = trimEnd (trimStart w) := rfl
    exact hne (by rw [htrim, h]; rfl)
  have hcolon : isBlank ((trimStart w ++ [':']).getLast (by simp)) = false := by
    rw [List.getLast_concat]
    decide
  calc trim (fieldLine w value)
      = trimEnd (trimStart (w ++ ':' :: value)) := rfl
    _ = trimEnd (trimStart w ++ [':'] ++ value) := by
        rw [trimStart_append_of_ne_nil hstart, List.append_cons]
    _ = trimStart w ++ [':'] ++ trimEnd value := dropEndWhile_append (by simp) hcolon value
    _ = fieldLine (trimStart w) (trimEnd value) := (List.append_cons _ _ _).symm

theorem trim_fieldLine_ne_nil (hne : trim w ≠ []) (value : List Char) :
    trim (fieldLine w value) ≠ [] := by
  rw [trim_fieldLine hne]
  exact List.append_ne_nil_of_right_ne_nil _ (List.cons_ne_nil _ _)

/-- A text that can be the label of a property. -/
@[mk_iff]
structure IsLabel (label : String) : Prop where
  ne_nil : label.toList ≠ []
  trimmed : trim label.toList = label.toList
  noColon : ':' ∉ label.toList
  noFeed : '\n' ∉ label.toList
  short : byteLength label.toList ≤ maxLabelLength

instance (label : String) : Decidable (IsLabel label) := decidable_of_iff' _ (isLabel_iff label)

/-- A property: a label, a colon, some spaces and a value. -/
def property (label : String) (spaces : ℕ) (value : LineText) : List Char :=
  label.toList ++ (':' :: List.replicate spaces ' ' ++ value.text.toList)

/-- **A property has the label and the value that it was written with.** -/
theorem labelled?_property (hlabel : IsLabel label) (spaces : ℕ) (value : LineText) :
    labelled? (property label spaces value) = some (label, value.text.toList) := by
  have hline := labelled?_fieldLine hlabel.noColon (by rw [hlabel.trimmed]; exact hlabel.ne_nil)
    (by rw [hlabel.trimmed]; exact hlabel.short) (List.replicate spaces ' ' ++ value.text.toList)
  rwa [hlabel.trimmed, trim_replicate_append, value.trimmed, String.ofList_toList] at hline

/-- Neither the first nor the last character of a property is blank. -/
theorem trim_property (hlabel : IsLabel label) (spaces : ℕ) (value : LineText) :
    trim (property label spaces value) = property label spaces value :=
  trim_between hlabel.trimmed hlabel.ne_nil value.trimmed value.ne_nil _

theorem property_ne_nil (hlabel : IsLabel label) (spaces : ℕ) (value : LineText) :
    property label spaces value ≠ [] := List.append_ne_nil_of_left_ne_nil hlabel.ne_nil _

theorem isLine_property (hlabel : IsLabel label) (spaces : ℕ) (value : LineText) :
    IsLine (property label spaces value) := by
  unfold property
  rw [← List.append_assoc]
  refine value.isLine_append ?_
  simp [hlabel.noFeed]

/-! ## Columns -/

/-- A run without blanks ends at a blank or with the text. -/
theorem takeWhile_append_blank (hw : ∀ c ∈ w, isBlank c = false)
    (hend : ∀ c ∈ cs.head?, isBlank c = true) :
    (w ++ cs).takeWhile (!isBlank ·) = w ∧ (w ++ cs).dropWhile (!isBlank ·) = cs :=
  takeWhile_append_run (fun c hc => by simp [hw c hc]) fun c hc => by simp [hend c hc]

theorem isBlank_of_mem_head?_space : ∀ c ∈ (' ' :: cs).head?, isBlank c = true := by
  intro c hc
  rw [← Option.some.inj hc]
  decide

/-- A scan that reads something goes on with what it left. -/
theorem Scan.bind_of_eq_some {α β : Type} {scan : Scan α} {a : α} {rest : List Char}
    (h : scan cs = some (a, rest)) (next : α → Scan β) : (scan >>= next) cs = next a rest := by
  show (scan cs).bind _ = _
  rw [h]
  rfl

/-- A scan that reads something needs no other one. -/
theorem Scan.orElse_of_eq_some {α : Type} {scan : Scan α} {a : α} {rest : List Char}
    (h : scan cs = some (a, rest)) (other : Scan α) : (scan <|> other) cs = some (a, rest) := by
  show (scan cs <|> other cs) = _
  rw [h]
  rfl

/-- A scan that reads nothing does not go on. -/
theorem Scan.bind_of_eq_none {α β : Type} {scan : Scan α} (h : scan cs = none)
    (next : α → Scan β) : (scan >>= next) cs = none := by
  show (scan cs).bind _ = _
  rw [h]
  rfl

/-- Blanks are skipped before anything is read. -/
theorem Scan.bind_blanks {β : Type} (next : Unit → Scan β) (cs : List Char) :
    (Scan.blanks >>= next) cs = next () (trimStart cs) := rfl

theorem Scan.front?_of_eq_some {α : Type} {scan : Scan α} {a : α} {rest : List Char}
    (h : scan cs = some (a, rest)) : Scan.front? scan cs = some a :=
  congrArg (Option.map Prod.fst) h

theorem Scan.front?_of_eq_none {α : Type} {scan : Scan α} (h : scan cs = none) :
    Scan.front? scan cs = none := congrArg (Option.map Prod.fst) h

theorem Scan.column_append (hne : w ≠ []) (hw : ∀ c ∈ w, isBlank c = false)
    (hend : ∀ c ∈ cs.head?, isBlank c = true) : Scan.column (w ++ cs) = some (w, cs) := by
  obtain ⟨htake, hdrop⟩ := takeWhile_append_blank hw hend
  unfold Scan.column Scan.span1
  rw [htake, hdrop]
  split
  · contradiction
  · rfl

theorem Scan.blanks1_space (cs : List Char) :
    Scan.blanks1 (' ' :: cs) = some ((), trimStart cs) := by
  have hblank : isBlank ' ' = true := by decide
  have hspan : Scan.span1 isBlank (' ' :: cs) =
      some (' ' :: cs.takeWhile isBlank, trimStart cs) := by
    unfold Scan.span1
    rw [List.takeWhile_cons_of_pos hblank, List.dropWhile_cons_of_pos hblank]
    rfl
  unfold Scan.blanks1
  rw [Scan.bind_of_eq_some hspan]
  rfl

theorem Scan.literal_append (s : String) (cs : List Char) :
    Scan.literal s (s.toList ++ cs) = some ((), cs) := by
  have hrest : s.toList.isPrefixOf? (s.toList ++ cs) = some cs :=
    List.isPrefixOf?_eq_some_iff_append_eq.2 rfl
  unfold Scan.literal
  rw [hrest]
  rfl

theorem Scan.literal_eq_none {s : String} (h : ¬ s.toList <+: cs) : Scan.literal s cs = none := by
  have hnone : s.toList.isPrefixOf? cs = none := by
    cases hx : s.toList.isPrefixOf? cs with
    | none => rfl
    | some rest =>
      rw [List.isPrefixOf?_eq_some_iff_append_eq] at hx
      exact absurd ⟨rest, hx⟩ h
  unfold Scan.literal
  rw [hnone]
  rfl

/-- A column of its class is read, and so are the blanks behind it. -/
theorem columnThen_append {p : List Char → Bool} (hne : w ≠ [])
    (hw : ∀ c ∈ w, isBlank c = false) (hp : p w = true) (cs : List Char) :
    Scan.columnThen p (w ++ ' ' :: cs) = some (w, trimStart cs) := by
  unfold Scan.columnThen
  rw [Scan.bind_of_eq_some (Scan.column_append hne hw isBlank_of_mem_head?_space)]
  simp only [hp, guard, if_true, pure_bind]
  rw [Scan.bind_of_eq_some (Scan.blanks1_space cs)]
  rfl

/-- A column that is not of its class is not read. -/
theorem columnThen_eq_none {p : List Char → Bool} (hp : p (cs.takeWhile (!isBlank ·)) = false) :
    Scan.columnThen p cs = none := by
  unfold Scan.columnThen
  cases hword : cs.takeWhile (!isBlank ·) with
  | nil =>
    refine Scan.bind_of_eq_none ?_ _
    unfold Scan.column Scan.span1
    rw [hword]
  | cons c rest =>
    have hcolumn : Scan.column cs = some (c :: rest, cs.dropWhile (!isBlank ·)) := by
      unfold Scan.column Scan.span1
      rw [hword]
    rw [hword] at hp
    rw [Scan.bind_of_eq_some hcolumn]
    simp only [hp, guard, Bool.false_eq_true, if_false]
    rfl

/-- A text without blanks at its end is read as a last column. -/
theorem lastColumn_of_trimEnd (hne : cs ≠ []) (h : trimEnd cs = cs) :
    Scan.lastColumn cs = some (cs, []) := by
  unfold Scan.lastColumn
  rw [h]
  split
  · contradiction
  · rfl

theorem lastColumn_text (t : LineText) :
    Scan.lastColumn t.text.toList = some (t.text.toList, []) :=
  lastColumn_of_trimEnd t.ne_nil t.trimEnd_text

/-- A run of digits has no prefix. -/
theorem dropHexPrefix_of_run (h : ∀ c ∈ w, isHexDigit c = true) : dropHexPrefix w = w := by
  unfold dropHexPrefix
  cases hx : "0x".toList.isPrefixOf? w with
  | none => rfl
  | some rest =>
    rw [List.isPrefixOf?_eq_some_iff_append_eq] at hx
    exact absurd (h 'x' (by rw [← hx]; simp)) (by decide)

/-- A pointer as rows hold it: eight to sixteen hexadecimal digits. -/
structure IsPointer (cs : List Char) : Prop where
  run : ∀ c ∈ cs, isHexDigit c = true
  low : 8 ≤ cs.length
  high : cs.length ≤ 16

namespace IsPointer

theorem isHexColumn (h : IsPointer w) : isHexColumn 8 16 w = true := by
  unfold Text.isHexColumn
  simp [dropHexPrefix_of_run h.run, List.all_eq_true.2 h.run, h.low, h.high]

theorem ne_nil (h : IsPointer w) : w ≠ [] := List.ne_nil_of_length_pos (by have := h.low; omega)

theorem isBlank_of_mem (h : IsPointer w) : ∀ c ∈ w, isBlank c = false :=
  forall_eq_false_of_run h.run (by decide)

theorem noFeed (h : IsPointer w) : '\n' ∉ w := fun hc => absurd (h.run _ hc) (by decide)

/-- A pointer in front of a space is read as a column. -/
theorem pointer_append (h : IsPointer w) (cs : List Char) :
    pointerRow?.pointer (w ++ ' ' :: cs) = some (w, trimStart cs) :=
  columnThen_append h.ne_nil h.isBlank_of_mem h.isHexColumn cs

theorem trimStart_append (h : IsPointer w) (cs : List Char) : trimStart (w ++ cs) = w ++ cs := by
  refine trimStart_eq_self_iff.2 fun hne => ?_
  rw [List.head_append_of_ne_nil h.ne_nil]
  exact h.isBlank_of_mem _ (List.head_mem _)

end IsPointer

/-- The first word of a row with a pointer is the pointer. -/
theorem isHexColumn_of_pointerRow? {line : List Char} (h : (pointerRow? line).isSome = true) :
    isHexColumn 8 16 ((trim line).takeWhile (!isBlank ·)) = true := by
  have hword : (trim line).takeWhile (!isBlank ·) = (trimStart line).takeWhile (!isBlank ·) :=
    takeWhile_trimEnd (trimStart line)
  rw [hword]
  by_contra hno
  have hscan : pointerRow?.scan line = none := by
    unfold pointerRow?.scan
    rw [Scan.bind_blanks]
    exact Scan.bind_of_eq_none (columnThen_eq_none (Bool.eq_false_iff.2 hno)) _
  have hnone : pointerRow? line = none := Scan.front?_of_eq_none hscan
  rw [hnone] at h
  cases h

/-- A row of two pointers and a call site. -/
def pointerRow (indent : ℕ) (sp ip : List Char) (site : LineText) : List Char :=
  List.replicate indent ' ' ++ (sp ++ ' ' :: (ip ++ ' ' :: site.text.toList))

theorem trimStart_pointerRow {sp ip : List Char} (hsp : IsPointer sp) (indent : ℕ)
    (site : LineText) :
    trimStart (pointerRow indent sp ip site) = sp ++ ' ' :: (ip ++ ' ' :: site.text.toList) := by
  unfold pointerRow
  rw [trimStart_replicate_append, hsp.trimStart_append]

/-- Trimmed, a row begins with the first pointer. -/
theorem trim_pointerRow {sp ip : List Char} (hsp : IsPointer sp) (indent : ℕ) (site : LineText) :
    trim (pointerRow indent sp ip site) = sp ++ ' ' :: (ip ++ ' ' :: site.text.toList) := by
  have hrun : trim sp = sp := trimWhere_of_forall hsp.isBlank_of_mem
  unfold pointerRow
  rw [trim_replicate_append]
  simpa using trim_between hrun hsp.ne_nil site.trimmed site.ne_nil (' ' :: (ip ++ [' ']))

theorem isLine_pointerRow {sp ip : List Char} (hsp : IsPointer sp) (hip : IsPointer ip)
    (indent : ℕ) (site : LineText) : IsLine (pointerRow indent sp ip site) := by
  have hrow : pointerRow indent sp ip site =
      (List.replicate indent ' ' ++ sp ++ ' ' :: (ip ++ [' '])) ++ site.text.toList := by
    unfold pointerRow
    simp
  rw [hrow]
  refine site.isLine_append ?_
  simp [hsp.noFeed, hip.noFeed]

/-- **A row has the columns that it was written with.** -/
theorem pointerRow?_pointerRow {sp ip : List Char} (hsp : IsPointer sp) (hip : IsPointer ip)
    (indent : ℕ) (site : LineText) : pointerRow? (pointerRow indent sp ip site) =
      some (sp, some ip, site.text.toList) := by
  have hfirst := hsp.pointer_append (ip ++ ' ' :: site.text.toList)
  rw [hip.trimStart_append] at hfirst
  have hsecond := hip.pointer_append site.text.toList
  rw [site.trimStart_text] at hsecond
  have hscan : pointerRow?.scan (pointerRow indent sp ip site) =
      some ((sp, some ip, site.text.toList), []) := by
    unfold pointerRow?.scan
    rw [Scan.bind_blanks, trimStart_pointerRow hsp, Scan.bind_of_eq_some hfirst]
    refine Scan.orElse_of_eq_some ?_ _
    rw [Scan.bind_of_eq_some hsecond, Scan.bind_of_eq_some (lastColumn_text site)]
    rfl
  exact Scan.front?_of_eq_some hscan

end Postmortem.Text
