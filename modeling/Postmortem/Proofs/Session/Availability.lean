import Postmortem.Proofs.Text.PrintedLines
import Postmortem.Proofs.Text.SmallLetters
import Postmortem.Session.Availability

/-!
# What decides whether an output is an answer

A phrase makes an output unavailable only in one of its first lines that are not blank, and only if
this line is no field of a record. The label alone makes a line a field
(`isRecordField_fieldLine`). So the values of fields cannot make an output unavailable, and neither
can anything behind the first lines: outputs that differ only there differ in data
(`DiffersInData`).

* `shownLines_append_cons`: a line feed separates the lines that are looked at.
* `headLines_replace`: among the first of them, one field is as good as another.
* `headLines_append`: what is behind the first lines does not matter.
* `unavailablePhrase?_eq_of_differsInData`: **data cannot make an output unavailable.**
-/

namespace Postmortem

open Text

variable {w cs label : List Char}

/-! ## Fields -/

/-- Only the text in front of the first colon decides whether a line is a field of a record. -/
theorem isRecordField_append (h : ':' ∉ w) (cs : List Char) :
    isRecordField (w ++ ':' :: cs) =
      (!(trim w).isEmpty && (trim w).all isLabelChar &&
        !diagnosticLabels.contains (.ofList (trim w))) := by
  unfold isRecordField
  rw [cutAt?_append h]

/-- A text that makes a line a field of a record, in front of its first colon: with or without
blanks around it, a label that is in no case one of the debugger's own. -/
@[mk_iff]
structure IsFieldLabel (label : List Char) : Prop where
  noFeed : '\n' ∉ label
  ne_nil : trim label ≠ []
  chars : (trim label).all isLabelChar = true
  notDiagnostic : String.ofList (asciiLower (trim label)) ∉ diagnosticLabels

instance (label : List Char) : Decidable (IsFieldLabel label) :=
  decidable_of_iff' _ (isFieldLabel_iff label)

theorem IsFieldLabel.noColon (h : IsFieldLabel label) : ':' ∉ label := by
  obtain ⟨front, behind, hfront, hbehind, heq⟩ := exists_eq_append_trimWhere isBlank label
  rw [heq, List.mem_append, List.mem_append]
  rintro (hc | hc | hc)
  · exact absurd (hfront _ hc) (by decide)
  · exact absurd (List.all_eq_true.1 h.chars _ hc) (by decide)
  · exact absurd (hbehind _ hc) (by decide)

theorem isLabelChar_toLower (c : Char) : isLabelChar c.toLower = isLabelChar c :=
  apply_toLower (by decide) c

/-- **The label alone makes a line a field**, whatever its value is. -/
theorem isRecordField_fieldLine (h : IsFieldLabel label) (value : List Char) :
    isRecordField (asciiLower (trim (fieldLine label value))) = true := by
  have hlower : asciiLower (trim (fieldLine label value)) =
      asciiLower (trimStart label) ++ ':' :: asciiLower (trimEnd value) := by
    rw [trim_fieldLine h.ne_nil]
    exact List.map_append
  have hcolon : ':' ∉ asciiLower (trimStart label) := by
    rw [mem_asciiLower_iff (by decide)]
    exact fun hmem => h.noColon ((List.dropWhile_sublist _).subset hmem)
  have hlabel : trim (asciiLower (trimStart label)) = asciiLower (trim label) := by
    rw [trim_asciiLower]
    unfold trim trimWhere trimStart
    rw [List.dropWhile_idempotent]
  have hne : (asciiLower (trim label)).isEmpty = false := by
    simpa [asciiLower] using h.ne_nil
  have hchars : (asciiLower (trim label)).all isLabelChar = true := by
    rw [List.all_eq_true]
    intro c hc
    obtain ⟨d, hd, rfl⟩ := List.mem_map.1 hc
    rw [isLabelChar_toLower]
    exact List.all_eq_true.1 h.chars d hd
  have hdiagnostic : diagnosticLabels.contains (.ofList (asciiLower (trim label))) = false := by
    simpa using h.notDiagnostic
  rw [hlower, isRecordField_append hcolon, hlabel, hne, hchars, hdiagnostic]
  rfl

/-! ## First lines -/

/-- The lines of an output that are not blank, trimmed. -/
def shownLines (output : List Char) : List (List Char) :=
  ((lines output).map trim).filter (!·.isEmpty)

theorem headLines_eq (output : List Char) : headLines output =
    (((shownLines output).take headLength).map asciiLower).filter (!isRecordField ·) := rfl

theorem shownLines_append_of_isEnded (h : IsEnded cs) (rest : List Char) :
    shownLines (cs ++ rest) = shownLines cs ++ shownLines rest := by
  unfold shownLines
  rw [lines_append_of_isEnded h, List.map_append, List.filter_append]

/-- The last line of an output may lack its end. -/
theorem shownLines_of_noFeed (h : '\n' ∉ cs) :
    shownLines cs = [trim cs].filter (!·.isEmpty) := by
  rcases eq_or_ne cs [] with rfl | hne
  · rfl
  · unfold shownLines
    rw [lines_of_noFeed hne h]
    rfl

theorem shownLines_append_lineFeed (h : '\n' ∉ cs) :
    shownLines (cs ++ ['\n']) = [trim cs].filter (!·.isEmpty) := by
  -- a carriage return belongs to the line's end, and would be trimmed otherwise
  unfold shownLines
  rw [lines_append_lineFeed_of_noFeed h, List.map_singleton, trim_withoutReturn]

/-- **A line feed separates the lines that are looked at.** -/
theorem shownLines_append_cons (cs rest : List Char) :
    shownLines (cs ++ '\n' :: rest) = shownLines cs ++ shownLines rest := by
  -- only the last line of `cs` is read differently with a line feed behind it
  obtain ⟨front, l, hfront, hl, rfl⟩ := exists_isEnded_append cs
  have hended : IsEnded (l ++ ['\n']) := by simp [IsEnded]
  rw [List.append_assoc, shownLines_append_of_isEnded hfront, shownLines_append_of_isEnded hfront,
    List.append_cons, shownLines_append_of_isEnded hended, shownLines_append_lineFeed hl,
    shownLines_of_noFeed hl, List.append_assoc]

/-- A text that is empty or begins with a line feed, which ends the line in front of it. -/
def EndsLine (cs : List Char) : Prop := cs.head?.all (· == '\n') = true

instance (cs : List Char) : Decidable (EndsLine cs) :=
  inferInstanceAs (Decidable (cs.head?.all (· == '\n') = true))

theorem shownLines_append_of_endsLine (h : EndsLine cs) (front : List Char) :
    shownLines (front ++ cs) = shownLines front ++ shownLines cs := by
  cases cs with
  | nil => rw [List.append_nil, show shownLines [] = [] from rfl, List.append_nil]
  | cons c cs =>
    have hc : c = '\n' := eq_of_beq h
    have hfeed : shownLines ('\n' :: cs) = shownLines cs := shownLines_append_cons [] cs
    rw [hc, shownLines_append_cons, hfeed]

/-- The line of a field is not blank. -/
theorem shownLines_fieldLine (h : IsFieldLabel label) {value : List Char} (hvalue : '\n' ∉ value) :
    shownLines (fieldLine label value) = [trim (fieldLine label value)] := by
  have hfeed : '\n' ∉ fieldLine label value := by
    unfold fieldLine
    simp [h.noFeed, hvalue]
  rw [shownLines_of_noFeed hfeed, List.filter_cons_of_pos, List.filter_nil]
  simpa using trim_fieldLine_ne_nil h.ne_nil value

/-- **Among the first lines, one field is as good as another.** -/
theorem headLines_replace {output output' : List Char} {front behind : List (List Char)}
    {line line' : List Char} (h : shownLines output = front ++ line :: behind)
    (h' : shownLines output' = front ++ line' :: behind)
    (hfield : isRecordField (asciiLower line) = true)
    (hfield' : isRecordField (asciiLower line') = true) : headLines output = headLines output' := by
  rw [headLines_eq, headLines_eq, h, h', List.take_append, List.take_append]
  -- the field is in the first lines or behind them, whatever its value is
  cases headLength - front.length with
  | zero => rw [List.take_zero, List.take_zero]
  | succ n => simp [hfield, hfield']

/-- If the first lines are fields of a record, nothing is left to look at. -/
theorem headLines_eq_nil {output : List Char} {first rest : List (List Char)}
    (hlines : lines output = first ++ rest) (hlen : headLength ≤ first.length)
    (h : ∀ l ∈ first, trim l ≠ [] ∧ isRecordField (asciiLower (trim l)) = true) :
    headLines output = [] := by
  have hkept : (first.map trim).filter (!·.isEmpty) = first.map trim := by
    refine List.filter_eq_self.2 fun t ht => ?_
    obtain ⟨l, hl, rfl⟩ := List.mem_map.1 ht
    simpa using (h l hl).1
  have hhead : headLength ≤ (first.map trim).length := by rwa [List.length_map]
  unfold headLines
  simp only [hlines, List.map_append, List.filter_append, hkept,
    List.take_append_of_le_length hhead]
  refine List.filter_eq_nil_iff.2 fun lowered hlowered => ?_
  obtain ⟨t, ht, rfl⟩ := List.mem_map.1 hlowered
  obtain ⟨l, hl, rfl⟩ := List.mem_map.1 (List.mem_of_mem_take ht)
  simp [(h l hl).2]

/-! ## Data -/

/-- **Two outputs differ in data only**: in the value of a field, or in what stands behind the
third line that is not blank, where lines may have been appended. -/
inductive DiffersInData : List Char → List Char → Prop
  | value {front label value value' behind : List Char} (hfront : IsEnded front)
    (hlabel : IsFieldLabel label) (hvalue : '\n' ∉ value) (hvalue' : '\n' ∉ value')
    (hbehind : EndsLine behind) :
    DiffersInData (front ++ (fieldLine label value ++ behind))
      (front ++ (fieldLine label value' ++ behind))
  | rest {front behind behind' : List Char} (hfront : 3 ≤ (shownLines front).length)
    (hbehind : IsEnded front ∨ EndsLine behind) (hbehind' : IsEnded front ∨ EndsLine behind') :
    DiffersInData (front ++ behind) (front ++ behind')

/-- Only the first lines that are not blank are looked at. -/
theorem headLines_append {front behind : List Char} (hfront : 3 ≤ (shownLines front).length)
    (hbehind : IsEnded front ∨ EndsLine behind) : headLines (front ++ behind) = headLines front := by
  have hsplit : shownLines (front ++ behind) = shownLines front ++ shownLines behind := by
    rcases hbehind with hended | hends
    · exact shownLines_append_of_isEnded hended behind
    · exact shownLines_append_of_endsLine hends front
  rw [headLines_eq, headLines_eq, hsplit,
    List.take_append_of_le_length (show headLength ≤ _ from hfront)]

theorem headLines_eq_of_differsInData {output output' : List Char}
    (h : DiffersInData output output') : headLines output = headLines output' := by
  cases h with
  | @value front label value value' behind hfront hlabel hvalue hvalue' hbehind =>
    have hshown : ∀ v : List Char, '\n' ∉ v → shownLines (front ++ (fieldLine label v ++ behind)) =
        shownLines front ++ trim (fieldLine label v) :: shownLines behind := by
      intro v hv
      rw [shownLines_append_of_isEnded hfront, shownLines_append_of_endsLine hbehind,
        shownLines_fieldLine hlabel hv, List.singleton_append]
    exact headLines_replace (hshown value hvalue) (hshown value' hvalue')
      (isRecordField_fieldLine hlabel value) (isRecordField_fieldLine hlabel value')
  | rest hfront hbehind hbehind' =>
    rw [headLines_append hfront hbehind, headLines_append hfront hbehind']

/-- **Data cannot make an output unavailable**, and it cannot hide that it is. -/
theorem unavailablePhrase?_eq_of_differsInData {output output' : String}
    (h : DiffersInData output.toList output'.toList) :
    unavailablePhrase? output = unavailablePhrase? output' := by
  unfold unavailablePhrase?
  rw [headLines_eq_of_differsInData h]

/-- The message of an exception says what a debugger says that has no such command, and blank lines
stand around it. -/
theorem unavailablePhrase?_eq_of_differsInData_message :
    let front := "Exception type: System.NotSupportedException\r\n\n".toList
    let label := " Message".toList
    let value := " Specified method is not supported.\r".toList
    let value' := " fine: all commands are there".toList
    let output := String.ofList (front ++ (fieldLine label value ++ ['\n']))
    let output' := String.ofList (front ++ (fieldLine label value' ++ ['\n']))
    DiffersInData output.toList output'.toList ∧
      mentions output "not supported" = true ∧ unavailablePhrase? output' = none ∧
      unavailablePhrase? output = unavailablePhrase? output' := by
  intro front label value value' output output'
  have h : DiffersInData output.toList output'.toList := by
    rw [String.toList_ofList, String.toList_ofList]
    exact .value (by decide) (by decide) (by decide) (by decide) (by decide)
  exact ⟨h, by decide +kernel, by decide +kernel, unavailablePhrase?_eq_of_differsInData h⟩

end Postmortem
