import Postmortem.Proofs.Exception.Printing
import Postmortem.Proofs.Exception.Separation
import Postmortem.Proofs.Session.Availability

/-!
# Sections of printed chains

Three readers look at the text of a chain: the session asks whether it says that there is no
answer, the rules between its sections are searched, and each section is read line by line. They
agree on what the printer wrote, whatever the messages of the exceptions say.

* `isPlain_of_mem_printed`: the lines of a section can be written, and none of them is a rule.
* `nestedSections_text`: so the rules in the text separate its sections.
* `ofListing?_sections`: each section is read as the record of its exception.
* `unavailablePhrase?_text`: a printed chain is an answer, since its first lines are fields of a
  record.
-/

namespace Postmortem

open Text

/-! ## Lines of a section -/

/-- A line of a section can be written and is no rule. -/
structure IsPlain (l : List Char) : Prop where
  isLine : IsLine l
  noRule : isNestedRule l = false

theorem isNestedRule_eq_false {l : List Char} (h : (trimStart l).head? ≠ some 'N') :
    isNestedRule l = false := by
  unfold isNestedRule
  cases hl : trimStart l with
  | nil => rfl
  | cons c rest =>
    have hN : ('N' == c) = false := by
      rw [beq_eq_false_iff_ne]
      rintro rfl
      exact h (by rw [hl]; rfl)
    simp [List.isPrefixOf, hN]

theorem isPlain_property {label : String} (hlabel : IsLabel label)
    (hN : label.toList.head? ≠ some 'N') (spaces : ℕ) (value : LineText) :
    IsPlain (property label spaces value) := by
  have hstart : trimStart (property label spaces value) = property label spaces value :=
    trimStart_eq_self_iff.2 fun h => (trim_eq_self_iff.1 (trim_property hlabel spaces value) h).1
  have hhead : (property label spaces value).head? = label.toList.head? :=
    List.head?_append_of_ne_nil _ hlabel.ne_nil
  refine ⟨isLine_property hlabel spaces value, isNestedRule_eq_false ?_⟩
  rwa [hstart, hhead]

theorem isPlain_place (place : TracePlace) : IsPlain place.line := by
  have hsp := isPointer_pointerText place.stackPointer
  have hip := isPointer_pointerText place.instructionPointer
  refine ⟨isLine_pointerRow hsp hip 4 place.site, isNestedRule_eq_false ?_⟩
  unfold TracePlace.line
  rw [trimStart_pointerRow hsp, List.head?_append_of_ne_nil _ hsp.ne_nil]
  intro hN
  exact absurd (hsp.run 'N' (List.mem_of_mem_head? hN)) (by decide)

theorem isPlain_traceTable (places : List TracePlace) : ∀ l ∈ traceTable places, IsPlain l := by
  intro l hl
  cases places with
  | nil =>
    rw [traceTable, List.mem_singleton] at hl
    rw [hl]
    exact ⟨missingValue.isLine, by decide⟩
  | cons place places =>
    rw [traceTable, List.mem_cons] at hl
    rcases hl with rfl | hl
    · exact ⟨by decide, by decide⟩
    · obtain ⟨place, -, rfl⟩ := List.mem_map.1 hl
      exact isPlain_place place

/-- **The lines of a section can be written, and none of them is a rule.** -/
theorem isPlain_of_mem_printed {e : PrintedException} {inner? : Option PrintedException}
    {l : List Char} (h : l ∈ e.printed inner?) : IsPlain l := by
  have hblank : IsPlain [] := ⟨by decide, by decide⟩
  have hheading : IsPlain traceHeading := ⟨by decide, by decide⟩
  unfold PrintedException.printed PrintedException.head at h
  simp only [List.mem_append, List.mem_cons, List.not_mem_nil, or_false, List.mem_map] at h
  rcases h with (((((rfl | rfl | rfl) | (rfl | rfl)) | h) | (rfl | rfl)) | ⟨code, -, rfl⟩) |
    ⟨inner, -, rfl⟩
  · exact isPlain_property (by decide) (by decide) _ _
  · exact isPlain_property (by decide) (by decide) _ _
  · exact isPlain_property (by decide) (by decide) _ _
  · exact isPlain_property (by decide) (by decide) _ _
  · exact hheading
  · exact isPlain_traceTable e.places l h
  · exact hblank
  · exact isPlain_property (by decide) (by decide) _ _
  · exact isPlain_property (by decide) (by decide) _ _
  · exact hblank

/-! ## Sections -/

/-- Parts without separators are found between the separators. -/
theorem splitOnP_intercalate {α : Type} {p : α → Bool} {sep : α} (hsep : p sep = true) :
    ∀ {parts : List (List α)}, parts ≠ [] → (∀ part ∈ parts, ∀ x ∈ part, p x = false) →
      ([sep].intercalate parts).splitOnP p = parts
  | [part], _, h => by
    rw [List.intercalate_singleton]
    exact List.splitOnP_eq_singleton (h part List.mem_cons_self)
  | part :: next :: parts, _, h => by
    rw [List.intercalate_cons_cons, List.append_assoc, List.singleton_append,
      List.splitOnP_append_cons_of_forall_mem (h part List.mem_cons_self) sep hsep,
      splitOnP_intercalate hsep (List.cons_ne_nil next parts)
        fun other ho => h other (List.mem_cons_of_mem part ho)]

namespace PrintedException

variable {es : List PrintedException}

theorem listing_singleton (e : PrintedException) : listing [e] = e.printed none :=
  List.intercalate_singleton

theorem listing_cons_cons (e inner : PrintedException) (es : List PrintedException) :
    listing (e :: inner :: es) =
      e.printed (some inner) ++ nestedRule :: listing (inner :: es) := by
  unfold listing sections
  rw [sections, List.intercalate_cons_cons, List.append_assoc, List.singleton_append]
  rfl

theorem isLine_of_mem_listing : ∀ {es : List PrintedException}, ∀ l ∈ listing es, IsLine l
  | [], l, h => absurd h List.not_mem_nil
  | [e], l, h => by
    rw [listing_singleton] at h
    exact (isPlain_of_mem_printed h).isLine
  | e :: inner :: es, l, h => by
    have hrule : IsLine nestedRule := by decide
    rw [listing_cons_cons, List.mem_append, List.mem_cons] at h
    rcases h with h | rfl | h
    · exact (isPlain_of_mem_printed h).isLine
    · exact hrule
    · exact isLine_of_mem_listing l h

/-- The lines of the text of a chain. -/
theorem lines_text (es : List PrintedException) : lines (text es).toList = listing es := by
  unfold text
  rw [String.toList_ofList, lines_unlines isLine_of_mem_listing]

theorem mem_sections {part : List (List Char)} (h : part ∈ sections es) :
    ∃ (e : PrintedException) (inner? : Option PrintedException), part = e.printed inner? := by
  induction es with
  | nil => cases h
  | cons e es ih =>
    rcases List.mem_cons.1 h with rfl | h
    · exact ⟨e, es.head?, rfl⟩
    · exact ih h

/-- Every section names the type of its exception. -/
theorem infix_unlines_printed (e : PrintedException) (inner? : Option PrintedException) :
    "Exception type:".toList <:+: unlines (e.printed inner?) := by
  have hmem : property "Exception type" 3 e.typeName.toLineText ∈ e.printed inner? := by
    unfold printed head
    simp
  have hlabel : "Exception type:".toList <+: property "Exception type" 3 e.typeName.toLineText :=
    ⟨List.replicate 3 ' ' ++ e.typeName.text.toList, by simp [property]⟩
  exact hlabel.isInfix.trans (infix_unlines hmem)

/-- **The rules in the text of a chain separate its sections.** -/
theorem nestedSections_text (hne : es ≠ []) :
    nestedSections (text es) = (sections es).map fun part => .ofList (unlines part) := by
  have hrule : isNestedRule nestedRule = true := by decide
  have hsections : sections es ≠ [] := by
    cases es with
    | nil => contradiction
    | cons e es => exact List.cons_ne_nil _ _
  have hsplit : (listing es).splitOnP isNestedRule = sections es := by
    refine splitOnP_intercalate hrule hsections fun part hpart l hl => ?_
    obtain ⟨e, inner?, rfl⟩ := mem_sections hpart
    exact (isPlain_of_mem_printed hl).noRule
  have htext : ∀ part ∈ sections es, hasText part = true := by
    intro part hpart
    obtain ⟨e, inner?, rfl⟩ := mem_sections hpart
    have hE : 'E' ∈ unlines (e.printed inner?) :=
      (infix_unlines_printed e inner?).subset (by decide)
    have hshown : (unlines (e.printed inner?)).all isBlank = false :=
      List.all_eq_false.2 ⟨'E', hE, by decide⟩
    rwa [all_isBlank_unlines, Bool.not_eq_false'] at hshown
  rw [nestedSections_eq, lines_text, hsplit, sectionsOf, List.filter_eq_self.2 htext]
  rfl

/-- **The text of a section is read as the record of its exception.** -/
theorem ofListing?_printed (e : PrintedException) (inner? : Option PrintedException) :
    ExceptionRecord.ofListing? (.ofList (unlines (e.printed inner?))) = some (e.record inner?) := by
  have hlines : lines (unlines (e.printed inner?)) = e.printed inner? :=
    lines_unlines fun l hl => (isPlain_of_mem_printed hl).isLine
  have hprinted : ExceptionRecord.isPrinted (.ofList (unlines (e.printed inner?))) = true := by
    have htext : (String.ofList (unlines (e.printed inner?))).toList =
        unlines (e.printed inner?) := String.toList_ofList
    have htype := occursIn_iff.2 (infix_unlines_printed e inner?)
    unfold ExceptionRecord.isPrinted mentions
    rw [htext, htype, Bool.true_or]
  unfold ExceptionRecord.ofListing?
  rw [if_pos hprinted, String.toList_ofList, hlines, ExceptionRecord.foldl_readLine_printed]
  rfl

/-- The records of a chain. -/
def records : List PrintedException → List ExceptionRecord
  | [] => []
  | e :: es => e.record es.head? :: records es

theorem ofListing?_sections (es : List PrintedException) :
    ((sections es).map fun part => String.ofList (unlines part)).filterMap
      ExceptionRecord.ofListing? = records es := by
  induction es with
  | nil => rfl
  | cons e es ih =>
    rw [sections, List.map_cons, List.filterMap_cons_some (ofListing?_printed e es.head?), ih,
      records]

end PrintedException

/-! ## Availability -/

namespace PrintedException

theorem head_prefix_listing (e : PrintedException) (es : List PrintedException) :
    e.head <+: listing (e :: es) := by
  have hprinted : ∀ inner?, e.head <+: e.printed inner? := by
    intro inner?
    unfold printed
    simp only [List.append_assoc]
    exact List.prefix_append _ _
  cases es with
  | nil =>
    rw [listing_singleton]
    exact hprinted none
  | cons inner es =>
    rw [listing_cons_cons]
    exact (hprinted (some inner)).trans (List.prefix_append _ _)

theorem isRecordField_of_mem_head (e : PrintedException) :
    ∀ l ∈ e.head, trim l ≠ [] ∧ isRecordField (asciiLower (trim l)) = true := by
  have hfield : ∀ (label : String) (spaces : ℕ) (value : LineText), IsFieldLabel label.toList →
      trim (property label spaces value) ≠ [] ∧
        isRecordField (asciiLower (trim (property label spaces value))) = true :=
    fun _ _ _ h => ⟨trim_fieldLine_ne_nil h.ne_nil _, isRecordField_fieldLine h _⟩
  intro l hl
  unfold head at hl
  simp only [List.mem_cons, List.not_mem_nil, or_false] at hl
  rcases hl with rfl | rfl | rfl
  · exact hfield _ _ _ (by decide)
  · exact hfield _ _ _ (by decide)
  · exact hfield _ _ _ (by decide)

/-- **A printed chain is an answer**, even if a message says that something is not supported. -/
theorem unavailablePhrase?_text {es : List PrintedException} (hne : es ≠ []) :
    unavailablePhrase? (text es) = none := by
  obtain ⟨e, es, rfl⟩ := List.exists_cons_of_ne_nil hne
  obtain ⟨rest, hlisting⟩ := head_prefix_listing e es
  have hlines := (lines_text (e :: es)).trans hlisting.symm
  unfold unavailablePhrase?
  rw [headLines_eq_nil hlines (le_refl 3) (isRecordField_of_mem_head e)]
  decide

end PrintedException

end Postmortem
