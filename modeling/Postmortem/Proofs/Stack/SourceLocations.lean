import Postmortem.Proofs.Text.Cuts
import Postmortem.Proofs.Text.Numerals
import Postmortem.Stack.CallSite

/-!
# Source locations

Debuggers print the place of a frame in its source as a path and a line, with a mark or a colon
between the two, and a column may follow. A path may hold colons, too: that of a drive letter and
others. So the colons in front of the line and the column are counted from the end of the text, and
the last two parts are told apart by whether they are numbers.

* `read?_marked`, `read?_withColumn`: the line and the column do not hold the mark, so a text is cut
  behind its path.
* `read?_text_iff`: without a column, a path that itself ends in a number is cut short, and no other
  path is.
* `read?_printed`: **all printed forms of a location are read back.**
-/

namespace Postmortem

open Text

/-- A path as it is printed in locations: blanks are not part of its edges, it does not begin with a
bracket, and it does not hold the mark that stands in front of lines. -/
structure SourcePath where
  chars : List Char
  ne_nil : chars ≠ [] := by decide
  trimmed : trim chars = chars := by decide
  noBracket : chars.head? ≠ some '[' := by decide
  noMark : ¬ " @ ".toList <:+: chars := by decide

namespace SourcePath

variable (path : SourcePath)

/-- The location of a line in the file with this path. -/
def location (line : UInt32) : SourceLocation := ⟨.ofList path.chars, some line.toNat⟩

/-- Whether the text behind the last colon of a path is a number. -/
def EndsInNumber : Prop :=
  ∃ (front : List Char) (r : DecimalRun), path.chars = front ++ ':' :: r.digits

end SourcePath

/-- The digits of a line. -/
def printedLine (line : UInt32) : DecimalRun := .ofNat line.toNat

/-- The ways in which a path and a line are printed. -/
inductive LocationForm where
  /-- The form `file @ line`. -/
  | marked
  /-- The form `[file @ line]`. -/
  | bracketed
  /-- The form `file:line:column`. -/
  | withColumn (column : DecimalRun)
  /-- The text of a location, which is `file:line`. -/
  | text

/-- What is printed. -/
def LocationForm.chars (path : SourcePath) (line : UInt32) : LocationForm → List Char
  | marked => path.chars ++ (" @ ".toList ++ (printedLine line).digits)
  | bracketed => ['['] ++ (path.chars ++ (" @ ".toList ++ (printedLine line).digits) ++ [']'])
  | withColumn column => path.chars ++ ':' :: ((printedLine line).digits ++ ':' :: column.digits)
  | text => (path.location line).text.toList

namespace SourceLocation

/-! ## Numbers -/

theorem isNumber_digits (r : DecimalRun) : isNumber r.digits = true := by
  unfold isNumber isRunOf
  rw [r.allDigits, Bool.and_true]
  simpa using r.ne_nil

theorem locationAt_printedLine (path : SourcePath) (line : UInt32) :
    locationAt path.chars (printedLine line).digits = path.location line := by
  unfold locationAt
  exact congrArg (SourceLocation.mk _) (readUnsigned?_toDigits line.toNat_lt)

/-! ## Edges -/

/-- What is read of a text: the text without blanks and brackets around it. -/
def unwrap (cs : List Char) : List Char :=
  trim (dropEndWhile (· == ']') ((trim cs).dropWhile (· == '[')))

theorem read?_congr {cs cs' : List Char} (h : unwrap cs = unwrap cs') : read? cs = read? cs' := by
  unfold unwrap at h
  unfold read?
  rw [h]

theorem dropWhile_path (path : SourcePath) (cs : List Char) :
    (path.chars ++ cs).dropWhile (· == '[') = path.chars ++ cs := by
  obtain ⟨c, rest, hpath⟩ := List.exists_cons_of_ne_nil path.ne_nil
  have hhead := path.noBracket
  rw [hpath, List.head?_cons] at hhead
  rw [hpath, List.cons_append, List.dropWhile_cons_of_neg (by simpa using hhead)]

theorem dropEndWhile_digits (r : DecimalRun) (cs : List Char) {behind : List Char}
    (h : dropEndWhile (· == ']') behind = []) :
    dropEndWhile (· == ']') (cs ++ r.digits ++ behind) = cs ++ r.digits := by
  have hlast : ∀ c ∈ r.digits, (c == ']') = false := r.eq_false_of_mem (by decide)
  have hne : cs ++ r.digits ≠ [] := List.append_ne_nil_of_right_ne_nil _ r.ne_nil
  rw [dropEndWhile_append hne, h, List.append_nil]
  rw [List.getLast_append_of_ne_nil _ r.ne_nil]
  exact hlast _ (List.getLast_mem r.ne_nil)

/-- **What begins with a path and ends with a number stays as it is**, with or without brackets
around it. -/
theorem unwrap_eq (path : SourcePath) (cs : List Char) (r : DecimalRun) :
    unwrap (path.chars ++ (cs ++ r.digits)) = path.chars ++ (cs ++ r.digits) ∧
      unwrap (['['] ++ (path.chars ++ (cs ++ r.digits) ++ [']'])) =
        path.chars ++ (cs ++ r.digits) := by
  have htrim : trim (path.chars ++ (cs ++ r.digits)) = path.chars ++ (cs ++ r.digits) :=
    trim_between path.trimmed path.ne_nil r.trim_digits r.ne_nil cs
  have hend : ∀ behind, dropEndWhile (· == ']') behind = [] →
      dropEndWhile (· == ']') (path.chars ++ (cs ++ r.digits ++ behind)) =
        path.chars ++ (cs ++ r.digits) := by
    intro behind h
    have hdigits := dropEndWhile_digits r (path.chars ++ cs) h
    simpa only [List.append_assoc] using hdigits
  unfold unwrap
  constructor
  · have hnone := hend [] rfl
    rw [List.append_nil] at hnone
    rw [htrim, dropWhile_path, hnone, htrim]
  · have hwrapped := trim_between (by decide : trim ['['] = ['[']) (by decide)
      (by decide : trim [']'] = [']']) (by decide) (path.chars ++ (cs ++ r.digits))
    rw [hwrapped, List.singleton_append, List.dropWhile_cons_of_pos (by decide), List.append_assoc,
      dropWhile_path, hend [']'] (by decide), htrim]

/-! ## Parts -/

/-- Neither a number nor what it is joined to by a colon holds the mark. -/
theorem noMark_joined (r : DecimalRun) {cs : List Char} (h : ¬ " @ ".toList <:+: cs) :
    ¬ " @ ".toList <:+: cs ++ ':' :: r.digits := by
  intro hmark
  rcases infix_append_cons (by decide) hmark with hin | hin
  · exact h hin
  · exact r.notMem (by decide) (hin.subset (by decide : ' ' ∈ " @ ".toList))

/-- The mark in front of a line is the last one, although the path may end with a part of it. -/
theorem cutAtLast?_mark (r : DecimalRun) (cs : List Char) :
    cutAtLast? " @ ".toList (cs ++ (" @ ".toList ++ r.digits)) = some (cs, r.digits) := by
  have hat : '@' ∉ r.digits := r.notMem (by decide)
  have hpattern : " @ ".toList = [' ', '@', ' '] := by decide
  rw [hpattern]
  refine cutAtLast?_append_append (by decide) (fun hmark => ?_) cs
  rcases List.infix_cons_iff.1 hmark with hstart | hmark
  · exact absurd (List.cons_prefix_cons.1 hstart).1 (by decide)
  rcases List.infix_cons_iff.1 hmark with hstart | hmark
  · exact hat ((List.cons_prefix_cons.1 hstart).2.subset List.mem_cons_self)
  · exact hat (hmark.subset (by decide))

theorem read?_marked (path : SourcePath) (line : UInt32) :
    read? (LocationForm.marked.chars path line) = some (path.location line) := by
  have hunwrap := (unwrap_eq path " @ ".toList (printedLine line)).1
  have hne : (path.chars ++ (" @ ".toList ++ (printedLine line).digits)).isEmpty = false := by
    simp [path.ne_nil]
  unfold unwrap at hunwrap
  unfold read? LocationForm.chars
  simp only [hunwrap, hne, cutAtLast?_mark, path.trimmed, DecimalRun.trim_digits, locationAt_printedLine]
  rfl

theorem read?_bracketed (path : SourcePath) (line : UInt32) :
    read? (LocationForm.bracketed.chars path line) = some (path.location line) := by
  obtain ⟨hplain, hwrapped⟩ := unwrap_eq path " @ ".toList (printedLine line)
  rw [← read?_marked path line]
  exact read?_congr (hwrapped.trans hplain.symm)

/-- **Behind its last colon a text has the line or the column.** It is the column if a number stands
in front of it, too. -/
theorem read?_colon (path : SourcePath) {front : List Char} (r : DecimalRun)
    (hfront : path.chars <+: front) (hmark : ¬ " @ ".toList <:+: front) :
    read? (front ++ ':' :: r.digits) =
      match cutAtLast? [':'] front with
      | some (file, line) =>
        if isNumber line then some (locationAt file line) else some (locationAt front r.digits)
      | none => some (locationAt front r.digits) := by
  obtain ⟨cs, rfl⟩ := hfront
  have hunwrap := (unwrap_eq path (cs ++ [':']) r).1
  have hcut := cutAtLast?_append (r.notMem (c := ':') (by decide)) (path.chars ++ cs)
  have hnone := cutAtLast?_eq_none_iff.2 (noMark_joined r hmark)
  have hne : (path.chars ++ cs ++ ':' :: r.digits).isEmpty = false := by simp
  rw [List.append_assoc, List.singleton_append, ← List.append_assoc] at hunwrap
  unfold unwrap at hunwrap
  unfold read?
  simp only [hunwrap, hne, hnone, hcut, isNumber_digits]
  rfl

theorem read?_withColumn (path : SourcePath) (line : UInt32) (column : DecimalRun) :
    read? ((LocationForm.withColumn column).chars path line) = some (path.location line) := by
  have hcut := cutAtLast?_append ((printedLine line).notMem (c := ':') (by decide)) path.chars
  have hread := read?_colon path column (List.prefix_append path.chars _)
    (noMark_joined (printedLine line) path.noMark)
  rw [List.append_assoc, List.cons_append, hcut] at hread
  unfold LocationForm.chars
  rw [hread]
  simp only [isNumber_digits, if_true, locationAt_printedLine]

theorem toList_text (path : SourcePath) (line : UInt32) :
    (path.location line).text.toList = path.chars ++ ':' :: (printedLine line).digits := by
  have htext : (path.location line).text = .ofList path.chars ++ ":" ++ toString line.toNat := rfl
  have hline : (toString line.toNat).toList = (printedLine line).digits := by
    rw [Nat.toString_eq_repr, Nat.toList_repr]
    rfl
  rw [htext, String.toList_append, String.toList_append, String.toList_ofList, hline,
    List.append_assoc]
  rfl

/-- A path ends in a number iff one stands behind its last colon. -/
theorem endsInNumber_iff (path : SourcePath) :
    path.EndsInNumber ↔
      ∃ parts, cutAtLast? [':'] path.chars = some parts ∧ isNumber parts.2 = true := by
  constructor
  · rintro ⟨front, r, hpath⟩
    refine ⟨(front, r.digits), ?_, isNumber_digits r⟩
    rw [hpath, cutAtLast?_append (r.notMem (by decide))]
  · rintro ⟨⟨front, number⟩, hcut, hnumber⟩
    have hrun := Bool.and_eq_true_iff.1 hnumber
    exact ⟨front, ⟨number, by simpa using hrun.1, hrun.2⟩, eq_of_cutAtLast? hcut⟩

/-- What stands in front of the last colon of a path is not the path. -/
theorem ne_of_cutAtLast? {cs file number : List Char}
    (h : cutAtLast? [':'] cs = some (file, number)) : file ≠ cs := by
  intro hfile
  have hlength := congrArg List.length (hfile.trans (eq_of_cutAtLast? h))
  rw [List.length_append, List.length_append, List.length_singleton] at hlength
  omega

/-- **Without a column, a path is cut short iff it ends in a number.** -/
theorem read?_text_iff (path : SourcePath) (line : UInt32) :
    read? (LocationForm.text.chars path line) = some (path.location line) ↔
      ¬ path.EndsInNumber := by
  have hread := read?_colon path (printedLine line) (List.prefix_refl _) path.noMark
  have hline := congrArg some (locationAt_printedLine path line)
  unfold LocationForm.chars
  rw [toList_text, hread, endsInNumber_iff]
  cases hcut : cutAtLast? [':'] path.chars with
  | none => exact iff_of_true hline (by simp)
  | some parts =>
    obtain ⟨file, number⟩ := parts
    by_cases hnumber : isNumber number = true
    · refine iff_of_false ?_ (not_not_intro ⟨_, rfl, hnumber⟩)
      simp only [hnumber, if_true]
      intro hsame
      have hfile := congrArg SourceLocation.file (Option.some.inj hsame)
      exact ne_of_cutAtLast? hcut (String.ofList_injective hfile)
    · refine iff_of_true ?_ ?_
      · simp only [hnumber]
        exact hline
      · rintro ⟨parts, hparts, hnumber'⟩
        obtain rfl := Option.some.inj hparts
        exact hnumber hnumber'

/-- **All printed forms of a location are read back**, except a path that ends in a number and has a
line but no column behind it. -/
theorem read?_printed (path : SourcePath) (line : UInt32) (form : LocationForm) :
    read? (form.chars path line) = some (path.location line) ↔
      (form = .text → ¬ path.EndsInNumber) := by
  cases form with
  | marked => exact iff_of_true (read?_marked path line) fun h => by cases h
  | bracketed => exact iff_of_true (read?_bracketed path line) fun h => by cases h
  | withColumn column => exact iff_of_true (read?_withColumn path line column) fun h => by cases h
  | text => exact (read?_text_iff path line).trans ⟨fun h _ => h, fun h => h rfl⟩

/-- The text behind a drive letter is no number, so every form of such a path is read back. -/
theorem read?_printed_drive :
    read? "[C:\\src\\a.c @ 10]".toList = some ⟨"C:\\src\\a.c", some 10⟩ ∧
      read? "C:\\src\\a.c:10:7".toList = some ⟨"C:\\src\\a.c", some 10⟩ ∧
      read? "C:\\src\\a.c:10".toList = some ⟨"C:\\src\\a.c", some 10⟩ := by
  let path : SourcePath := { chars := "C:\\src\\a.c".toList }
  have hpath : ¬ path.EndsInNumber := by
    have hcut : cutAtLast? [':'] path.chars = some (['C'], "\\src\\a.c".toList) := by decide +kernel
    rw [endsInNumber_iff]
    rintro ⟨parts, hparts, hnumber⟩
    rw [hcut] at hparts
    obtain rfl := Option.some.inj hparts
    cases hnumber
  have hread : ∀ form : LocationForm, read? (form.chars path 10) = some (path.location 10) :=
    fun form => (read?_printed path 10 form).2 fun _ => hpath
  have hbracketed := hread .bracketed
  have hcolumn := hread (.withColumn (.ofNat 7))
  have htext := hread .text
  have hforms : LocationForm.bracketed.chars path 10 = "[C:\\src\\a.c @ 10]".toList ∧
      (LocationForm.withColumn (.ofNat 7)).chars path 10 = "C:\\src\\a.c:10:7".toList ∧
      LocationForm.text.chars path 10 = "C:\\src\\a.c:10".toList := by decide +kernel
  rw [hforms.1] at hbracketed
  rw [hforms.2.1] at hcolumn
  rw [hforms.2.2] at htext
  exact ⟨hbracketed, hcolumn, htext⟩

/-- A path that ends in a number is cut short, and its number is taken for the line. -/
example : read? "core:7:42".toList = some ⟨"core", some 7⟩ := by decide +kernel

end SourceLocation

end Postmortem
