import Postmortem.Proofs.Text.PrintedLines

/-!
# Printed tables

A table is printed row by row. A row is a sequence of words, each behind any number of spaces and
in front of at least one, with some text behind them; a title stands on a line above. The scans
that read columns from the front of a line find the words again, whatever the spaces.

* `columnThen_rowText`: the first word of a row is read, and the row behind it is left.
* `isLine_rowText`: a row can be written as a line.
* `cutAt?_unlines`: a title is found behind lines that do not have it.
-/

namespace Postmortem.Text

variable {cs l w : List Char}

/-! ## Words -/

/-- A text that stands in a column: not empty, and without blanks. -/
structure Word where
  chars : List Char
  ne_nil : chars ≠ [] := by decide
  noBlanks : chars.any isBlank = false := by decide

namespace Word

/-- A text without blanks. -/
def ofChars (chars : List Char) (hne : chars ≠ []) (h : ∀ c ∈ chars, isBlank c = false) :
    Word where
  chars := chars
  ne_nil := hne
  noBlanks := List.any_eq_false.2 fun c hc => by simp [h c hc]

/-- A run of hexadecimal digits. -/
def ofHexRun (digits : List Char) (hne : digits ≠ []) (h : ∀ c ∈ digits, isHexDigit c = true) :
    Word := .ofChars digits hne (forall_eq_false_of_run h (by decide))

/-- A number in decimal digits. -/
def decimal (n : ℕ) : Word :=
  .ofHexRun (Nat.toDigits 10 n) Nat.toDigits_ne_nil (isHexDigit_of_mem_toDigits n)

/-- The heading of a column of counts. -/
def countHeading : Word where
  chars := "Count".toList

variable (w : Word)

theorem noBlank : ∀ c ∈ w.chars, isBlank c = false := forall_eq_false_of_any w.noBlanks

theorem isLine : IsLine w.chars :=
  ⟨fun h => absurd (w.noBlank _ h) (by decide),
    fun h => absurd (w.noBlank _ (List.mem_of_getLast? h)) (by decide)⟩

theorem trimStart_append (cs : List Char) : trimStart (w.chars ++ cs) = w.chars ++ cs := by
  refine trimStart_eq_self_iff.2 fun hne => ?_
  rw [List.head_append_of_ne_nil w.ne_nil]
  exact w.noBlank _ (List.head_mem _)

theorem trim_chars : trim w.chars = w.chars := trimWhere_of_forall w.noBlank

/-- What begins where a word begins has its first character. -/
theorem head?_of_prefix_append {c : Char} {pattern : List Char}
    (h : c :: pattern <+: w.chars ++ cs) : w.chars.head? = some c := by
  obtain ⟨d, ds, hchars⟩ := List.exists_cons_of_ne_nil w.ne_nil
  rw [hchars, List.cons_append, List.cons_prefix_cons] at h
  rw [hchars, List.head?_cons, h.1]

end Word

/-! ## Rows -/

/-- A row: words, each behind some spaces, and the text behind them. -/
def rowText : List (ℕ × Word) → List Char → List Char
  | [], last => last
  | (indent, w) :: columns, last =>
    List.replicate indent ' ' ++ (w.chars ++ ' ' :: rowText columns last)

variable {columns : List (ℕ × Word)} {last : List Char} {p : List Char → Bool}

theorem trimStart_rowText (indent : ℕ) (w : Word) (columns : List (ℕ × Word)) (last : List Char) :
    trimStart (rowText ((indent, w) :: columns) last) = w.chars ++ ' ' :: rowText columns last := by
  rw [rowText, trimStart_replicate_append, w.trimStart_append]

/-- **The first word of a row is read, and the row behind it is left.** -/
theorem columnThen_rowText (indent : ℕ) {w : Word} (hp : p w.chars = true) :
    Scan.columnThen p (trimStart (rowText ((indent, w) :: columns) last)) =
      some (w.chars, trimStart (rowText columns last)) := by
  rw [trimStart_rowText]
  exact columnThen_append w.ne_nil w.noBlank hp _

theorem columnThen_rowText_eq_none (indent : ℕ) {w : Word} (hp : p w.chars = false) :
    Scan.columnThen p (trimStart (rowText ((indent, w) :: columns) last)) = none := by
  rw [trimStart_rowText]
  refine columnThen_eq_none ?_
  rw [(takeWhile_append_blank w.noBlank isBlank_of_mem_head?_space).1]
  exact hp

theorem infix_rowText {column : ℕ × Word} (h : column ∈ columns) :
    column.2.chars <:+: rowText columns last := by
  induction columns with
  | nil => cases h
  | cons first columns ih =>
    obtain ⟨indent, w⟩ := first
    rw [rowText]
    refine List.IsInfix.trans ?_ (List.suffix_append _ _).isInfix
    rcases List.mem_cons.1 h with rfl | h
    · exact (List.prefix_append w.chars _).isInfix
    · exact (ih h).trans ((List.suffix_cons _ _).trans (List.suffix_append _ _)).isInfix

/-- **A row can be written as a line.** -/
theorem isLine_rowText (h : IsLine last) : ∀ columns, IsLine (rowText columns last)
  | [] => h
  | (indent, w) :: columns => by
    have hspace : IsLine [' '] := by decide
    have hrest : IsLine (' ' :: rowText columns last) := hspace.append (isLine_rowText h columns)
    exact (isLine_replicate indent).append (w.isLine.append hrest)

/-- The text behind the columns of a row is its last column. -/
theorem lastColumn_rowText (indent : ℕ) (t : LineText) :
    Scan.lastColumn (trimStart (rowText [] (List.replicate indent ' ' ++ t.text.toList))) =
      some (t.text.toList, []) := by
  rw [rowText, trimStart_replicate_append, t.trimStart_text]
  exact lastColumn_text t

/-! ## Titles -/

/-- The start of a line that has no line feed lies in the line. -/
theorem prefix_of_prefix_append_lineFeed {pattern : List Char} (hfeed : '\n' ∉ pattern)
    (h : pattern <+: l ++ '\n' :: cs) : pattern <+: l := by
  rcases List.prefix_or_prefix_of_prefix h (List.prefix_append l ('\n' :: cs)) with hin | ⟨t, rfl⟩
  · exact hin
  · rw [List.prefix_append_right_inj] at h
    cases t with
    | nil => rw [List.append_nil]
    | cons c t =>
      rw [List.cons_prefix_cons] at h
      exact absurd (h.1 ▸ List.mem_append_right l List.mem_cons_self) hfeed

/-- A line without the pattern stays in front of the cut. -/
theorem cutAt?_append_lineFeed {pattern : List Char} (hne : pattern ≠ [])
    (hfeed : '\n' ∉ pattern) (cs : List Char) : ∀ {l : List Char}, ¬ pattern <:+: l →
      cutAt? pattern (l ++ '\n' :: cs) =
        (cutAt? pattern cs).map fun parts => (l ++ '\n' :: parts.1, parts.2)
  | [], _ => by
    have hstart : pattern.isPrefixOf ('\n' :: cs) = false := by
      rw [Bool.eq_false_iff, Ne, List.isPrefixOf_iff_prefix]
      intro h
      exact hne (List.prefix_nil.1 (prefix_of_prefix_append_lineFeed (l := []) hfeed h))
    rw [List.nil_append, cutAt?, hstart]
    rfl
  | c :: l, h => by
    have hstart : pattern.isPrefixOf (c :: (l ++ '\n' :: cs)) = false := by
      rw [Bool.eq_false_iff, Ne, List.isPrefixOf_iff_prefix]
      intro hp
      exact h (prefix_of_prefix_append_lineFeed (l := c :: l) hfeed hp).isInfix
    have hrest : ¬ pattern <:+: l := fun hin => h (List.infix_cons_iff.2 (.inr hin))
    rw [List.cons_append, cutAt?, hstart, cutAt?_append_lineFeed hne hfeed cs hrest]
    cases cutAt? pattern cs <;> rfl

/-- **A title is found behind lines that do not have it.** -/
theorem cutAt?_unlines {pattern : List Char} (hne : pattern ≠ []) (hfeed : '\n' ∉ pattern)
    (behind : List Char) {ls : List (List Char)} (h : ∀ l ∈ ls, ¬ pattern <:+: l) :
    cutAt? pattern (unlines ls ++ (pattern ++ behind)) = some (unlines ls, behind) := by
  induction ls with
  | nil =>
    obtain ⟨c, rest, rfl⟩ := List.exists_cons_of_ne_nil hne
    have hstart : (c :: rest).isPrefixOf (c :: (rest ++ behind)) = true :=
      List.isPrefixOf_iff_prefix.2 (List.prefix_append (c :: rest) behind)
    have hdrop : (c :: (rest ++ behind)).drop (c :: rest).length = behind := by
      rw [← List.cons_append]
      exact List.drop_left
    show cutAt? (c :: rest) (c :: (rest ++ behind)) = _
    rw [cutAt?, if_pos hstart, hdrop]
    rfl
  | cons l ls ih =>
    rw [unlines_cons, List.append_assoc, List.cons_append,
      cutAt?_append_lineFeed hne hfeed _ (h l List.mem_cons_self),
      ih fun l hl => h l (List.mem_cons_of_mem _ hl)]
    rfl

end Postmortem.Text
