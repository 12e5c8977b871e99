import Postmortem.Heap.Listing
import Postmortem.Proofs.Address.Reading
import Postmortem.Proofs.Text.Columns

/-!
# Printed heaps are read back

The statistics of a heap are printed as a title, the headings of the columns, one row for each
type and perhaps a line with the total number of objects. Counts have separators between their
digits or not, and method tables a prefix and zeros in front or not; a type name is any text that
fits on a line.

* `PrintedHeap`: a heap as it is printed, behind any lines that do not have the title.
* `readLine_printed`, `foldl_readLine_printed`: what reading one row adds, and so what reading the
  rows adds.
* `histogram_text`: **a text with at least one row is read as the rows and the total that were
  printed**; a text without rows is read as nothing, whatever total it has.
-/

namespace Postmortem

open Text

/-! ## Counts -/

/-- A count as it is printed: its decimal digits, and separators behind the first of them. -/
structure PrintedCount where
  value : ℕ
  chars : List Char
  digits : chars.filter Char.isDigit = Nat.toDigits 10 value := by decide
  isGrouped : chars.all (fun c => c.isDigit || [',', '.', '_', '\''].contains c) = true := by decide
  start : chars.head?.any Char.isDigit = true := by decide
  fits : value < 2 ^ 64 := by decide

namespace PrintedCount

variable (n : PrintedCount)

theorem ne_nil : n.chars ≠ [] := by
  intro h
  have hdigits := n.digits
  rw [h] at hdigits
  exact Nat.toDigits_ne_nil hdigits.symm

theorem others {c : Char} (h : c ∈ n.chars) : c.isDigit = true ∨ c ∈ [',', '.', '_', '\''] := by
  have hgrouped := List.all_eq_true.1 n.isGrouped c h
  rw [Bool.or_eq_true] at hgrouped
  exact hgrouped.imp_right List.contains_iff_mem.1

theorem chars_subset : n.chars ⊆ [',', '.', '_', '\''] ++ hexAlphabet := by
  intro c hc
  rcases n.others hc with hdigit | hseparator
  · exact List.mem_append_right _ (mem_hexAlphabet (isHexDigit_of_isDigit hdigit))
  · exact List.mem_append_left _ hseparator

/-- The count as the text of a column. -/
def word : Word :=
  .ofChars n.chars n.ne_nil (forall_eq_false_of_subset n.chars_subset (by decide))

theorem isCountColumn_chars : HeapHistogram.isCountColumn n.chars = true := by
  obtain ⟨c, cs, hchars⟩ := List.exists_cons_of_ne_nil n.ne_nil
  have hstart := n.start
  have hgrouped := n.isGrouped
  rw [hchars] at hstart hgrouped ⊢
  rw [HeapHistogram.isCountColumn, isDecimalDigit_of_isDigit hstart, Bool.true_and,
    List.all_eq_true]
  intro d hd
  have hd := List.all_eq_true.1 hgrouped d (List.mem_cons_of_mem _ hd)
  rw [Bool.or_eq_true] at hd ⊢
  exact hd.imp_left isDecimalDigit_of_isDigit

/-- Without separators, the digits are left. -/
theorem filter_chars : n.chars.filter (fun c => !isDigitSeparator c) = Nat.toDigits 10 n.value := by
  have hdigit : ∀ c, isHexDigit c = true → isDigitSeparator c = false :=
    forall_isHexDigit (by decide)
  have hseparators :
      [',', '.', '_', '\''].all (fun c => isDigitSeparator c && !c.isDigit) = true := by decide
  rw [← n.digits]
  refine List.filter_congr fun c hc => ?_
  rcases n.others hc with h | h
  · rw [h, hdigit c (isHexDigit_of_isDigit h)]
    rfl
  · have hseparator := List.all_eq_true.1 hseparators c h
    rw [Bool.and_eq_true, Bool.not_eq_true'] at hseparator
    rw [hseparator.1, hseparator.2]
    rfl

/-- **A count is read as the number that was printed.** -/
theorem readCount?_chars : readCount? n.chars = some n.value := by
  have htrim : trim n.chars = n.chars := n.word.trim_chars
  have hrun : readCount?.isRun (Nat.toDigits 10 n.value) = true := by
    unfold readCount?.isRun
    rw [List.all_eq_true.2 fun _ => isDigit_of_mem_toDigits, Bool.and_true]
    simp
  unfold readCount?
  rw [htrim, n.filter_chars]
  simp only [hrun, if_true]
  rw [readDigits?_toDigits]
  exact Option.filter_some_pos (by simpa using n.fits)

end PrintedCount

/-! ## Rows -/

/-- A method table as it is printed: six to sixteen digits of either case with any number of
leading zeros, perhaps behind the prefix `0x`. -/
structure PrintedMethodTable where
  prefixed : Bool := false
  digits : List Char
  isRun : digits.all isHexDigit = true := by decide
  low : 6 ≤ digits.length := by decide
  high : digits.length ≤ 16 := by decide

namespace PrintedMethodTable

variable (t : PrintedMethodTable)

/-- The method table as a list of characters. -/
def chars : List Char := if t.prefixed then '0' :: 'x' :: t.digits else t.digits

/-- The address that is printed. -/
def address : Address := ⟨UInt64.ofNat (numeral 16 t.digits)⟩

theorem digits_ne_nil : t.digits ≠ [] :=
  List.ne_nil_of_length_pos (lt_of_lt_of_le (by decide) t.low)

theorem run : ∀ c ∈ t.digits, isHexDigit c = true := List.all_eq_true.1 t.isRun

theorem chars_subset : t.chars ⊆ 'x' :: hexAlphabet := by
  unfold chars
  split
  · exact prefixed_subset t.run
  · exact List.subset_cons_of_subset _ (subset_hexAlphabet t.run)

theorem chars_ne_nil : t.chars ≠ [] := by
  unfold chars
  split
  · exact List.cons_ne_nil _ _
  · exact t.digits_ne_nil

/-- The method table as the text of a column. -/
def word : Word :=
  .ofChars t.chars t.chars_ne_nil (forall_eq_false_of_subset t.chars_subset (by decide))

theorem isHexColumn_chars : isHexColumn 6 16 t.chars = true := by
  have hdrop : dropHexPrefix t.chars = t.digits := by
    unfold chars
    split
    · rfl
    · exact dropHexPrefix_of_run t.run
  unfold isHexColumn
  simp [hdrop, t.isRun, t.low, t.high]

/-- **A method table is read as the address that was printed.** -/
theorem read?_chars : Address.read? t.chars = some t.address := by
  have hfit : numeral 16 t.digits < 2 ^ 64 :=
    (numeral_lt_pow t.run).trans_le (Nat.pow_le_pow_right (by decide) t.high)
  unfold chars
  split
  · exact Address.read?_of_prefixed_run t.digits_ne_nil t.run hfit
  · exact Address.read?_of_run t.digits_ne_nil t.run hfit

end PrintedMethodTable

/-- A row as it is printed, with the numbers of spaces that its columns have in front of them
besides the one that ends the column before. -/
structure PrintedHeapRow where
  indents : ℕ → ℕ := fun _ => 0
  methodTable : PrintedMethodTable
  count : PrintedCount
  totalSize : PrintedCount
  typeName : LineText

namespace PrintedHeapRow

variable (r : PrintedHeapRow)

/-- The row as a line. -/
def printed : List Char :=
  rowText [(r.indents 0, r.methodTable.word), (r.indents 1, r.count.word),
    (r.indents 2, r.totalSize.word)] (List.replicate (r.indents 3) ' ' ++ r.typeName.text.toList)

/-- The entry that is printed. -/
def entry : HeapEntry where
  methodTable := some r.methodTable.address
  typeName := r.typeName.text
  count := r.count.value
  totalSize := r.totalSize.value

theorem isLine_printed : IsLine r.printed :=
  isLine_rowText ((isLine_replicate _).append r.typeName.isLine) _

/-- **A row has the columns that it was written with.** -/
theorem row_printed : Scan.front? HeapHistogram.row r.printed =
    some ⟨r.methodTable.chars, r.count.chars, r.totalSize.chars, r.typeName.text.toList⟩ := by
  have hscan : HeapHistogram.row r.printed = some
      (⟨r.methodTable.chars, r.count.chars, r.totalSize.chars, r.typeName.text.toList⟩, []) := by
    unfold HeapHistogram.row printed
    rw [Scan.bind_blanks,
      Scan.bind_of_eq_some (columnThen_rowText _ r.methodTable.isHexColumn_chars),
      Scan.bind_of_eq_some (columnThen_rowText _ r.count.isCountColumn_chars),
      Scan.bind_of_eq_some (columnThen_rowText _ r.totalSize.isCountColumn_chars),
      Scan.bind_of_eq_some (lastColumn_rowText _ r.typeName)]
    rfl
  exact Scan.front?_of_eq_some hscan

end PrintedHeapRow

/-! ## Totals -/

/-- The line with the total as it is printed, whatever stands at its end. -/
structure PrintedTotal where
  indents : ℕ → ℕ := fun _ => 0
  count : PrintedCount
  ending : List Char := []
  isLine_ending : IsLine ending := by decide

namespace PrintedTotal

variable (t : PrintedTotal)

/-- The word in front of the total. -/
def label : Word where
  chars := "Total".toList

/-- The total as a line. -/
def printed : List Char :=
  rowText [(t.indents 0, label), (t.indents 1, t.count.word)]
    (List.replicate (t.indents 2) ' ' ++ ("objects".toList ++ t.ending))

theorem isLine_printed : IsLine t.printed := by
  have hobjects : IsLine "objects".toList := by decide
  exact isLine_rowText ((isLine_replicate _).append (hobjects.append t.isLine_ending)) _

/-- **The total has the count that it was written with.** -/
theorem total_printed : Scan.front? HeapHistogram.total t.printed = some t.count.chars := by
  have hstart : trimStart t.printed =
      "Total".toList ++ ' ' :: rowText [(t.indents 1, t.count.word)]
        (List.replicate (t.indents 2) ' ' ++ ("objects".toList ++ t.ending)) :=
    trimStart_rowText _ _ _ _
  have hobjects : trimStart (rowText [] (List.replicate (t.indents 2) ' ' ++
      ("objects".toList ++ t.ending))) = "objects".toList ++ t.ending := by
    rw [rowText, trimStart_replicate_append]
    rfl
  have hscan : HeapHistogram.total t.printed = some (t.count.chars, t.ending) := by
    unfold HeapHistogram.total
    rw [Scan.bind_blanks, hstart, Scan.bind_of_eq_some (Scan.literal_append _ _),
      Scan.bind_of_eq_some (Scan.blanks1_space _),
      Scan.bind_of_eq_some (columnThen_rowText _ t.count.isCountColumn_chars), hobjects,
      Scan.bind_of_eq_some (Scan.literal_append _ _)]
    rfl
  exact Scan.front?_of_eq_some hscan

/-- Only a row whose first word begins like the label has a total. -/
theorem total_rowText_eq_none {w : Word} (h : w.chars.head? ≠ some 'T') (indent : ℕ)
    (columns : List (ℕ × Word)) (last : List Char) :
    Scan.front? HeapHistogram.total (rowText ((indent, w) :: columns) last) = none := by
  have hlabel : ¬ "Total".toList <+: w.chars ++ ' ' :: rowText columns last :=
    fun hprefix => h (w.head?_of_prefix_append hprefix)
  have hscan : HeapHistogram.total (rowText ((indent, w) :: columns) last) = none := by
    unfold HeapHistogram.total
    rw [Scan.bind_blanks, trimStart_rowText,
      Scan.bind_of_eq_none (Scan.literal_eq_none hlabel)]
  exact Scan.front?_of_eq_none hscan

end PrintedTotal

/-! ## Heaps -/

/-- A heap as it is printed. -/
structure PrintedHeap where
  /-- The lines in front of the statistics. -/
  before : List (List Char) := []
  headingIndents : ℕ → ℕ := fun _ => 0
  rows : List PrintedHeapRow
  total : Option PrintedTotal := none
  noTitle : ∀ l ∈ before, ¬ "Statistics:".toList <:+: l := by decide

namespace PrintedHeap

variable (heap : PrintedHeap)

/-- The headings of the columns. -/
def heading : List Char :=
  rowText [(heap.headingIndents 0, { chars := "MT".toList }),
    (heap.headingIndents 1, .countHeading),
    (heap.headingIndents 2, { chars := "TotalSize".toList })]
    (List.replicate (heap.headingIndents 3) ' ' ++ "Class Name".toList)

/-- The lines behind the title. -/
def body : List (List Char) :=
  heap.heading :: (heap.rows.map PrintedHeapRow.printed ++
    (heap.total.map PrintedTotal.printed).toList)

/-- The heap as a text. -/
def text : String :=
  .ofList (unlines heap.before ++ ("Statistics:".toList ++ '\n' :: unlines heap.body))

/-- The rows and the total that are printed. -/
def histogram : HeapHistogram where
  entries := heap.rows.map PrintedHeapRow.entry
  totalObjects := heap.total.map (·.count.value)

theorem isLine_of_mem_body {l : List Char} (h : l ∈ heap.body) : IsLine l := by
  have hnames : IsLine "Class Name".toList := by decide
  unfold body at h
  rcases List.mem_cons.1 h with rfl | h
  · exact isLine_rowText ((isLine_replicate _).append hnames) _
  rcases List.mem_append.1 h with h | h
  · obtain ⟨r, -, rfl⟩ := List.mem_map.1 h
    exact r.isLine_printed
  · obtain ⟨t, -, rfl⟩ := Option.map_eq_some_iff.1 (Option.mem_toList.1 h)
    exact t.isLine_printed

theorem toList_text : heap.text.toList =
    unlines heap.before ++ ("Statistics:".toList ++ '\n' :: unlines heap.body) :=
  String.toList_ofList

theorem isStatistics_text : HeapHistogram.isStatistics heap.text = true := by
  have htitle : mentions heap.text "Statistics:" = true := by
    unfold mentions
    rw [occursIn_iff, toList_text]
    exact ⟨_, _, List.append_assoc _ _ _⟩
  unfold HeapHistogram.isStatistics
  rw [htitle, Bool.true_or]

/-- Behind the title, the rest of its line is empty. -/
theorem lines_statistics_text :
    lines (HeapHistogram.statistics heap.text) = [] :: heap.body := by
  have hbehind : unlines ([] :: heap.body) = '\n' :: unlines heap.body := unlines_cons [] _
  have hlines : ∀ l ∈ [] :: heap.body, IsLine l := by
    intro l hl
    rcases List.mem_cons.1 hl with rfl | hl
    · decide
    · exact heap.isLine_of_mem_body hl
  unfold HeapHistogram.statistics
  rw [toList_text, cutAt?_unlines (by decide) (by decide) _ heap.noTitle, ← hbehind]
  exact lines_unlines hlines

end PrintedHeap

/-! ## Reading -/

namespace HeapHistogram

variable (heap : HeapHistogram)

theorem readLine_nil : heap.readLine [] = heap := rfl

theorem readLine_total (t : PrintedTotal) :
    heap.readLine t.printed = { heap with totalObjects := some t.count.value } := by
  unfold readLine
  simp only [t.total_printed, t.count.readCount?_chars]

/-- The headings are no row. -/
theorem readLine_heading (printed : PrintedHeap) : heap.readLine printed.heading = heap := by
  have htotal : Scan.front? total printed.heading = none :=
    PrintedTotal.total_rowText_eq_none (by decide) _ _ _
  have hrow : row printed.heading = none := by
    unfold row
    rw [Scan.bind_blanks]
    exact Scan.bind_of_eq_none (columnThen_rowText_eq_none _ (by decide)) _
  unfold readLine
  simp only [htotal, Scan.front?_of_eq_none hrow, Option.bind_none]

/-- **A row adds the entry that was printed.** -/
theorem readLine_printed (r : PrintedHeapRow) :
    heap.readLine r.printed = { heap with entries := heap.entries ++ [r.entry] } := by
  -- no method table begins like the label of the total
  have htotal : Scan.front? total r.printed = none := by
    refine PrintedTotal.total_rowText_eq_none (fun h => ?_) _ _ _
    have hletter : 'T' ∈ 'x' :: hexAlphabet := r.methodTable.chars_subset (List.mem_of_head? h)
    exact absurd hletter (by decide)
  have hentry : Row.entry? ⟨r.methodTable.chars, r.count.chars, r.totalSize.chars,
      r.typeName.text.toList⟩ = some r.entry := by
    unfold Row.entry?
    simp only [r.methodTable.read?_chars, r.count.readCount?_chars, r.totalSize.readCount?_chars,
      String.ofList_toList]
    rfl
  unfold readLine
  simp only [htotal, r.row_printed, Option.bind_some, hentry]

/-- **Rows add their entries in order.** -/
theorem foldl_readLine_printed (rows : List PrintedHeapRow) :
    (rows.map PrintedHeapRow.printed).foldl readLine heap =
      { heap with entries := heap.entries ++ rows.map PrintedHeapRow.entry } := by
  induction rows generalizing heap with
  | nil => rw [List.map_nil, List.foldl_nil, List.map_nil, List.append_nil]
  | cons r rows ih =>
    rw [List.map_cons, List.foldl_cons, readLine_printed, ih, List.map_cons, List.append_assoc,
      List.singleton_append]

theorem foldl_readLine_body (printed : PrintedHeap) :
    printed.body.foldl readLine {} = printed.histogram := by
  unfold PrintedHeap.body PrintedHeap.histogram
  rw [List.foldl_cons, readLine_heading, List.foldl_append, foldl_readLine_printed]
  cases printed.total with
  | none => rfl
  | some t => exact readLine_total _ t

/-- **A printed heap is read back**, if it has a row: as the rows that were printed, in order and
with the same numbers, and the same total. A heap without rows is read as nothing, whatever total
it has. -/
theorem histogram_text (printed : PrintedHeap) :
    ofListing? printed.text = if printed.rows = [] then none else some printed.histogram := by
  -- a heap is read as nothing by its rows alone, after all of its lines
  have hempty : printed.histogram.entries.isEmpty = decide (printed.rows = []) := by
    unfold PrintedHeap.histogram
    rw [List.isEmpty_map]
    cases printed.rows <;> rfl
  unfold ofListing?
  rw [printed.isStatistics_text, printed.lines_statistics_text, List.foldl_cons, readLine_nil,
    foldl_readLine_body]
  simp only [hempty, if_true, decide_eq_true_eq]

/-- A row with prefix and separators, and a type name with spaces. -/
example : PrintedHeap.text
    { before := ["Address MT Size".toList]
      rows := [
        { methodTable := { prefixed := true, digits := "7ff8a1b2e200".toList }
          count := { value := 1900, chars := "1,900".toList }
          totalSize := { value := 43200, chars := "43'200".toList }
          typeName := { text := "Dictionary<String, Int32>" } }]
      total := some
        { count := { value := 2135, chars := "2.135".toList }
          ending := ", 611,114 bytes".toList } } =
    "Address MT Size\nStatistics:\nMT Count TotalSize Class Name\n" ++
      "0x7ff8a1b2e200 1,900 43'200 Dictionary<String, Int32>\n" ++
      "Total 2.135 objects, 611,114 bytes\n" := by
  decide +kernel

end HeapHistogram

namespace PrintedHeap

/-- The text gives the rows and the total that were printed, and it is read iff there is a row.
A text that is not read gives neither rows nor a total. -/
def ReadsBack (heap : PrintedHeap) : Prop :=
  (HeapHistogram.ofListing? heap.text).getD {} = heap.histogram ∧
    ((HeapHistogram.ofListing? heap.text).isSome = true ↔ heap.rows ≠ [])

/-- A heap without objects. -/
def nothing : PrintedHeap where
  rows := []
  total := some { count := { value := 0, chars := ['0'] } }

/-- Without rows, the total is lost. -/
theorem not_readsBack_nothing : ¬ nothing.ReadsBack := by
  intro h
  have htotal : ((HeapHistogram.ofListing? nothing.text).getD {}).totalObjects = some 0 :=
    congrArg HeapHistogram.totalObjects h.1
  exact absurd htotal (by decide +kernel)

end PrintedHeap

end Postmortem
