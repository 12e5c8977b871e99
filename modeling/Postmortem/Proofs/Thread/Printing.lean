import Postmortem.Proofs.Text.Columns
import Postmortem.Proofs.Thread.HexText
import Postmortem.Thread.RuntimeTable

/-!
# Printed thread tables

The runtime's thread table is printed as a caption, the headings of the columns and one row for
each thread. A row has ten columns: the first one shows a placeholder where a dead thread has no
index in the debugger, three are words of any kind, and behind the last one there may be a tag in
parentheses and the thread's exception.

* `PrintedThread`, `PrintedThreads`: a thread and a table of threads as they are printed.
* `row?_printed`: **a row has the columns that it was written with**, the index in front.
* `row?_eq_none`: a line that begins neither with a digit nor like the placeholder is
  no row.
* `rows_text`: so the rows of a table are those that were written.
-/

namespace Postmortem

open Text RuntimeTable

/-! ## Columns -/

/-- Hexadecimal digits of either case with any number of leading zeros. -/
structure HexRun where
  digits : List Char
  isRun : Address.isHexRun digits = true := by decide

namespace HexRun

/-- The digits as an id without prefix. -/
def toHexText (r : HexRun) : HexText where
  digits := r.digits
  isRun := r.isRun

variable (r : HexRun)

/-- The number that is printed. -/
def value : ℕ := r.toHexText.value

theorem isHexDigit_of_mem : ∀ c ∈ r.digits, isHexDigit c = true :=
  fun _ => HexText.isHexDigit_of_mem (t := r.toHexText)

theorem ne_nil : r.digits ≠ [] := HexText.digits_ne_nil (t := r.toHexText)

/-- The digits as the text of a column. -/
def word : Word := .ofHexRun r.digits r.ne_nil r.isHexDigit_of_mem

theorem isRunOf_digits : isRunOf isHexDigit r.digits = true := by
  unfold isRunOf
  rw [List.all_eq_true.2 r.isHexDigit_of_mem, Bool.and_true]
  simpa using r.ne_nil

end HexRun

theorem isDigits_of_run {cs : List Char} (hne : cs ≠ []) (h : ∀ c ∈ cs, c.isDigit = true) :
    isDigits cs = true := by
  unfold isDigits isRunOf
  rw [List.all_eq_true.2 fun c hc => isDecimalDigit_of_isDigit (h c hc), Bool.and_true]
  simpa using hne

theorem isDigits_decimal (n : ℕ) : isDigits (Word.decimal n).chars = true :=
  isDigits_of_run Nat.toDigits_ne_nil fun _ => isDigit_of_mem_toDigits

/-- A lock count as it is printed: a sign if it is negative, and decimal digits with any number
of leading zeros. -/
structure PrintedLockCount where
  value : ℤ
  zeros : ℕ := 0
  fits : value < 2 ^ 32 := by decide

namespace PrintedLockCount

variable (n : PrintedLockCount)

/-- The digits of the count. -/
def digits : List Char := List.replicate n.zeros '0' ++ Nat.toDigits 10 n.value.natAbs

/-- The count as a list of characters. -/
def chars : List Char := if n.value < 0 then '-' :: n.digits else n.digits

theorem digits_ne_nil : n.digits ≠ [] :=
  List.append_ne_nil_of_right_ne_nil _ Nat.toDigits_ne_nil

theorem isDigit_of_mem : ∀ c ∈ n.digits, c.isDigit = true := by
  intro c hc
  rcases List.mem_append.1 hc with hc | hc
  · rw [List.eq_of_mem_replicate hc]
    decide
  · exact isDigit_of_mem_toDigits hc

theorem chars_ne_nil : n.chars ≠ [] := by
  unfold chars
  split
  · exact List.cons_ne_nil _ _
  · exact n.digits_ne_nil

theorem chars_subset : n.chars ⊆ '-' :: hexAlphabet := by
  have hdigits : n.digits ⊆ hexAlphabet :=
    subset_hexAlphabet fun c hc => isHexDigit_of_isDigit (n.isDigit_of_mem c hc)
  unfold chars
  split
  · exact List.cons_subset_cons _ hdigits
  · exact List.subset_cons_of_subset _ hdigits

/-- The count as the text of a column. -/
def word : Word :=
  .ofChars n.chars n.chars_ne_nil (forall_eq_false_of_subset n.chars_subset (by decide))

theorem isLockCount_chars : isLockCount n.chars = true := by
  have hdigits := isDigits_of_run n.digits_ne_nil n.isDigit_of_mem
  unfold chars
  split
  · exact hdigits
  · unfold isLockCount
    split
    · rename_i cs h
      exact absurd h (run_ne_cons n.isDigit_of_mem (by decide) cs)
    · exact hdigits

theorem numeral_digits : numeral 10 n.digits = n.value.natAbs := by
  unfold digits
  rw [numeral_replicate_append (by decide), numeral_toDigits (by decide) (by decide)]

/-- The number that is printed is read, if it fits in 64 bits. -/
theorem readInt64?_chars :
    readInt64? n.chars = (some n.value).filter fun m => -2 ^ 63 ≤ m ∧ m < 2 ^ 63 := by
  unfold chars
  split
  · have hvalue : -(n.value.natAbs : ℤ) = n.value := by omega
    rw [readInt64?_minus_run n.digits_ne_nil n.isDigit_of_mem, n.numeral_digits, hvalue]
  · have hvalue : (n.value.natAbs : ℤ) = n.value := by omega
    rw [readInt64?_of_run n.digits_ne_nil n.isDigit_of_mem, n.numeral_digits, hvalue]

/-- **A lock count is read as it was printed, and as zero if it is negative.** -/
theorem toNat_readInt64?_chars :
    ((readInt64? n.chars).getD 0).toNat % 2 ^ 32 = n.value.toNat := by
  have hfits := n.fits
  rw [readInt64?_chars, Option.filter_some]
  -- counts are small, so only negative ones may not fit
  split
  · rw [Option.getD_some]
    omega
  · rename_i hrange
    rw [decide_eq_true_eq] at hrange
    rw [Option.getD_none]
    omega

end PrintedLockCount

/-- The modes of the garbage collector that a thread can be in. -/
inductive GcMode where
  | preemptive
  | cooperative

/-- The mode as the text of a column. -/
def GcMode.word : GcMode → Word
  | .preemptive => { chars := "Preemptive".toList }
  | .cooperative => { chars := "Cooperative".toList }

theorem GcMode.isMode_word (mode : GcMode) : isMode mode.word.chars = true := by
  cases mode <;> decide

/-- What stands in parentheses behind a row. -/
structure PrintedTag where
  chars : List Char
  trimmed : trim chars = chars := by decide
  noClose : ')' ∉ chars := by decide
  noFeed : '\n' ∉ chars := by decide

/-- The exception of a thread as it is printed: a type with a dot in its name, and the address of
the object. -/
structure PrintedFault where
  typeName : Word
  indent : ℕ := 0
  address : HexRun
  dot : '.' ∈ typeName.chars := by decide
  noOpen : '(' ∉ typeName.chars := by decide

/-! ## Rows -/

/-- A thread as it is printed, with the numbers of spaces that its columns have in front of them
besides the one that ends the column before. -/
structure PrintedThread where
  indents : ℕ → ℕ := fun _ => 0
  /-- The debugger's index, which dead threads lack. -/
  index : Option ℕ
  managedId : ℕ
  osId : HexRun
  object : List Char
  state : HexRun
  mode : GcMode
  allocation : Word
  domain : Word
  lockCount : PrintedLockCount
  apartment : Word
  tag : Option PrintedTag := none
  fault : Option PrintedFault := none
  managedId_fits : managedId < 2 ^ 32 := by decide
  isPointer : IsPointer object
  state_fits : state.value < 2 ^ 32 := by decide

namespace PrintedTag

variable (tag : PrintedTag)

/-- The tag in its parentheses. -/
def mark : List Char := '(' :: (tag.chars ++ [')'])

theorem trim_mark : trim tag.mark = tag.mark :=
  trim_between (by decide : trim ['('] = ['(']) (by decide) (by decide : trim [')'] = [')'])
    (by decide) _

theorem isLine_mark : IsLine tag.mark := by
  refine ⟨by simp [mark, tag.noFeed], fun h => ?_⟩
  have hlast : tag.mark.getLast? = some ')' := by
    unfold mark
    rw [← List.cons_append, List.getLast?_concat]
  rw [hlast] at h
  exact absurd (Option.some.inj h) (by decide)

end PrintedTag

namespace PrintedFault

variable (fault : PrintedFault)

/-- The exception as a text. -/
def text : List Char :=
  fault.typeName.chars ++ (' ' :: List.replicate fault.indent ' ' ++ fault.address.digits)

theorem trim_text : trim fault.text = fault.text :=
  trim_between fault.typeName.trim_chars fault.typeName.ne_nil fault.address.word.trim_chars
    fault.address.ne_nil _

theorem isLine_text : IsLine fault.text :=
  fault.typeName.isLine.append
    ((isLine_replicate (fault.indent + 1)).append fault.address.word.isLine)

theorem noOpen_text : '(' ∉ fault.text := by
  have haddress : '(' ∉ fault.address.digits :=
    fun h => absurd (fault.address.isHexDigit_of_mem _ h) (by decide)
  have hspaces : '(' ∉ ' ' :: List.replicate fault.indent ' ' :=
    fun h => absurd (List.eq_of_mem_replicate (n := fault.indent + 1) h) (by decide)
  unfold text
  rw [List.mem_append, List.mem_append]
  rintro (h | h | h)
  · exact fault.noOpen h
  · exact hspaces h
  · exact haddress h

end PrintedFault

namespace RuntimeTable

/-- Reads a row that begins with an index. -/
def indexed : Scan Row := do
  Scan.blanks
  let index ← Scan.columnThen isIndex
  columns (some index)

/-- Reads a row that begins with the managed id. -/
def unindexed : Scan Row := do
  Scan.blanks
  columns none

theorem row?_eq (line : List Char) :
    row? line = (Scan.front? indexed line <|> Scan.front? unindexed line) := rfl

end RuntimeTable

namespace PrintedThread

variable (t : PrintedThread)

/-- The first column: the index, or what stands in its place. -/
def indexWord : Word := t.index.elim { chars := "XXXX".toList } Word.decimal

/-- What stands behind the last column. -/
def remarks : List Char :=
  (t.tag.elim [] fun tag => List.replicate (t.indents 10 + 1) ' ' ++ tag.mark) ++
    ((t.fault.elim [] fun fault => List.replicate (t.indents 11 + 1) ' ' ++ fault.text) ++
      List.replicate (t.indents 12) ' ')

/-- The remarks without the spaces around them. -/
def marks : List Char :=
  match t.tag, t.fault with
  | none, none => []
  | none, some fault => fault.text
  | some tag, none => tag.mark
  | some tag, some fault => tag.mark ++ (List.replicate (t.indents 11 + 1) ' ' ++ fault.text)

theorem trim_remarks : trim t.remarks = t.marks := by
  unfold remarks marks
  -- which text is at either edge depends on the remarks there are
  cases t.tag with
  | none =>
    cases t.fault with
    | none => exact trim_append_replicate (rfl : trim [] = []) _
    | some fault =>
      rw [Option.elim_none, List.nil_append, Option.elim_some, List.append_assoc,
        trim_replicate_append]
      exact trim_append_replicate fault.trim_text _
  | some tag =>
    cases t.fault with
    | none =>
      rw [Option.elim_none, List.nil_append, Option.elim_some, List.append_assoc,
        trim_replicate_append]
      exact trim_append_replicate tag.trim_mark _
    | some fault =>
      have hmarks := trim_between tag.trim_mark (List.cons_ne_nil _ _) fault.trim_text
        (List.append_ne_nil_of_left_ne_nil fault.typeName.ne_nil _)
        (List.replicate (t.indents 11 + 1) ' ')
      rw [Option.elim_some, Option.elim_some, List.append_assoc, trim_replicate_append,
        ← List.append_assoc]
      exact trim_append_replicate hmarks _

/-- The remarks are set off from the last column. -/
theorem isBlank_of_mem_head?_remarks : ∀ c ∈ t.remarks.head?, isBlank c = true := by
  unfold remarks
  cases t.tag with
  | some tag => exact isBlank_of_mem_head?_space
  | none =>
    cases t.fault with
    | some fault => exact isBlank_of_mem_head?_space
    | none =>
      intro c hc
      rw [List.eq_of_mem_replicate (List.mem_of_head? hc)]
      decide

theorem isLine_remarks : IsLine t.remarks := by
  have hnil : IsLine [] := by decide
  unfold remarks
  refine IsLine.append ?_ (IsLine.append ?_ (isLine_replicate _))
  · cases t.tag with
    | none => exact hnil
    | some tag => exact (isLine_replicate _).append tag.isLine_mark
  · cases t.fault with
    | none => exact hnil
    | some fault => exact (isLine_replicate _).append fault.isLine_text

/-- The row as a line. -/
def printed : List Char :=
  rowText [(t.indents 0, t.indexWord), (t.indents 1, .decimal t.managedId),
    (t.indents 2, t.osId.word),
    (t.indents 3, .ofHexRun t.object t.isPointer.ne_nil t.isPointer.run),
    (t.indents 4, t.state.word), (t.indents 5, t.mode.word), (t.indents 6, t.allocation),
    (t.indents 7, t.domain), (t.indents 8, t.lockCount.word)]
    (List.replicate (t.indents 9) ' ' ++ (t.apartment.chars ++ t.remarks))

theorem isLine_printed : IsLine t.printed :=
  isLine_rowText ((isLine_replicate _).append (t.apartment.isLine.append t.isLine_remarks)) _

/-- The columns of the row. -/
def row : RuntimeTable.Row where
  index := some t.indexWord.chars
  managedId := Nat.toDigits 10 t.managedId
  osId := t.osId.digits
  state := t.state.digits
  lockCount := t.lockCount.chars
  remarks := t.remarks

theorem isIndex_indexWord : isIndex t.indexWord.chars = true := by
  unfold indexWord isIndex
  cases t.index with
  | none => decide
  | some n =>
    rw [Option.elim_some, isDigits_decimal, Bool.true_or]

/-- **A row has the columns that it was written with**, the index in front. -/
theorem row?_printed : row? t.printed = some t.row := by
  have hobject :
      (t.object.all isHexDigit && 8 ≤ t.object.length && t.object.length ≤ 16) = true := by
    simp [List.all_eq_true.2 t.isPointer.run, t.isPointer.low, t.isPointer.high]
  have hapartment : Scan.column (trimStart (rowText [] (List.replicate (t.indents 9) ' ' ++
      (t.apartment.chars ++ t.remarks)))) = some (t.apartment.chars, t.remarks) := by
    rw [rowText, trimStart_replicate_append, t.apartment.trimStart_append]
    exact Scan.column_append t.apartment.ne_nil t.apartment.noBlank t.isBlank_of_mem_head?_remarks
  have hscan : indexed t.printed = some (t.row, []) := by
    unfold indexed printed
    rw [Scan.bind_blanks, Scan.bind_of_eq_some (columnThen_rowText _ t.isIndex_indexWord)]
    unfold columns
    rw [Scan.bind_of_eq_some (columnThen_rowText _ (isDigits_decimal _)),
      Scan.bind_of_eq_some (columnThen_rowText _ t.osId.isRunOf_digits),
      Scan.bind_of_eq_some (columnThen_rowText _ hobject),
      Scan.bind_of_eq_some (columnThen_rowText _ t.state.isRunOf_digits),
      Scan.bind_of_eq_some (columnThen_rowText _ t.mode.isMode_word),
      Scan.bind_of_eq_some (columnThen_rowText _ rfl),
      Scan.bind_of_eq_some (columnThen_rowText _ rfl),
      Scan.bind_of_eq_some (columnThen_rowText _ t.lockCount.isLockCount_chars),
      Scan.bind_of_eq_some hapartment]
    rfl
  rw [row?_eq, Scan.front?_of_eq_some hscan]
  rfl

end PrintedThread

/-! ## Tables -/

/-- Whether a line begins, behind its blanks, neither with a digit nor like the placeholder. -/
def RuntimeTable.isCaption (line : List Char) : Bool :=
  (trimStart line).head?.all fun c => !isDecimalDigit c && c != 'X'

/-- The first word of such a line fits neither of the columns that a row may begin with. -/
theorem RuntimeTable.word_of_isCaption {line : List Char} (h : isCaption line = true) :
    isDigits ((trimStart line).takeWhile (!isBlank ·)) = false ∧
      isIndex ((trimStart line).takeWhile (!isBlank ·)) = false := by
  unfold isCaption at h
  generalize trimStart line = cs at h
  cases cs with
  | nil => decide
  | cons c cs =>
    have hstart : (!isDecimalDigit c && c != 'X') = true := h
    rw [Bool.and_eq_true, Bool.not_eq_true', bne_iff_ne] at hstart
    obtain ⟨hdigit, hletter⟩ := hstart
    by_cases hblank : isBlank c = true
    · rw [List.takeWhile_cons_of_neg (by simp [hblank])]
      decide
    · rw [List.takeWhile_cons_of_pos (by simp [hblank])]
      simp [isIndex, isDigits, isRunOf, hdigit, hletter]

/-- **A line that begins neither with a digit nor like the placeholder is no row.** -/
theorem RuntimeTable.row?_eq_none {line : List Char} (h : isCaption line = true) :
    row? line = none := by
  have hindexed : indexed line = none := by
    unfold indexed
    rw [Scan.bind_blanks]
    exact Scan.bind_of_eq_none (columnThen_eq_none (word_of_isCaption h).2) _
  have hunindexed : unindexed line = none := by
    unfold unindexed columns
    rw [Scan.bind_blanks]
    exact Scan.bind_of_eq_none (columnThen_eq_none (word_of_isCaption h).1) _
  rw [row?_eq, Scan.front?_of_eq_none hindexed, Scan.front?_of_eq_none hunindexed]
  rfl

/-- The table of threads as it is printed. -/
structure PrintedThreads where
  /-- The lines in front of the headings. -/
  caption : List (List Char) := []
  headingIndents : ℕ → ℕ := fun _ => 0
  rows : List PrintedThread
  isLine_caption : ∀ l ∈ caption, IsLine l := by decide
  isCaption_caption : caption.all RuntimeTable.isCaption = true := by decide

namespace PrintedThreads

/-- The headings of the columns but the last one. -/
def headings : List Word :=
  [{ chars := "DBG".toList }, { chars := "ID".toList }, { chars := "OSID".toList },
    { chars := "ThreadOBJ".toList }, { chars := "State".toList }, { chars := "GC".toList },
    { chars := "Mode".toList }, { chars := "GC".toList }, { chars := "Alloc".toList },
    { chars := "Context".toList }, { chars := "Domain".toList }, .countHeading,
    { chars := "Apt".toList }]

variable (table : PrintedThreads)

/-- The line with the headings. -/
def heading : List Char :=
  rowText (headings.zipIdx.map fun (w, i) => (table.headingIndents i, w))
    (List.replicate (table.headingIndents headings.length) ' ' ++ "Exception".toList)

/-- The lines of the table. -/
def body : List (List Char) :=
  table.caption ++ table.heading :: table.rows.map PrintedThread.printed

/-- The table as a text. -/
def text : String := .ofList (unlines table.body)

theorem isCaption_heading : RuntimeTable.isCaption table.heading = true := by
  have hstart : trimStart table.heading = 'D' :: _ := trimStart_rowText _ _ _ _
  unfold RuntimeTable.isCaption
  rw [hstart, List.head?_cons]
  decide

theorem isLine_of_mem_body {l : List Char} (h : l ∈ table.body) : IsLine l := by
  have hlast : IsLine "Exception".toList := by decide
  unfold body at h
  rcases List.mem_append.1 h with h | h
  · exact table.isLine_caption l h
  rcases List.mem_cons.1 h with rfl | h
  · exact isLine_rowText ((isLine_replicate _).append hlast) _
  · obtain ⟨t, -, rfl⟩ := List.mem_map.1 h
    exact t.isLine_printed

/-- The text has the headings that tables are known by. -/
theorem isTable_text : isTable table.text = true := by
  have hmentions : ∀ (i : ℕ) {w : Word}, headings[i]? = some w →
      mentions table.text (.ofList w.chars) = true := by
    intro i w hw
    have hcolumn : (table.headingIndents i, w) ∈
        headings.zipIdx.map fun (w, i) => (table.headingIndents i, w) :=
      List.mem_map.2 ⟨(w, i), List.mem_zipIdx_iff_getElem?.2 hw, rfl⟩
    have hheading : w.chars <:+: table.heading := infix_rowText hcolumn
    have hbody : table.heading ∈ table.body := List.mem_append_right _ List.mem_cons_self
    unfold mentions text
    rw [occursIn_iff, String.toList_ofList, String.toList_ofList]
    exact hheading.trans (infix_unlines hbody)
  unfold isTable
  rw [Bool.and_eq_true]
  exact ⟨hmentions 3 rfl, hmentions 2 rfl⟩

/-- **The rows of a table are those that were written.** -/
theorem rows_text : RuntimeTable.rows table.text = table.rows.map PrintedThread.row := by
  have hcaption : table.caption.filterMap row? = [] :=
    List.filterMap_eq_nil_iff.2 fun l hl =>
      row?_eq_none (List.all_eq_true.1 table.isCaption_caption l hl)
  have hrow : row? ∘ PrintedThread.printed = some ∘ PrintedThread.row :=
    funext PrintedThread.row?_printed
  unfold RuntimeTable.rows text
  rw [String.toList_ofList, lines_unlines fun _ => table.isLine_of_mem_body]
  unfold body
  rw [List.filterMap_append, hcaption, List.nil_append,
    List.filterMap_cons_none (row?_eq_none table.isCaption_heading), List.filterMap_map, hrow,
    List.filterMap_eq_map]

end PrintedThreads

end Postmortem
