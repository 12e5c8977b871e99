import Postmortem.Proofs.Thread.Printing
import Postmortem.Thread.Listing

/-!
# Printed threads are read back

Every column of a printed row is either a number or told apart by its place, so what is left to
read is the remarks: tags are cut out of them one by one, and the first word of the rest is the
exception's type if it has a dot.

* `splitTags_mark`: cutting out a tag leaves a blank in its place.
* `describeState_eq_nil_iff`: a state without names has no bits.
* `thread_row`: a row is read as the thread that was printed.
* `threads_text`: **a table with at least one row is read as the threads that were printed**.
-/

namespace Postmortem

open Text RuntimeTable

/-! ## Ids -/

/-- The id that a number has when it is printed in base ten: its digits can be read in base
sixteen as well. -/
def ThreadId.ofDecimal (n : ℕ) : ThreadId :=
  ⟨toString n, (some (numeral 16 (Nat.toDigits 10 n))).filter (· < 2 ^ 64),
    (some n).filter (· < 2 ^ 64)⟩

theorem ThreadId.parse_toDigits (n : ℕ) :
    ThreadId.parse (.ofList (Nat.toDigits 10 n)) = .ofDecimal n := by
  have hdigits : (Nat.toDigits 10 n).all Char.isDigit = true :=
    List.all_eq_true.2 fun _ => isDigit_of_mem_toDigits
  have hrun : Address.isHexRun (Nat.toDigits 10 n) = true :=
    Address.isHexRun_of_run Nat.toDigits_ne_nil (isHexDigit_of_mem_toDigits n)
  have hid := HexText.id_eq { digits := Nat.toDigits 10 n, isRun := hrun }
  have hdecimal : HexText.decimal? { digits := Nat.toDigits 10 n, isRun := hrun } = some n := by
    unfold HexText.decimal?
    rw [if_pos ⟨rfl, hdigits⟩, numeral_toDigits (by decide) (by decide)]
  rw [hdecimal] at hid
  exact hid

namespace HexRun

variable (r : HexRun)

/-- The id that is printed as the digits. -/
def id : ThreadId :=
  ⟨.ofList r.digits, (some r.value).filter (· < 2 ^ 64),
    r.toHexText.decimal?.filter (· < 2 ^ 64)⟩

theorem parse_digits : ThreadId.parse (.ofList r.digits) = r.id := r.toHexText.id_eq

theorem readUnsigned?_digits {bits : ℕ} (h : r.value < 2 ^ bits) :
    readUnsigned? 16 bits r.digits = some r.value := by
  rw [readUnsigned?_of_run bits r.ne_nil (digitValue?_isSome_of_isHexDigit r.isHexDigit_of_mem)]
  exact Option.filter_some_pos (decide_eq_true h)

end HexRun

/-! ## States -/

/-- **A state without names has no bits**, since each of the 32 bits has a name. -/
theorem describeState_eq_nil_iff {bits : ℕ} (h : bits < 2 ^ 32) :
    describeState bits = [] ↔ bits = 0 := by
  unfold describeState
  rw [List.map_eq_nil_iff, List.filter_eq_nil_iff]
  constructor
  · intro hnone
    -- bit by bit: those with a name are told apart from those that the state has no room for
    refine Nat.eq_of_testBit_eq fun i => ?_
    rw [Nat.zero_testBit]
    by_cases hi : i < stateFlags.length
    · have hflag : (stateFlags[i], i) ∈ stateFlags.zipIdx :=
        List.mem_zipIdx_iff_getElem?.2 (List.getElem?_eq_getElem hi)
      simpa using hnone _ hflag
    · have hlen : stateFlags.length = 32 := rfl
      exact Nat.testBit_lt_two_pow (h.trans_le (Nat.pow_le_pow_right (by decide) (by omega)))
  · rintro rfl flag -
    simp

/-! ## Remarks -/

theorem splitTags_of_noOpen {cs : List Char} (h : '(' ∉ cs) : splitTags cs = ([], cs) := by
  have hcut := cutAt?_eq_none h
  unfold splitTags
  split
  · rfl
  · rename_i hopen
    rw [hcut] at hopen
    cases hopen

/-- **Cutting out a tag leaves a blank in its place.** -/
theorem splitTags_mark (tag : PrintedTag) (cs : List Char) :
    splitTags (tag.mark ++ cs) = (tag.chars :: (splitTags cs).1, ' ' :: (splitTags cs).2) := by
  have hopen : cutAt? ['('] (tag.mark ++ cs) = some ([], tag.chars ++ ')' :: cs) := by
    have hmark : tag.mark ++ cs = [] ++ '(' :: (tag.chars ++ ')' :: cs) := by simp [PrintedTag.mark]
    rw [hmark]
    exact cutAt?_append List.not_mem_nil _
  have hclose : cutAt? [')'] (tag.chars ++ ')' :: cs) = some (tag.chars, cs) :=
    cutAt?_append tag.noClose cs
  rw [splitTags]
  split
  · rename_i h
    rw [hopen] at h
    cases h
  · rename_i before behind h
    rw [hopen] at h
    obtain ⟨rfl, rfl⟩ := Prod.mk.inj (Option.some.inj h)
    split
    · rename_i h'
      rw [hclose] at h'
      cases h'
    · rename_i inside after h'
      rw [hclose] at h'
      obtain ⟨rfl, rfl⟩ := Prod.mk.inj (Option.some.inj h')
      rw [tag.trimmed]
      rfl

namespace PrintedFault

variable (fault : PrintedFault)

/-- The type of the exception is its first word. -/
theorem exceptionIn_text (n : ℕ) :
    exceptionIn (List.replicate n ' ' ++ fault.text) = some (.ofList fault.typeName.chars) := by
  have hdot : fault.typeName.chars.contains '.' = true := List.contains_iff_mem.2 fault.dot
  have hwords : words fault.text = fault.typeName.chars ::
      words (List.replicate fault.indent ' ' ++ fault.address.digits) :=
    words_append fault.typeName.ne_nil fault.typeName.noBlank _
  unfold exceptionIn
  rw [words_replicate_append, hwords, List.head?_cons, Option.filter_some, if_pos hdot]
  rfl

end PrintedFault

namespace PrintedThread

variable (t : PrintedThread)

/-- The remarks have the tag and the exception that were printed. -/
theorem splitTags_marks : ∃ plain,
    splitTags t.marks = ((t.tag.map PrintedTag.chars).toList, plain) ∧
      exceptionIn plain = t.fault.map fun fault => .ofList fault.typeName.chars := by
  have hspaces : ∀ n (fault : PrintedFault), '(' ∉ List.replicate n ' ' ++ fault.text := by
    intro n fault h
    rcases List.mem_append.1 h with h | h
    · exact absurd (List.eq_of_mem_replicate h) (by decide)
    · exact fault.noOpen_text h
  unfold marks
  cases t.tag with
  | none =>
    cases t.fault with
    | none => exact ⟨[], splitTags_of_noOpen List.not_mem_nil, rfl⟩
    | some fault =>
      exact ⟨fault.text, splitTags_of_noOpen fault.noOpen_text, fault.exceptionIn_text 0⟩
  | some tag =>
    cases t.fault with
    | none =>
      have hsplit := splitTags_mark tag []
      rw [List.append_nil, splitTags_of_noOpen List.not_mem_nil] at hsplit
      exact ⟨[' '], hsplit, by decide⟩
    | some fault =>
      have hsplit := splitTags_mark tag (List.replicate (t.indents 11 + 1) ' ' ++ fault.text)
      rw [splitTags_of_noOpen (hspaces _ fault)] at hsplit
      exact ⟨_, hsplit, fault.exceptionIn_text (t.indents 11 + 2)⟩

/-! ## Threads -/

/-- Whether the thread is one of a pool: its state or its tag says so. -/
def IsPool : Prop :=
  t.state.value.testBit 24 = true ∨ t.state.value.testBit 27 = true ∨
    ∃ tag ∈ t.tag, "threadpool".toList <:+: asciiLower tag.chars

instance : Decidable t.IsPool := inferInstanceAs (Decidable (_ ∨ _ ∨ _))

/-- The thread that is printed. -/
def thread : Thread where
  id := .ofDecimal (t.index.getD t.managedId)
  osThreadId := some t.osId.id
  managedId := some t.managedId
  name := t.tag.map fun tag => .ofList tag.chars
  state := if t.state.value = 0 then "Running" else ", ".intercalate (describeState t.state.value)
  isFaulting := t.fault.isSome
  isThreadPool := decide t.IsPool
  lockCount := t.lockCount.value.toNat
  exception := t.fault.map fun fault => .ofList fault.typeName.chars

/-- The id is that of the index, or else of the managed id. -/
theorem index_row : (t.row.index.filter (· != "XXXX".toList)).getD t.row.managedId =
    Nat.toDigits 10 (t.index.getD t.managedId) := by
  unfold row indexWord
  cases t.index with
  | none => rfl
  | some n =>
    -- no number is printed like the placeholder
    have hletter : Nat.toDigits 10 n ≠ "XXXX".toList := by
      intro h
      have hdigit := isDigit_of_mem_toDigits (n := n) (c := 'X') (by rw [h]; decide)
      exact absurd hdigit (by decide)
    have hkept : (some (Nat.toDigits 10 n)).filter (· != "XXXX".toList) =
        some (Nat.toDigits 10 n) := by
      rw [Option.filter_some, if_pos (bne_iff_ne.2 hletter)]
    exact congrArg (Option.getD · (Nat.toDigits 10 t.managedId)) hkept

theorem stateBits_row : t.row.stateBits = t.state.value := by
  unfold RuntimeTable.Row.stateBits
  rw [show t.row.state = t.state.digits from rfl, t.state.readUnsigned?_digits t.state_fits]
  rfl

theorem readUnsigned?_managedId_row : readUnsigned? 10 32 t.row.managedId = some t.managedId :=
  readUnsigned?_toDigits t.managedId_fits

theorem isPool_eq : (isPoolState t.state.value ||
    (t.tag.map PrintedTag.chars).toList.any fun tag =>
      occursIn "threadpool".toList (asciiLower tag)) = decide t.IsPool := by
  rw [Bool.eq_iff_iff, decide_eq_true_eq]
  unfold isPoolState IsPool
  rw [Bool.or_eq_true, Bool.or_eq_true, or_assoc]
  refine or_congr_right (or_congr_right ?_)
  cases t.tag with
  | none => simp
  | some tag => simp [occursIn_iff]

theorem state_row : ", ".intercalate (if (describeState t.state.value).isEmpty then ["Running"]
    else describeState t.state.value) = t.thread.state := by
  unfold thread
  by_cases hzero : t.state.value = 0
  · rw [if_pos hzero, (describeState_eq_nil_iff t.state_fits).2 hzero]
    rfl
  · have hne : ¬ (describeState t.state.value).isEmpty = true := by
      rw [List.isEmpty_iff, describeState_eq_nil_iff t.state_fits]
      exact hzero
    rw [if_neg hzero, if_neg hne]

/-- **A row is read as the thread that was printed.** -/
theorem thread_row : t.row.thread = t.thread := by
  obtain ⟨plain, hsplit, hexception⟩ := t.splitTags_marks
  have hremarks : splitTags (trim t.row.remarks) = ((t.tag.map PrintedTag.chars).toList, plain) :=
    (congrArg splitTags t.trim_remarks).trans hsplit
  have hid : ThreadId.parse (.ofList t.row.osId) = t.osId.id := t.osId.parse_digits
  have hlocks : ((readInt64? t.row.lockCount).getD 0).toNat % 2 ^ 32 = t.lockCount.value.toNat :=
    t.lockCount.toNat_readInt64?_chars
  have hname : (t.tag.map PrintedTag.chars).toList.head?.map String.ofList =
      t.tag.map fun tag => .ofList tag.chars := by
    cases t.tag <;> rfl
  have hfaulting : (t.fault.map fun fault => String.ofList fault.typeName.chars).isSome =
      t.fault.isSome := Option.isSome_map
  unfold RuntimeTable.Row.thread
  simp only [hremarks, hexception, hid, hlocks, hname, hfaulting, t.index_row,
    ThreadId.parse_toDigits, t.stateBits_row, t.readUnsigned?_managedId_row, t.isPool_eq,
    t.state_row]
  rfl

end PrintedThread

/-- **A table with at least one row is read as the threads that were printed**, in their order. -/
theorem PrintedThreads.threads_text (table : PrintedThreads) (hrows : table.rows ≠ []) :
    Thread.ofListing? table.text = some (table.rows.map PrintedThread.thread) := by
  have hthread : RuntimeTable.Row.thread ∘ PrintedThread.row = PrintedThread.thread :=
    funext PrintedThread.thread_row
  have hne : (table.rows.map PrintedThread.thread).isEmpty = false := by simpa using hrows
  unfold Thread.ofListing?
  rw [if_pos table.isTable_text, table.rows_text, List.map_map, hthread]
  unfold nonEmpty?
  rw [hne]
  rfl

/-- A dead thread, and a worker with a tag and an exception. -/
def deadAndWorker : PrintedThreads where
  caption := ["ThreadCount:      2".toList, "Hosted Runtime:   no".toList]
  rows := [
    { index := none
      managedId := 2
      osId := { digits := ['0'] }
      object := "000001D4A1B4C3D0".toList
      state := { digits := "39820".toList }
      mode := .preemptive
      allocation := { chars := "0:0".toList }
      domain := { chars := "000001D4A1B00000".toList }
      lockCount := { value := -1, zeros := 4 }
      apartment := { chars := "Ukn".toList }
      isPointer := ⟨List.all_eq_true.1 (by decide), by decide, by decide⟩ },
    { index := some 9
      managedId := 3
      osId := { digits := "2c10".toList }
      object := "000001D4A1B5C3D0".toList
      state := { digits := "0020".toList }
      mode := .cooperative
      allocation := { chars := "0:0".toList }
      domain := { chars := "000001D4A1B00000".toList }
      lockCount := { value := 1 }
      apartment := { chars := "MTA".toList }
      tag := some { chars := "ThreadPool Worker".toList }
      fault := some
        { typeName := { chars := "System.IO.IOException".toList }
          address := { digits := "000001d4a1b6c3d0".toList } }
      isPointer := ⟨List.all_eq_true.1 (by decide), by decide, by decide⟩ }]

theorem threads_text_deadAndWorker :
    deadAndWorker.rows ≠ [] ∧
    deadAndWorker.text =
      "ThreadCount:      2\nHosted Runtime:   no\n" ++
      "DBG ID OSID ThreadOBJ State GC Mode GC Alloc Context Domain Count Apt Exception\n" ++
      "XXXX 2 0 000001D4A1B4C3D0 39820 Preemptive 0:0 000001D4A1B00000 -00001 Ukn\n" ++
      "9 3 2c10 000001D4A1B5C3D0 0020 Cooperative 0:0 000001D4A1B00000 1 MTA " ++
      "(ThreadPool Worker) System.IO.IOException 000001d4a1b6c3d0\n" ∧
    Thread.ofListing? deadAndWorker.text = some [
      { id := ⟨"2", some 2, some 2⟩
        osThreadId := some ⟨"0", some 0, some 0⟩
        managedId := some 2
        state := "Legal to Join, Dead, CLR Owns, In Multi Threaded Apartment, Reported Dead, " ++
          "Fully initialized" },
      { id := ⟨"9", some 9, some 9⟩
        osThreadId := some ⟨"2c10", some 0x2c10, none⟩
        managedId := some 3
        name := some "ThreadPool Worker"
        state := "Legal to Join"
        isFaulting := true
        isThreadPool := true
        lockCount := 1
        exception := some "System.IO.IOException" }] :=
  ⟨List.cons_ne_nil _ _, by decide +kernel,
    (PrintedThreads.threads_text deadAndWorker (List.cons_ne_nil _ _)).trans
      (by decide +kernel)⟩

end Postmortem
