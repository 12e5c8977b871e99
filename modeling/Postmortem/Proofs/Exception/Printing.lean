import Postmortem.Proofs.Exception.ResultCodes
import Postmortem.Proofs.Text.PrintedLines

/-!
# Printed exceptions

The runtime-aware debugger prints an exception as a section of lines: properties around a table of
the places that it passed through. The outermost exception of a chain comes first, each section
names the exception inside, and a rule stands between two sections. `PrintedException.text` is
this printer; here each of its sections is read back.

* `readLine_property`, `readLine_place`: what a line adds to the record.
* `foldl_readLine_printed`: a printed section is read as the record of its exception.
-/

namespace Postmortem

open Text

/-- A text that can be the value of a property: none that stands for a missing value. -/
structure LineValue extends LineText where
  shown : placeholders.contains text = false := by decide

/-- What is printed where a value is missing. -/
def missingValue : LineText where
  text := "<none>"

/-- The text of a value that may be missing. -/
def LineValue.orMissing (v? : Option LineValue) : LineText :=
  v?.elim missingValue LineValue.toLineText

/-- A place that an exception passed through. -/
structure TracePlace where
  stackPointer : Address
  instructionPointer : Address
  site : LineText

/-- An exception to be printed. -/
structure PrintedException where
  address : Address
  typeName : LineValue
  message : Option LineValue := none
  resultCode : Option UInt32 := none
  places : List TracePlace := []

/-! ## The printer -/

/-- A pointer in a row: sixteen digits, in capitals. -/
def pointerText (a : Address) : List Char := (hexPadded 16 a.toNat).map Char.toUpper

/-- A row of the stack trace. -/
def TracePlace.line (place : TracePlace) : List Char :=
  pointerRow 4 (pointerText place.stackPointer) (pointerText place.instructionPointer) place.site

/-- The line in front of the stack trace. -/
def traceHeading : List Char := "StackTrace (generated):".toList

/-- The names of the columns of the stack trace. -/
def traceColumns : List Char := "    SP               IP               Function".toList

/-- The table of the places, if there are any. -/
def traceTable : List TracePlace → List (List Char)
  | [] => [missingValue.text.toList]
  | place :: places => traceColumns :: (place :: places).map TracePlace.line

/-- The rule between two sections. -/
def nestedRule : List Char := "Nested exception ".toList ++ List.replicate 61 '-'

namespace PrintedException

variable (e : PrintedException) (inner? : Option PrintedException)

/-- What is said about an exception inside: its type and the command that prints it. -/
def reference : LineValue where
  text := .ofList (e.typeName.text.toList ++ (", Use !PrintException ".toList ++
    hexPadded 16 e.address.toNat ++ " to see more.".toList))
  ne_nil := by
    rw [String.toList_ofList]
    exact List.append_ne_nil_of_left_ne_nil e.typeName.ne_nil _
  noFeed := by
    have hdigits : '\n' ∉ hexPadded 16 e.address.toNat :=
      fun h => absurd (isHexDigit_of_mem_hexPadded h) (by decide)
    rw [String.toList_ofList]
    simp [e.typeName.noFeed, hdigits]
  trimmed := by
    have hend : trim "to see more.".toList = "to see more.".toList := by decide
    have hends := trim_between e.typeName.trimmed e.typeName.ne_nil hend (by decide)
      (", Use !PrintException ".toList ++ hexPadded 16 e.address.toNat ++ [' '])
    rw [List.append_assoc _ [' ']] at hends
    rw [String.toList_ofList]
    exact hends
  shown := by
    have hshort : ∀ s ∈ placeholders, s.toList.length < 10 := by decide
    have hlong : 10 < (", Use !PrintException ".toList).length := by decide
    rw [List.contains_eq_mem, decide_eq_false_iff_not]
    intro h
    have hlen := hshort _ h
    rw [String.toList_ofList] at hlen
    simp only [List.length_append] at hlen
    omega

/-- The first lines of a section. -/
def head : List (List Char) :=
  [property "Exception object" 1 (.hex 16 e.address.toNat),
    property "Exception type" 3 e.typeName.toLineText,
    property "Message" 10 (LineValue.orMissing e.message)]

/-- The section of an exception with a given one inside, which a blank line separates from the
next section. -/
def printed : List (List Char) :=
  e.head ++
    [property "InnerException" 3 (LineValue.orMissing (inner?.map reference)), traceHeading] ++
    traceTable e.places ++ [[], property "StackTraceString" 1 missingValue] ++
    (e.resultCode.toList.map fun code => property "HResult" 1 (.hex 8 code.toNat)) ++
    inner?.toList.map fun _ => []

/-- The sections of a chain, outermost exception first. -/
def sections : List PrintedException → List (List (List Char))
  | [] => []
  | e :: es => e.printed es.head? :: sections es

/-- The lines of a chain: its sections with rules between them. -/
def listing (es : List PrintedException) : List (List Char) :=
  [nestedRule].intercalate (sections es)

/-- The text of a chain. -/
def text (es : List PrintedException) : String := .ofList (unlines (listing es))

/-- The record of an exception with a given one inside. -/
def record : ExceptionRecord :=
  let inner := inner?.bind fun inner => ExceptionRecord.readInner? inner.reference.text.toList
  { address := some e.address
    typeName := some e.typeName.text
    message := e.message.map (·.text)
    innerType := inner.map Prod.fst
    innerAddress := inner.bind Prod.snd
    hresult := e.resultCode.map fun code => resultCodeText code.toNat
    stackTrace := e.places.map (·.site.text) }

end PrintedException

/-! ## Values and rows -/

theorem LineValue.value? (v : LineValue) : Text.value? v.text.toList = some v.text := by
  have hshown := v.shown
  unfold Text.value?
  simp only [v.trimmed, String.ofList_toList, hshown, Bool.false_eq_true, if_false]

/-- A value that may be missing is read as what it is. -/
theorem LineValue.value?_orMissing (v? : Option LineValue) :
    Text.value? (orMissing v?).text.toList = v?.map (·.text) := by
  cases v? with
  | none => decide
  | some v => exact v.value?

theorem isPointer_pointerText (a : Address) : IsPointer (pointerText a) := by
  have hupper : ∀ c, isHexDigit c = true → isHexDigit c.toUpper = true :=
    forall_isHexDigit (by decide)
  have hlen : (pointerText a).length = 16 := by
    unfold pointerText
    rw [List.length_map]
    exact length_hexPadded (by decide) a.value.toNat_lt
  refine ⟨fun c hc => ?_, by omega, by omega⟩
  obtain ⟨d, hd, rfl⟩ := List.mem_map.1 hc
  exact hupper d (isHexDigit_of_mem_hexPadded hd)

theorem TracePlace.pointerRow?_line (place : TracePlace) : pointerRow? place.line =
    some (pointerText place.stackPointer, some (pointerText place.instructionPointer),
      place.site.text.toList) :=
  pointerRow?_pointerRow (isPointer_pointerText _) (isPointer_pointerText _) 4 place.site

/-- Trimmed, a row begins with a hexadecimal digit. -/
theorem TracePlace.trim_line (place : TracePlace) :
    ∃ c rest, trim place.line = c :: rest ∧ isHexDigit c = true := by
  have hsp := isPointer_pointerText place.stackPointer
  obtain ⟨c, rest, hc⟩ := List.exists_cons_of_ne_nil hsp.ne_nil
  have hdigit := hsp.run c (by rw [hc]; exact List.mem_cons_self)
  unfold TracePlace.line
  rw [trim_pointerRow hsp, hc]
  exact ⟨c, _, rfl, hdigit⟩

/-! ## Reading a section -/

namespace ExceptionRecord

variable (r : ExceptionRecord) {label : String}

/-- Adds sites to the stack trace. -/
def addSites (sites : List String) : ExceptionRecord :=
  { r with stackTrace := r.stackTrace ++ sites }

@[simp] theorem addSites_nil : r.addSites [] = r := by simp [addSites]

@[simp] theorem addSites_addSites (sites more : List String) :
    (r.addSites sites).addSites more = r.addSites (sites ++ more) := by simp [addSites]

/-- **A property is stored under its label.** -/
theorem readLine_property (hlabel : IsLabel label) (htrace : label ≠ "StackTrace (generated)")
    (spaces : ℕ) (value : LineText) : readLine { record := r } (property label spaces value) =
      { record := r.store label value.text.toList } := by
  have hne := property_ne_nil hlabel spaces value
  unfold readLine
  simp only [trim_property hlabel, Bool.false_eq_true, if_false]
  rw [if_neg (by simpa using hne)]
  unfold readProperty
  rw [labelled?_property hlabel]
  split
  · rename_i heq
    simp only [Option.some.injEq, Prod.mk.injEq] at heq
    exact absurd heq.1 htrace
  · rename_i heq
    simp only [Option.some.injEq, Prod.mk.injEq] at heq
    rw [heq.1, heq.2]
  · rename_i heq
    cases heq

theorem readLine_traceHeading :
    readLine { record := r } traceHeading = { record := r, inTrace := true } := by
  have htrim : trim traceHeading = traceHeading := by decide
  have hlabel : labelled? traceHeading = some ("StackTrace (generated)", []) := by decide
  unfold readLine
  simp only [htrim, Bool.false_eq_true, if_false]
  rw [if_neg (by decide)]
  unfold readProperty
  rw [hlabel]
  rfl

/-- **A row of the stack trace adds its site.** -/
theorem readLine_place (place : TracePlace) :
    readLine { record := r, inTrace := true } place.line =
      { record := r.addSites [place.site.text], inTrace := true } := by
  obtain ⟨c, rest, htrim, hc⟩ := place.trim_line
  have hcolumns : "SP ".toList.isPrefixOf (c :: rest) = false := by
    have hne : ∀ c, isHexDigit c = true → ('S' == c) = false := forall_isHexDigit (by decide)
    simp [List.isPrefixOf, hne c hc]
  have hmissing : (c :: rest == "<none>".toList) = false := by
    have hne : ∀ c, isHexDigit c = true → (c == '<') = false := forall_isHexDigit (by decide)
    show (c :: rest == '<' :: "none>".toList) = false
    rw [List.cons_beq_cons, hne c hc, Bool.false_and]
  unfold readLine
  simp only [htrim, hcolumns, hmissing, List.isEmpty_cons, Bool.false_eq_true, if_false, if_true,
    Bool.or_false, place.pointerRow?_line, String.ofList_toList]
  rfl

/-- The names of the columns, and what stands for a missing table, are skipped. -/
theorem readLine_of_skipped {line : List Char} (hne : trim line ≠ [])
    (h : "SP ".toList.isPrefixOf (trim line) ∨ trim line = "<none>".toList) :
    readLine { record := r, inTrace := true } line = { record := r, inTrace := true } := by
  unfold readLine
  simp only [if_true]
  rw [if_neg (by simpa using hne), if_pos (by simpa using h)]

/-- A blank line ends the stack trace. -/
theorem readLine_nil (s : State) : readLine s [] = { record := s.record } := rfl

/-- **The stack trace has the sites of the table.** -/
theorem foldl_readLine_traceTable (places : List TracePlace) :
    (traceTable places).foldl readLine { record := r, inTrace := true } =
      { record := r.addSites (places.map (·.site.text)), inTrace := true } := by
  have hrows : ∀ (places : List TracePlace) (r : ExceptionRecord),
      (places.map TracePlace.line).foldl readLine { record := r, inTrace := true } =
        { record := r.addSites (places.map (·.site.text)), inTrace := true } := by
    intro places
    induction places with
    | nil => simp
    | cons place places ih =>
      intro r
      rw [List.map_cons, List.foldl_cons, readLine_place, ih, addSites_addSites]
      rfl
  cases places with
  | nil =>
    rw [traceTable, List.foldl_cons, List.foldl_nil, readLine_of_skipped r (by decide) (by decide)]
    simp
  | cons place places =>
    rw [traceTable, List.foldl_cons, readLine_of_skipped r (by decide) (by decide), hrows]

/-- **A result code is printed without prefix, and read back with one.** -/
theorem formatResultCode?_hexPadded (code : UInt32) :
    formatResultCode? .sixteen (hexPadded 8 code.toNat) = some (resultCodeText code.toNat) :=
  formatResultCode?_codeDigits .bare (fun _ => rfl) code

/-- The reference to the exception inside is stored as it is read. -/
theorem store_reference (inner? : Option PrintedException) : r.store "InnerException"
    (LineValue.orMissing (inner?.map PrintedException.reference)).text.toList =
      match inner?.bind fun inner => readInner? inner.reference.text.toList with
      | some (innerType, innerAddress) => { r with innerType := some innerType, innerAddress }
      | none => r := by
  have hvalue := LineValue.value?_orMissing (inner?.map PrintedException.reference)
  simp only [store, hvalue, Option.map_map]
  cases inner? <;> rfl

theorem foldl_readLine_resultCode (code? : Option UInt32) :
    (code?.toList.map fun code => property "HResult" 1 (.hex 8 code.toNat)).foldl readLine
      { record := r } = { record := code?.elim r fun code =>
        { r with hresult := some (resultCodeText code.toNat) } } := by
  cases code? with
  | none => rfl
  | some code =>
    rw [Option.toList_some, List.map_singleton, List.foldl_cons, List.foldl_nil,
      readLine_property _ (by decide) (by decide)]
    simp only [store, LineText.toList_hex, formatResultCode?_hexPadded, Option.elim_some]

/-- **A printed section is read as the record of its exception.** -/
theorem foldl_readLine_printed (e : PrintedException) (inner? : Option PrintedException) :
    (e.printed inner?).foldl readLine {} = { record := e.record inner? } := by
  have hmessage := LineValue.value?_orMissing e.message
  have hmissing : value? missingValue.text.toList = none := by decide
  have hblank : ∀ r : ExceptionRecord, (inner?.toList.map fun _ => []).foldl readLine
      { record := r } = { record := r } := by
    intro r
    cases inner? <;> rfl
  unfold PrintedException.printed PrintedException.head PrintedException.record
  -- the heading starts the stack trace and the blank line behind its table ends it, so the
  -- properties on both sides are read as such
  simp only [List.foldl_append, List.foldl_cons, List.foldl_nil]
  rw [readLine_property _ (by decide) (by decide), readLine_property _ (by decide) (by decide),
    readLine_property _ (by decide) (by decide), readLine_property _ (by decide) (by decide),
    readLine_traceHeading, foldl_readLine_traceTable, readLine_nil,
    readLine_property _ (by decide) (by decide), foldl_readLine_resultCode, hblank,
    store_reference]
  simp only [store, LineText.toList_hex, Address.read?_hexPadded, e.typeName.value?, hmessage,
    hmissing]
  generalize inner?.bind (fun inner => readInner? inner.reference.text.toList) = inner
  cases inner <;> cases e.resultCode <;> rfl

end ExceptionRecord

end Postmortem
