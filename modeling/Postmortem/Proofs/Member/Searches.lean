import Postmortem.Member.Listing
import Postmortem.Proofs.Text.PrintedLines

/-!
# Answers to searches for a type

The answer to a search for a type name has a block for each module that was searched
(`SearchBlock`). A block begins with the line of its module. The lines behind it come in any order,
and each field is there at most once or missing. What a block says is said by its own lines alone
(`SearchBlock.lookup`).

* `foldl_readLine`: the order of the fields of a block does not matter.
* `readBlocks_blocks`: a block without a method table leaves nothing to the next one.
* `ofListing?_blocks`: **a search returns what the first block says that has a method table**, and
  nothing if there is none.
-/

namespace Postmortem.TypeLookup

open Text

/-! ## Blocks -/

/-- What a block says about a type. -/
inductive SearchField where
  | assembly
  | methodTable
  | eeClass
  | name
deriving DecidableEq, Repr

/-- The label of a field. -/
def SearchField.label : SearchField → String
  | assembly => "Assembly"
  | methodTable => "MethodTable"
  | eeClass => "EEClass"
  | name => "Name"

/-- The line of a field, perhaps indented. -/
def labelledLine (indent : ℕ) (label : String) (value : List Char) : List Char :=
  fieldLine (List.replicate indent ' ' ++ label.toList) value

/-- A line behind the first one of a block: a field or a line without a colon. -/
inductive SearchLine where
  | field (indent : ℕ) (field : SearchField) (value : List Char)
  | plain (text : List Char) (noColon : ':' ∉ text := by decide)

namespace SearchLine

/-- The line as it is printed. -/
def chars : SearchLine → List Char
  | field indent f value => labelledLine indent f.label value
  | plain text _ => text

/-- The field that a line is about. -/
def field? : SearchLine → Option SearchField
  | field _ f _ => some f
  | plain _ _ => none

/-- What a line says about a field. -/
def value? (f : SearchField) : SearchLine → Option (List Char)
  | field _ g value => if g = f then some (trim value) else none
  | plain _ _ => none

end SearchLine

/-- What some lines say about a field. -/
def valueOf? (ls : List SearchLine) (f : SearchField) : Option (List Char) :=
  ls.findSome? (SearchLine.value? f)

/-- **The block of a module that was searched.** Each field is there at most once. -/
structure SearchBlock where
  indent : ℕ := 0
  moduleText : List Char
  lines : List SearchLine
  nodup : (lines.filterMap SearchLine.field?).Nodup := by decide

namespace SearchBlock

/-- The lines of a block as they are printed. -/
def printed (b : SearchBlock) : List (List Char) :=
  labelledLine b.indent "Module" b.moduleText :: b.lines.map SearchLine.chars

/-- What a block says about the type. A value that cannot be read counts as missing. -/
def lookup (b : SearchBlock) : TypeLookup where
  methodTable := (valueOf? b.lines .methodTable).bind Address.read?
  eeClass := (valueOf? b.lines .eeClass).bind Address.read?
  name := (valueOf? b.lines .name).bind Text.value?
  assembly := (valueOf? b.lines .assembly).bind Text.value?

end SearchBlock

/-! ## Lines -/

/-- Labels are read without the blanks in front of them. -/
theorem labelled?_labelledLine {label : String} (h : IsLabel label) (indent : ℕ)
    (value : List Char) : labelled? (labelledLine indent label value) = some (label, trim value) := by
  have htrim : trim (List.replicate indent ' ' ++ label.toList) = label.toList := by
    rw [trim_replicate_append, h.trimmed]
  have hcolon : ':' ∉ List.replicate indent ' ' ++ label.toList := by
    simp [h.noColon]
  unfold labelledLine
  rw [labelled?_fieldLine hcolon (by rw [htrim]; exact h.ne_nil) (by rw [htrim]; exact h.short),
    htrim, String.ofList_toList]

theorem isLabel_label (f : SearchField) : IsLabel f.label := by
  cases f <;> decide

/-- What a line adds to what is known. -/
def readLine (known : TypeLookup) : SearchLine → TypeLookup
  | .field _ f value => known.store f.label (trim value)
  | .plain _ _ => known

/-- Whether a type has been found: its method table tells. -/
def isFound (known : TypeLookup) : Bool := known.methodTable.isSome

section ReadBlocks

variable {line : List Char} {label : String} {value : List Char} (known : TypeLookup)
  (rest : List (List Char))

theorem readBlocks_of_module (h : labelled? line = some ("Module", value)) :
    readBlocks known (line :: rest) = if known.isFound then known else readBlocks {} rest := by
  have hblock : readBlocks known (line :: rest) =
      if known.methodTable.isNone then readBlocks {} rest else known := by
    rw [readBlocks, h]
    rfl
  unfold isFound
  rw [hblock]
  cases known.methodTable <;> rfl

theorem readBlocks_of_labelled (h : labelled? line = some (label, value))
    (hlabel : label ≠ "Module") :
    readBlocks known (line :: rest) = readBlocks (known.store label value) rest := by
  rw [readBlocks, h]
  split
  · rename_i hmodule
    exact absurd (Prod.mk.inj (Option.some.inj hmodule)).1 hlabel
  · rename_i hstored
    obtain ⟨rfl, rfl⟩ := Prod.mk.inj (Option.some.inj hstored)
    rfl
  · contradiction

theorem readBlocks_of_unlabelled (h : labelled? line = none) :
    readBlocks known (line :: rest) = readBlocks known rest := by
  rw [readBlocks, h]

/-- One line of a block is read. -/
theorem readBlocks_cons (l : SearchLine) :
    readBlocks known (l.chars :: rest) = readBlocks (known.readLine l) rest := by
  cases l with
  | field indent f value =>
    exact readBlocks_of_labelled known rest
      (labelled?_labelledLine (isLabel_label f) indent value) (by cases f <;> decide)
  | plain text noColon =>
    refine readBlocks_of_unlabelled known rest ?_
    unfold labelled?
    rw [SearchLine.chars, cutAt?_eq_none noColon]
    rfl

end ReadBlocks

theorem readBlocks_append (ls : List SearchLine) (known : TypeLookup) (rest : List (List Char)) :
    readBlocks known (ls.map SearchLine.chars ++ rest) = readBlocks (ls.foldl readLine known) rest := by
  induction ls generalizing known with
  | nil => rfl
  | cons line ls ih => rw [List.map_cons, List.cons_append, readBlocks_cons, ih, List.foldl_cons]

/-! ## Fields -/

/-- What is known when fields have been stored. -/
def update (known : TypeLookup) (values : SearchField → Option (List Char)) : TypeLookup where
  methodTable := (values .methodTable).elim known.methodTable Address.read?
  eeClass := (values .eeClass).elim known.eeClass Address.read?
  name := (values .name).elim known.name Text.value?
  assembly := (values .assembly).elim known.assembly Text.value?

/-- A field that has no other value is stored first or last. -/
theorem update_store (known : TypeLookup) {values : SearchField → Option (List Char)}
    {f : SearchField} (h : values f = none) (value : List Char) :
    (known.store f.label value).update values =
      known.update fun g => if f = g then some value else values g := by
  cases f <;> simp [update, store, SearchField.label, h]

theorem valueOf?_eq_none {ls : List SearchLine} {f : SearchField}
    (h : f ∉ ls.filterMap SearchLine.field?) : valueOf? ls f = none := by
  refine List.findSome?_eq_none_iff.2 fun l hl => ?_
  cases l with
  | plain text noColon => rfl
  | field indent g value =>
    refine if_neg ?_
    rintro rfl
    exact h (List.mem_filterMap.2 ⟨_, hl, rfl⟩)

theorem valueOf?_cons (indent : ℕ) (f : SearchField) (value : List Char) (ls : List SearchLine) :
    valueOf? (.field indent f value :: ls) =
      fun g => if f = g then some (trim value) else valueOf? ls g := by
  funext g
  unfold valueOf?
  rw [List.findSome?_cons]
  by_cases hg : f = g <;> simp [SearchLine.value?, hg]

/-- **The order of the fields of a block does not matter**: each of them is stored as its only line
says, whatever the other lines are. -/
theorem foldl_readLine (ls : List SearchLine) (known : TypeLookup)
    (h : (ls.filterMap SearchLine.field?).Nodup) :
    ls.foldl readLine known = known.update (valueOf? ls) := by
  induction ls generalizing known with
  | nil => rfl
  | cons l ls ih =>
    cases l with
    | plain text noColon => exact ih known h
    | field indent f value =>
      have hnodup := List.nodup_cons.1 h
      -- no other line is about this field, so storing it last makes no difference
      rw [List.foldl_cons, ih _ hnodup.2, valueOf?_cons,
        ← update_store known (valueOf?_eq_none hnodup.1)]
      rfl

theorem foldl_readLine_lines (b : SearchBlock) : b.lines.foldl readLine {} = b.lookup := by
  have hbind : ∀ {α : Type} (value? : Option (List Char)) (read? : List Char → Option α),
      value?.elim none read? = value?.bind read? := by
    intro α value? read?
    cases value? <;> rfl
  rw [foldl_readLine b.lines {} b.nodup]
  unfold update SearchBlock.lookup
  simp only [hbind]

/-! ## Answers -/

/-- The block of a module is read as a whole, unless a type has been found. -/
theorem readBlocks_printed (b : SearchBlock) (known : TypeLookup) (rest : List (List Char)) :
    readBlocks known (b.printed ++ rest) =
      if known.isFound then known else readBlocks b.lookup rest := by
  unfold SearchBlock.printed
  rw [List.cons_append,
    readBlocks_of_module known _ (labelled?_labelledLine (by decide) b.indent b.moduleText),
    readBlocks_append, foldl_readLine_lines]

/-- A type that has been found is not changed by the blocks behind it. -/
theorem readBlocks_of_isFound {known : TypeLookup} (h : known.isFound = true)
    (blocks : List SearchBlock) :
    readBlocks known (blocks.flatMap SearchBlock.printed) = known := by
  cases blocks with
  | nil => rfl
  | cons b blocks => rw [List.flatMap_cons, readBlocks_printed, if_pos h]

/-- **A block without a method table leaves nothing to the next one.** -/
theorem readBlocks_blocks (blocks : List SearchBlock) {known : TypeLookup}
    (h : known.isFound = false) :
    (some (readBlocks known (blocks.flatMap SearchBlock.printed))).filter isFound =
      (blocks.map SearchBlock.lookup).find? isFound := by
  -- `known` is what the blocks so far have left: anything but a method table
  induction blocks generalizing known with
  | nil => exact Option.filter_some_neg h
  | cons b blocks ih =>
    rw [List.flatMap_cons, readBlocks_printed, if_neg (ne_true_of_eq_false h), List.map_cons]
    cases hfound : b.lookup.isFound with
    | true =>
      rw [readBlocks_of_isFound hfound, List.find?_cons_of_pos hfound]
      exact Option.filter_some_pos hfound
    | false =>
      rw [List.find?_cons_of_neg (ne_true_of_eq_false hfound)]
      exact ih hfound

/-- A text in which a block has a method table is an answer. -/
theorem isAnswer_of_isFound {text : String} {b : SearchBlock} (hfound : b.lookup.isFound = true)
    (hlines : b.printed ⊆ lines text.toList) : isAnswer text = true := by
  obtain ⟨methodTable, htable⟩ := Option.isSome_iff_exists.1 hfound
  obtain ⟨value, hvalue, -⟩ := Option.bind_eq_some_iff.1 htable
  obtain ⟨l, hl, hvalue⟩ := List.exists_of_findSome?_eq_some hvalue
  have hline := infix_of_mem_lines (hlines (List.mem_cons_of_mem _ (List.mem_map_of_mem hl)))
  have hlabel : "MethodTable:".toList <:+: l.chars := by
    cases l with
    | plain text noColon => cases hvalue
    | field indent f printed =>
      have hf : f = .methodTable := by
        by_contra hf
        rw [SearchLine.value?, if_neg hf] at hvalue
        cases hvalue
      rw [hf]
      exact ⟨List.replicate indent ' ', printed, by
        simp [SearchLine.chars, labelledLine, fieldLine, SearchField.label]⟩
  unfold isAnswer mentions
  rw [occursIn_iff.2 (hlabel.trans hline), Bool.true_or]

theorem ofListing?_eq (text : String) : ofListing? text =
    if isAnswer text then (some (readBlocks {} (lines text.toList))).filter isFound else none := by
  unfold ofListing? isFound
  split
  · rw [Option.filter_some]
  · rfl

/-- **A search returns what the first block says that has a method table**, and nothing if there is
none. -/
theorem ofListing?_blocks {text : String} {blocks : List SearchBlock}
    (h : lines text.toList = blocks.flatMap SearchBlock.printed) :
    ofListing? text = (blocks.map SearchBlock.lookup).find? isFound := by
  rw [ofListing?_eq]
  cases hanswer : isAnswer text with
  | true => rw [if_pos rfl, h, readBlocks_blocks blocks rfl]
  | false =>
    refine (List.find?_eq_none.2 fun known hknown hfound => ?_).symm
    obtain ⟨b, hb, rfl⟩ := List.mem_map.1 hknown
    have hlines : b.printed ⊆ lines text.toList := by
      rw [h]
      exact fun l hl => List.mem_flatMap.2 ⟨b, hb, hl⟩
    rw [isAnswer_of_isFound hfound hlines] at hanswer
    cases hanswer

/-- The first block has no method table and the second one a value that is no address. The third one
has all but an assembly, which is not taken from the blocks around it. -/
theorem ofListing?_blocks_third :
    let text := String.ofList (["Module:      00007ff8a1a04000\n", "Assembly:    CoreLib.dll\n",
      "Name: Loader\n", "--------------------\n", "Module: 00007ff8a1a84000\r\n",
      "MethodTable: <not loaded yet>\r\n", "Assembly: Host.dll\r\n",
      "Module:      00007ff8a1b04000\n", "Name:        MyApp.Loader\n",
      "MethodTable: 00007ff8a1c0e3c0\n", "EEClass:     00007ff8a1c0e3a8\n",
      "Module:      00007ff8a1c04000\n", "Assembly:    Other.dll\n",
      "MethodTable: 00007ff8a1d0e3c0"].flatMap String.toList)
    let blocks : List SearchBlock :=
      [{ moduleText := "      00007ff8a1a04000".toList
         lines := [.field 0 .assembly "    CoreLib.dll".toList, .field 0 .name " Loader".toList,
           .plain "--------------------".toList] },
       { moduleText := " 00007ff8a1a84000".toList
         lines := [.field 0 .methodTable " <not loaded yet>".toList,
           .field 0 .assembly " Host.dll".toList] },
       { moduleText := "      00007ff8a1b04000".toList
         lines := [.field 0 .name "        MyApp.Loader".toList,
           .field 0 .methodTable " 00007ff8a1c0e3c0".toList,
           .field 0 .eeClass "     00007ff8a1c0e3a8".toList] },
       { moduleText := "      00007ff8a1c04000".toList
         lines := [.field 0 .assembly "    Other.dll".toList,
           .field 0 .methodTable " 00007ff8a1d0e3c0".toList] }]
    lines text.toList = blocks.flatMap SearchBlock.printed ∧
      ofListing? text = (blocks.map SearchBlock.lookup).find? isFound ∧
      ofListing? text = some {
        methodTable := some ⟨0x7ff8a1c0e3c0⟩
        eeClass := some ⟨0x7ff8a1c0e3a8⟩
        name := some "MyApp.Loader" } := by
  intro text blocks
  have h : lines text.toList = blocks.flatMap SearchBlock.printed := by
    rw [String.toList_ofList]
    decide +kernel
  have hfirst := ofListing?_blocks h
  refine ⟨h, hfirst, ?_⟩
  rw [hfirst]
  decide +kernel

end Postmortem.TypeLookup
