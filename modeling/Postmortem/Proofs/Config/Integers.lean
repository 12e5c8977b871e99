import Postmortem.Config.File
import Postmortem.Proofs.Heap.LeakRules

/-!
# Integers of settings files

A settings file can only hold integers that fit 64 bits with their sign, although thresholds are
unsigned. So no configuration that is read from a file has a threshold that wraps around.

A reader reads what has a property if all of its parts do (`Text.Scan.Reads`), which goes through
the grammar of values. Writing values into tables and rendering the tables keeps the property.

* `reads_value`, `signedIntegers_of_parse?`: the integers of a file are signed 64-bit numbers.
* `Config.fitsSigned_of_ofToml`: **so are the thresholds of a configuration from a file.**
-/

namespace Postmortem

/-! ## Readers -/

namespace Text.Scan

variable {α β : Type} {P : α → Prop} {Q : β → Prop}

/-- **Whatever a scan reads has a property.** -/
def Reads (P : α → Prop) (scan : Scan α) : Prop :=
  ∀ cs a left, scan cs = some (a, left) → P a

theorem reads_any (scan : Scan α) : Reads (fun _ => True) scan := fun _ _ _ _ => trivial

theorem reads_pure {a : α} (h : P a) : Reads P (pure a : Scan α) := by
  intro cs b left hread
  cases hread
  exact h

theorem reads_failure : Reads P (failure : Scan α) := by
  intro cs a left hread
  cases hread

theorem reads_guard (p : Prop) [Decidable p] : Reads (fun _ => p) (guard p : Scan Unit) := by
  intro cs a left hread
  unfold guard at hread
  split at hread
  · assumption
  · cases hread

theorem Reads.bind {scan : Scan β} {next : β → Scan α} (h : Reads Q scan)
    (hnext : ∀ b, Q b → Reads P (next b)) : Reads P (scan >>= next) := by
  intro cs a left hread
  obtain ⟨⟨b, middle⟩, hscan, hrest⟩ := Option.bind_eq_some_iff.1 hread
  exact hnext b (h cs b middle hscan) middle a left hrest

/-- What is read first does not matter. -/
theorem reads_bind {scan : Scan β} {next : β → Scan α} (hnext : ∀ b, Reads P (next b)) :
    Reads P (scan >>= next) :=
  (reads_any scan).bind fun b _ => hnext b

theorem Reads.orElse {scan other : Scan α} (h : Reads P scan) (hother : Reads P other) :
    Reads P (scan <|> other) := by
  intro cs a left hread
  cases hscan : scan cs with
  | none =>
    have hrest : (scan <|> other) cs = other cs := by
      show (scan cs <|> other cs) = other cs
      rw [hscan]
      rfl
    exact hother cs a left (hrest ▸ hread)
  | some found =>
    have hfound : (scan <|> other) cs = some found := by
      show (scan cs <|> other cs) = some found
      rw [hscan]
      rfl
    rw [hread] at hfound
    exact h cs a left (hscan.trans hfound.symm)

end Text.Scan

/-! ## Values -/

/-- **All integers of a value are signed 64-bit numbers.** -/
inductive Json.SignedIntegers : Json → Prop where
  | null : SignedIntegers .null
  | bool (b : Bool) : SignedIntegers (.bool b)
  | int {n : ℤ} (hlow : -2 ^ 63 ≤ n) (hhigh : n < 2 ^ 63) : SignedIntegers (.int n)
  | real (x : Binary64) : SignedIntegers (.real x)
  | str (s : String) : SignedIntegers (.str s)
  | arr {items : List Json} (h : ∀ item ∈ items, SignedIntegers item) : SignedIntegers (.arr items)
  | obj {members : List (String × Json)} (h : ∀ m ∈ members, SignedIntegers m.2) :
    SignedIntegers (.obj members)

namespace Toml

open Text Scan Json

theorem reads_integer (n : ℤ) : Reads SignedIntegers (integer n) :=
  (reads_guard (-2 ^ 63 ≤ n ∧ n < 2 ^ 63)).bind fun _ h => reads_pure (.int h.1 h.2)

theorem reads_number : Reads SignedIntegers number := by
  have hspecial : Reads SignedIntegers specialNumber := by
    unfold specialNumber
    exact reads_bind fun _ => reads_bind fun _ => reads_pure (.real _)
  have hprefixed : Reads SignedIntegers prefixedInteger := by
    unfold prefixedInteger
    refine reads_bind fun _ => reads_bind fun c => ?_
    extract_lets rest
    have hrest : ∀ base, Reads SignedIntegers (rest base) := by
      intro base
      refine reads_bind fun ds => ?_
      split
      · exact reads_integer _
      · exact reads_failure
    split <;> exact reads_bind hrest
  have hdecimal : Reads SignedIntegers decimalNumber := by
    unfold decimalNumber
    refine reads_bind fun _ => reads_bind fun _ => reads_bind fun _ => reads_bind fun _ => ?_
    dsimp only
    split
    · exact reads_integer _
    · exact reads_bind fun _ => reads_pure (.real _)
  exact hspecial.orElse (hprefixed.orElse hdecimal)

theorem reads_scalar : Reads SignedIntegers scalar := by
  have htext : Reads SignedIntegers (do return .str (← text)) :=
    reads_bind fun _ => reads_pure (.str _)
  have htruth : Reads SignedIntegers truth := by
    have hword : ∀ (word : String) (b : Bool),
        Reads SignedIntegers (do literal word; return .bool b) :=
      fun _ _ => reads_bind fun _ => reads_pure (.bool _)
    exact (hword "true" true).orElse (hword "false" false)
  have hdateTime : Reads SignedIntegers dateTime := by
    unfold dateTime
    exact reads_bind fun _ => reads_pure (.obj fun _ h => absurd h List.not_mem_nil)
  exact htext.orElse (htruth.orElse (hdateTime.orElse reads_number))

/-! ## Tables -/

/-- All integers below a node are signed 64-bit numbers. -/
inductive Node.SignedIntegers : Node → Prop where
  | value {json : Json} (h : json.SignedIntegers) : SignedIntegers (.value json)
  | table {origin : Origin} {members : Members} (h : ∀ m ∈ members, SignedIntegers m.2) :
    SignedIntegers (.table origin members)
  | tables {elements : List Members} (h : ∀ members ∈ elements, ∀ m ∈ members, SignedIntegers m.2) :
    SignedIntegers (.tables elements)

/-- All integers of a table are signed 64-bit numbers. -/
def Members.SignedIntegers (members : Members) : Prop := ∀ m ∈ members, m.2.SignedIntegers

mutual

theorem Node.signedIntegers_toJson {node : Node} (h : node.SignedIntegers) :
    node.toJson.SignedIntegers := by
  match node, h with
  | .value _, .value h => exact h
  | .table _ members, .table h => exact .obj (signedIntegers_membersToJson h)
  | .tables elements, .tables h =>
    refine .arr fun item hitem => ?_
    exact signedIntegers_elementsToJson h item (List.mem_reverse.1 hitem)

theorem signedIntegers_membersToJson {members : List (String × Node)}
    (h : ∀ m ∈ members, m.2.SignedIntegers) : ∀ m ∈ membersToJson members, m.2.SignedIntegers := by
  match members, h with
  | [], _ => exact fun m hm => absurd hm List.not_mem_nil
  | (name, node) :: rest, h =>
    intro m hm
    rcases List.mem_cons.1 hm with rfl | hm
    · exact Node.signedIntegers_toJson (h _ List.mem_cons_self)
    · exact signedIntegers_membersToJson (fun m hm => h m (List.mem_cons_of_mem _ hm)) m hm

theorem signedIntegers_elementsToJson {elements : List (List (String × Node))}
    (h : ∀ members ∈ elements, ∀ m ∈ members, m.2.SignedIntegers) :
    ∀ item ∈ elementsToJson elements, item.SignedIntegers := by
  match elements, h with
  | [], _ => exact fun item hitem => absurd hitem List.not_mem_nil
  | members :: rest, h =>
    intro item hitem
    rcases List.mem_cons.1 hitem with rfl | hitem
    · exact .obj (signedIntegers_membersToJson (h _ List.mem_cons_self))
    · exact signedIntegers_elementsToJson (fun ms hms => h ms (List.mem_cons_of_mem _ hms)) item
        hitem

end

namespace Members

theorem signedIntegers_nil : SignedIntegers [] := fun _ h => absurd h List.not_mem_nil

variable {members : Members}

theorem SignedIntegers.find? (h : members.SignedIntegers) {name : String} {node : Node}
    (hfind : members.find? name = some node) : node.SignedIntegers := by
  obtain ⟨m, hm, rfl⟩ := Option.map_eq_some_iff.1 hfind
  exact h m (List.mem_of_find?_eq_some hm)

theorem SignedIntegers.store (h : members.SignedIntegers) (name : String) {node : Node}
    (hnode : node.SignedIntegers) : (members.store name node).SignedIntegers := by
  intro m hm
  rcases List.mem_append.1 hm with hm | hm
  · exact h m (List.mem_filter.1 hm).1
  · obtain rfl := List.mem_singleton.1 hm
    exact hnode

/-- A change of tables keeps the integers signed. -/
def Keeps (change : Members → Option Members) : Prop :=
  ∀ members changed, members.SignedIntegers → change members = some changed → changed.SignedIntegers

theorem Keeps.changeAt {change : Members → Option Members} (hchange : Keeps change)
    (created : Origin) (admits : Bool → Node → Bool) (path : List String) :
    Keeps (changeAt created admits change path) := by
  induction path with
  | nil => exact hchange
  | cons name path ih =>
    intro members changed h hwritten
    -- what is entered is signed, and so is what it becomes
    have hwrap : ∀ (inner : Members) (wrap : Members → Node), inner.SignedIntegers →
        (∀ ms : Members, ms.SignedIntegers → (wrap ms).SignedIntegers) →
        (do
          let written ← Members.changeAt created admits change path inner
          return members.store name (wrap written)) = some changed → changed.SignedIntegers := by
      intro inner wrap hinner hnode hstored
      obtain ⟨written, hwrite, hchanged⟩ := Option.bind_eq_some_iff.1 hstored
      cases hchanged
      exact h.store name (hnode written (ih inner written hinner hwrite))
    unfold Members.changeAt at hwritten
    dsimp only at hwritten
    split at hwritten
    · exact hwrap _ _ signedIntegers_nil (fun _ => .table) hwritten
    · cases hwritten
    · rename_i hfind
      split at hwritten
      · cases h.find? hfind with
        | table hinner => exact hwrap _ _ hinner (fun _ => .table) hwritten
      · cases hwritten
    · rename_i elements hfind
      split at hwritten
      · cases h.find? hfind with
        | tables helements =>
          refine hwrap _ _ (fun m hm => ?_) (fun ms hms => .tables fun ms' hms' => ?_) hwritten
          · cases elements with
            | nil => exact absurd hm List.not_mem_nil
            | cons element rest => exact helements element List.mem_cons_self m hm
          · rcases List.mem_cons.1 hms' with rfl | hms'
            · exact hms
            · exact helements ms' (List.mem_of_mem_tail hms')
      · cases hwritten

theorem keeps_write {path : List String} {name : String} {value : Json}
    (hvalue : value.SignedIntegers) : Keeps (write path name value) := by
  refine Keeps.changeAt (fun members changed h hwritten => ?_) _ _ _
  split at hwritten
  · cases hwritten
  · cases hwritten
    exact h.store name (.value hvalue)

theorem keeps_openTable (path : List String) (name : String) : Keeps (openTable path name) := by
  refine Keeps.changeAt (fun members changed h hopened => ?_) _ _ _
  split at hopened
  · cases hopened
    exact h.store name (.table signedIntegers_nil)
  · rename_i hfind
    cases hopened
    cases h.find? hfind with
    | table hinner => exact h.store name (.table hinner)
  · cases hopened

theorem keeps_openElement (path : List String) (name : String) : Keeps (openElement path name) := by
  refine Keeps.changeAt (fun members changed h hopened => ?_) _ _ _
  split at hopened
  · cases hopened
    refine h.store name (.tables fun ms hms m hm => ?_)
    rw [List.mem_singleton.1 hms] at hm
    exact absurd hm List.not_mem_nil
  · rename_i elements hfind
    cases hopened
    cases h.find? hfind with
    | tables helements =>
      refine h.store name (.tables fun ms hms m hm => ?_)
      rcases List.mem_cons.1 hms with rfl | hms
      · exact absurd hm List.not_mem_nil
      · exact helements ms hms m hm
  · cases hopened

end Members

/-! ## Files -/

section Step

variable {fuel : ℕ} (hvalue : ∀ depth, Reads SignedIntegers (value fuel depth))
  (hitems : ∀ depth, Reads (fun items => ∀ item ∈ items, item.SignedIntegers) (items fuel depth))
  (hpairs : ∀ depth, ∀ members : Members, members.SignedIntegers →
    Reads Members.SignedIntegers (pairs fuel depth members))

include hitems hpairs in
theorem reads_value_succ (depth : ℕ) : Reads SignedIntegers (value (fuel + 1) depth) := by
  unfold value
  refine reads_bind fun cs => ?_
  split
  · refine reads_bind fun _ => reads_bind fun _ => ?_
    exact (hitems _).bind fun _ h => reads_pure (.arr h)
  · refine reads_bind fun _ => reads_bind fun _ => ?_
    exact (hpairs _ [] Members.signedIntegers_nil).bind fun _ h =>
      reads_pure (.obj (signedIntegers_membersToJson h))
  · exact reads_scalar
  · exact reads_failure

include hvalue hitems in
theorem reads_items_succ (depth : ℕ) :
    Reads (fun items => ∀ item ∈ items, item.SignedIntegers) (items (fuel + 1) depth) := by
  unfold items
  refine reads_bind fun closed => ?_
  split
  · exact reads_pure fun item hitem => absurd hitem List.not_mem_nil
  · refine (hvalue depth).bind fun item hitem => reads_bind fun _ => reads_bind fun comma => ?_
    split
    · refine reads_bind fun _ => (hitems depth).bind fun rest hrest => reads_pure ?_
      exact List.forall_mem_cons.2 ⟨hitem, hrest⟩
    · exact reads_bind fun _ => reads_pure (List.forall_mem_singleton.2 hitem)

include hvalue hpairs in
theorem reads_pairs_succ (depth : ℕ) {members : Members} (h : members.SignedIntegers) :
    Reads Members.SignedIntegers (pairs (fuel + 1) depth members) := by
  unfold pairs
  extract_lets rest
  have hrest : ∀ closed, Reads Members.SignedIntegers (rest closed) := by
    rintro (_ | _)
    · -- a member is written, and then the table goes on or ends
      refine reads_bind fun place => reads_bind fun _ => reads_bind fun _ => ?_
      refine (hvalue depth).bind fun json hjson => reads_bind fun _ => ?_
      split
      · exact reads_failure
      · rename_i written hwritten
        have hsigned := Members.keeps_write hjson members written h hwritten
        refine reads_bind fun comma => ?_
        split
        · exact hpairs depth written hsigned
        · exact reads_bind fun _ => reads_pure hsigned
    · exact reads_pure h
  split <;> exact reads_bind hrest

end Step

/-- **Values are read with signed integers**, and so are the items of arrays and the members of
tables on one line. -/
theorem reads_value (fuel : ℕ) :
    (∀ depth, Reads SignedIntegers (value fuel depth)) ∧
      (∀ depth, Reads (fun items => ∀ item ∈ items, item.SignedIntegers) (items fuel depth)) ∧
      ∀ depth, ∀ members : Members, members.SignedIntegers →
        Reads Members.SignedIntegers (pairs fuel depth members) := by
  induction fuel with
  | zero => exact ⟨fun _ => reads_failure, fun _ => reads_failure, fun _ _ _ => reads_failure⟩
  | succ fuel ih =>
    obtain ⟨hvalue, hitems, hpairs⟩ := ih
    exact ⟨reads_value_succ hitems hpairs, reads_items_succ hvalue hitems,
      fun depth _ => reads_pairs_succ hvalue hpairs depth⟩

/-- All integers of a line are signed 64-bit numbers. -/
def Statement.SignedIntegers : Statement → Prop
  | .entry _ _ value => value.SignedIntegers
  | .table _ _ | .element _ _ => True

theorem reads_heading : Reads Statement.SignedIntegers heading := by
  unfold heading
  refine reads_bind fun _ => reads_bind fun double => ?_
  split
  · exact reads_bind fun _ => reads_bind fun _ => reads_pure trivial
  · exact reads_bind fun _ => reads_bind fun _ => reads_pure trivial

theorem reads_entry : Reads Statement.SignedIntegers entry := by
  unfold entry
  refine reads_bind fun _ => reads_bind fun _ => reads_bind fun _ => reads_bind fun cs => ?_
  exact ((reads_value _).1 _).bind fun _ hvalue => reads_pure hvalue

/-- **Lines are read with signed integers.** -/
theorem reads_statements (lines : ℕ) :
    Reads (fun read => ∀ statement ∈ read, statement.SignedIntegers) (statements lines) := by
  induction lines with
  | zero => exact reads_failure
  | succ lines ih =>
    have hrest : ∀ statement : Option Statement, (∀ s ∈ statement, s.SignedIntegers) →
        Reads (fun read => ∀ s ∈ read, s.SignedIntegers) (do
          lineEnd
          return statement.toList ++ (← statements lines)) := by
      intro statement hstatement
      refine reads_bind fun _ => ih.bind fun rest hread => reads_pure fun s hs => ?_
      rcases List.mem_append.1 hs with hs | hs
      · exact hstatement s (Option.mem_toList.1 hs)
      · exact hread s hs
    have hsome : ∀ statement : Statement, statement.SignedIntegers →
        ∀ s ∈ some statement, s.SignedIntegers := by
      intro statement hstatement s hs
      cases hs
      exact hstatement
    unfold statements
    refine reads_bind fun _ => reads_bind fun cs => ?_
    split
    · exact reads_pure fun s hs => absurd hs List.not_mem_nil
    · dsimp only
      split
      · exact hrest none fun s hs => by cases hs
      · split
        · exact reads_heading.bind fun statement h => hrest (some statement) (hsome statement h)
        · exact reads_entry.bind fun statement h => hrest (some statement) (hsome statement h)

theorem Draft.signedIntegers_write {draft written : Draft} (h : draft.root.SignedIntegers)
    {statement : Statement} (hstatement : statement.SignedIntegers)
    (hwrite : draft.write statement = some written) : written.root.SignedIntegers := by
  cases statement with
  | entry path name value =>
    obtain ⟨root, hroot, hwritten⟩ := Option.bind_eq_some_iff.1 hwrite
    cases hwritten
    have hkeeps : Members.Keeps (Members.write path name value) := Members.keeps_write hstatement
    exact hkeeps.changeAt _ _ _ draft.root root h hroot
  | table path name =>
    obtain ⟨root, hroot, hwritten⟩ := Option.bind_eq_some_iff.1 hwrite
    cases hwritten
    exact Members.keeps_openTable path name draft.root root h hroot
  | element path name =>
    obtain ⟨root, hroot, hwritten⟩ := Option.bind_eq_some_iff.1 hwrite
    cases hwritten
    exact Members.keeps_openElement path name draft.root root h hroot

theorem Draft.signedIntegers_foldlM {lines : List Statement}
    (hlines : ∀ statement ∈ lines, statement.SignedIntegers) :
    ∀ {draft written : Draft}, draft.root.SignedIntegers →
      lines.foldlM Draft.write draft = some written → written.root.SignedIntegers := by
  induction lines with
  | nil =>
    intro draft written h hfold
    cases hfold
    exact h
  | cons statement rest ih =>
    intro draft written h hfold
    obtain ⟨hstatement, hrest⟩ := List.forall_mem_cons.1 hlines
    rw [List.foldlM_cons] at hfold
    obtain ⟨next, hwrite, hfold⟩ := Option.bind_eq_some_iff.1 hfold
    exact ih hrest (draft.signedIntegers_write h hstatement hwrite) hfold

/-- **The integers of a file are signed 64-bit numbers.** -/
theorem signedIntegers_of_parse? {file : String} {json : Json} (h : parse? file = some json) :
    json.SignedIntegers := by
  unfold parse? at h
  dsimp only at h
  obtain ⟨lines, hlines, h⟩ := Option.bind_eq_some_iff.1 h
  obtain ⟨draft, hdraft, h⟩ := Option.bind_eq_some_iff.1 h
  cases h
  obtain ⟨⟨read, left⟩, hread, rfl⟩ := Option.map_eq_some_iff.1 hlines
  have hsigned := Draft.signedIntegers_foldlM (reads_statements _ _ _ _ hread)
    Members.signedIntegers_nil hdraft
  exact .obj (signedIntegers_membersToJson hsigned)

end Toml

/-! ## Configurations -/

namespace Json.SignedIntegers

variable {json : Json}

theorem choiceName (h : json.SignedIntegers) : (choiceName json).SignedIntegers := by
  unfold Postmortem.choiceName
  split
  · exact .str _
  · exact .str _
  · exact h

theorem withoutSurplus (h : json.SignedIntegers) (size : ℕ) :
    (withoutSurplus size json).SignedIntegers := by
  unfold Postmortem.withoutSurplus
  split
  · cases h with
    | arr hitems => exact .arr fun item hitem => hitems item (List.mem_of_mem_take hitem)
  · exact h

theorem settle (h : json.SignedIntegers) : (settle json).SignedIntegers := by
  unfold Postmortem.settle
  split
  · cases h with
    | obj hmembers =>
      refine .obj fun m hm => ?_
      obtain ⟨⟨name, value⟩, hvalue, rfl⟩ := List.mem_map.1 hm
      have hsigned := hmembers _ hvalue
      dsimp only
      split
      · exact hsigned.choiceName
      all_goals first | exact hsigned.withoutSurplus _ | exact hsigned
  · exact h

/-- The fields of a record have signed integers if the record has. -/
theorem get (h : json.SignedIntegers) {names : List String} {fields : Json.Fields}
    (hfields : Json.fields? names json = some fields) {name : String} {value : Json}
    (hget : fields.get name = some value) : value.SignedIntegers := by
  unfold Json.fields? at hfields
  split at hfields
  · split at hfields
    · cases hfields
      cases h with
      | obj hmembers =>
        obtain ⟨m, hm, rfl⟩ := Option.map_eq_some_iff.1 hget
        exact hmembers m (List.mem_of_find?_eq_some hm)
    · cases hfields
  · split at hfields
    · cases hfields
      cases h with
      | arr hitems =>
        obtain ⟨m, hm, rfl⟩ := Option.map_eq_some_iff.1 hget
        exact hitems m.2 (List.of_mem_zip (List.mem_of_find?_eq_some hm)).2
    · cases hfields
  · cases hfields

/-- A natural number that is read is below `2 ^ 63`. -/
theorem nat?_lt (h : json.SignedIntegers) {bits n : ℕ} (hread : json.nat? bits = some n) :
    n < 2 ^ 63 := by
  cases h with
  | int hlow hhigh =>
    unfold Json.nat? at hread
    dsimp only at hread
    split at hread
    · obtain rfl := Option.some.inj hread
      omega
    · cases hread
  | _ => cases hread

end Json.SignedIntegers

theorem LeakThresholds.fitsSigned_default : FitsSigned {} := ⟨by decide, by decide, by decide⟩

/-- Thresholds that are read from signed integers are signed 64-bit numbers. -/
theorem LeakThresholds.fitsSigned_of_ofJson? {json : Json} (h : json.SignedIntegers)
    {t : LeakThresholds} (hread : ofJson? json = some t) : t.FitsSigned := by
  unfold ofJson? at hread
  simp only [Option.bind_eq_bind, Option.bind_eq_some_iff] at hread
  obtain ⟨fields, hfields, bytes, hbytes, percent, -, count, hcount, oversized, hoversized, types,
    -, hread⟩ := hread
  cases hread
  have hfield : ∀ {name : String} {default n : ℕ}, default < 2 ^ 63 →
      fields.withDefault name default (Json.nat? 64) = some n → n < 2 ^ 63 := by
    intro name default n hdefault hn
    unfold Json.Fields.withDefault at hn
    split at hn
    · rename_i hget
      exact (h.get hfields hget).nat?_lt hn
    · cases hn
      exact hdefault
  exact ⟨hfield (by decide) hbytes, hfield (by decide) hcount, hfield (by decide) hoversized⟩

/-- **The thresholds of a configuration from a settings file are signed 64-bit numbers.** -/
theorem Config.fitsSigned_of_ofToml {file : String} {config : Config}
    (h : Config.ofToml file = .ok config) : config.leak.FitsSigned := by
  obtain ⟨json, hparse, hread⟩ : ∃ json, Toml.parse? file = some json ∧
      ofJson? (settle json) = some config := by
    unfold ofToml at h
    split at h
    · rename_i hsome
      split at h
      · cases h
      · cases h
        exact Option.bind_eq_some_iff.1 hsome
    · cases h
  have hsigned := (Toml.signedIntegers_of_parse? hparse).settle
  unfold ofJson? at hread
  simp only [Option.bind_eq_bind, Option.bind_eq_some_iff] at hread
  obtain ⟨fields, hfields, _, -, _, -, _, -, _, -, _, -, _, -, _, -, _, -, leak, hleak, hread⟩ :=
    hread
  cases hread
  unfold Json.Fields.withDefault at hleak
  split at hleak
  · rename_i hget
    exact LeakThresholds.fitsSigned_of_ofJson? (hsigned.get hfields hget) hleak
  · cases hleak
    exact LeakThresholds.fitsSigned_default

end Postmortem
