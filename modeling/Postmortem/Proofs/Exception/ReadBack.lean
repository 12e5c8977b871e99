import Postmortem.Proofs.Exception.ChainWalk
import Postmortem.Proofs.Exception.Sections
import Postmortem.Session.Basic
import Postmortem.Transcript

/-!
# Printed chains are read back

Where nothing can be inspected, a walk has only the printed sections to go on. It passes them one
after the other, up to its greatest length, and behind the last one it has nowhere to go.

* `Passes.of_addRecord`, `addRecords_none`: a step adds the node of one record, and so a walk adds
  one node for each record.
* `ofRecords_none`: if the last record has nothing inside, these are all the nodes.
* `chain_text`: **the chain in a printed text shows the exceptions that were printed**, as many of
  them as the greatest length admits.
-/

namespace Postmortem

/-! ## Walks without introspection -/

namespace ChainWalk

variable (limits : InspectLimits) {maxDepth : ℕ} {walk walk' : ChainWalk}

/-- The nodes of records from a depth on. -/
def recordNodes (depth : ℕ) (records : List ExceptionRecord) : List ExceptionNode :=
  (records.zipIdx depth).map fun (record, i) => .ofRecord record i

/-- **A walk through records alone**: a node for each record that the greatest length admits. -/
structure Passes (maxDepth : ℕ) (records : List ExceptionRecord) (walk walk' : ChainWalk) :
    Prop where
  nodes : walk'.nodes =
    walk.nodes ++ recordNodes walk.nodes.length (records.take (maxDepth - walk.nodes.length))
  next : walk'.nodes.length < maxDepth →
    walk'.next = records.getLast?.elim walk.next ExceptionRecord.innerAddress
  cycle : walk'.cycle = walk.cycle

/-- Without introspection, a record adds its node as it is. -/
theorem addRecord_none {record : ExceptionRecord} {address : Address}
    (h : record.address = some address) : walk.addRecord .none limits record =
      { walk with
        nodes := walk.nodes ++ [.ofRecord record walk.nodes.length]
        next := record.innerAddress
        visited := address :: walk.visited
        inspected := walk.inspected ++ [address] } := by
  unfold addRecord
  rw [h]
  rfl

/-- A record in front of others is passed first. -/
theorem Passes.of_addRecord {record : ExceptionRecord} {records : List ExceptionRecord}
    {address : Address} (haddress : record.address = some address)
    (hlen : ¬ maxDepth ≤ walk.nodes.length)
    (h : Passes maxDepth records (walk.addRecord .none limits record) walk') :
    Passes maxDepth (record :: records) walk walk' := by
  obtain ⟨hnodes, hnext, hcycle⟩ := h
  rw [addRecord_none limits haddress] at hnodes hnext hcycle
  refine ⟨?_, fun hshort => ?_, hcycle⟩
  · obtain ⟨room, hroom⟩ : ∃ room, maxDepth - walk.nodes.length = room + 1 :=
      ⟨maxDepth - walk.nodes.length - 1, by omega⟩
    have hleft : maxDepth - (walk.nodes.length + 1) = room := by omega
    rw [hnodes, List.length_append, List.length_singleton, hleft, hroom, List.take_succ_cons]
    unfold recordNodes
    rw [List.zipIdx_cons, List.map_cons, List.append_assoc, List.singleton_append]
  · rw [hnext hshort, List.getLast?_cons]
    cases records.getLast? <;> rfl

/-- **Records with new addresses are passed one after the other.** -/
theorem addRecords_none (records : List ExceptionRecord) : ∀ {walk : ChainWalk},
    (∀ record ∈ records, ∃ a, record.address = some a ∧ a ∉ walk.visited) →
      (records.map (·.address)).Nodup →
        Passes maxDepth records walk (walk.addRecords .none limits maxDepth records) := by
  induction records with
  | nil =>
    intro walk _ _
    exact ⟨by simp [addRecords, recordNodes], fun _ => rfl, rfl⟩
  | cons record records ih =>
    intro walk hnew hdistinct
    rw [List.map_cons, List.nodup_cons] at hdistinct
    unfold addRecords
    by_cases hlen : maxDepth ≤ walk.nodes.length
    · rw [if_pos hlen]
      refine ⟨?_, fun h => absurd h (by omega), rfl⟩
      rw [Nat.sub_eq_zero_of_le hlen]
      simp [recordNodes]
    · obtain ⟨address, haddress, hunseen⟩ := hnew record List.mem_cons_self
      have hfilter : record.address.filter walk.visited.contains = none := by
        rw [haddress]
        simp [hunseen]
      have hvisited : (walk.addRecord .none limits record).visited = address :: walk.visited := by
        rw [addRecord_none limits haddress]
      have hnew' : ∀ other ∈ records, ∃ a, other.address = some a ∧
          a ∉ (walk.addRecord .none limits record).visited := by
        intro other hother
        obtain ⟨a, ha, hunseen'⟩ := hnew other (List.mem_cons_of_mem _ hother)
        refine ⟨a, ha, ?_⟩
        rw [hvisited, List.mem_cons, not_or]
        refine ⟨?_, hunseen'⟩
        rintro rfl
        exact hdistinct.1 (List.mem_map.2 ⟨other, hother, ha.trans haddress.symm⟩)
      rw [if_neg hlen, hfilter]
      exact Passes.of_addRecord limits haddress hlen (ih hnew' hdistinct.2)

/-- A walk that knows of no exception inside ends. -/
theorem follow_of_next_eq_none (introspector : Introspector) (h : walk.next = none) (steps : ℕ) :
    walk.follow introspector limits steps = walk := by
  cases steps with
  | zero => rfl
  | succ steps =>
    unfold follow
    rw [h]
    cases walk.cycle <;> rfl

/-- **Records whose last one has nothing inside make up the walk.** -/
theorem ofRecords_none {records : List ExceptionRecord} (hne : records ≠ [])
    (haddress : ∀ record ∈ records, record.address.isSome = true)
    (hdistinct : (records.map (·.address)).Nodup)
    (hlast : ∀ record ∈ records.getLast?, record.innerAddress = none) (hmax : 1 ≤ maxDepth) :
    (ofRecords .none limits maxDepth records).nodes = recordNodes 0 (records.take maxDepth) ∧
      (ofRecords .none limits maxDepth records).cycle = none := by
  have hpasses : Passes maxDepth records {} (addRecords .none limits maxDepth records {}) := by
    refine addRecords_none limits records (fun record hr => ?_) hdistinct
    obtain ⟨a, ha⟩ := Option.isSome_iff_exists.1 (haddress record hr)
    exact ⟨a, ha, List.not_mem_nil⟩
  obtain ⟨root, rest, rfl⟩ := List.exists_cons_of_ne_nil hne
  -- the outermost exception is added without looking at the greatest length
  have hroot : addRecords .none limits maxDepth (root :: rest) {} =
      addRecords .none limits maxDepth rest (addRecord .none limits {} root) := by
    have hlen : ¬ maxDepth ≤ ({} : ChainWalk).nodes.length := Nat.not_le_of_lt hmax
    conv_lhs => unfold addRecords
    rw [if_neg hlen]
    cases root.address <;> rfl
  rw [hroot] at hpasses
  have hfollow : ofRecords .none limits maxDepth (root :: rest) =
      addRecords .none limits maxDepth rest (addRecord .none limits {} root) := by
    unfold ofRecords
    simp only
    by_cases hfull : maxDepth ≤
        (addRecords .none limits maxDepth rest (addRecord .none limits {} root)).nodes.length
    · rw [Nat.sub_eq_zero_of_le hfull]
      rfl
    · have hnext := hpasses.next (by omega)
      refine follow_of_next_eq_none limits .none (hnext.trans ?_) _
      rw [List.getLast?_eq_some_getLast (List.cons_ne_nil root rest)] at hlast ⊢
      exact hlast _ rfl
  rw [hfollow]
  exact ⟨hpasses.nodes.trans (by simp), hpasses.cycle⟩

theorem length_recordNodes (depth : ℕ) (records : List ExceptionRecord) :
    (recordNodes depth records).length = records.length := by
  unfold recordNodes
  rw [List.length_map, List.length_zipIdx]

theorem getElem?_recordNodes (depth : ℕ) (records : List ExceptionRecord) (i : ℕ) :
    (recordNodes depth records)[i]? =
      records[i]?.map fun record => ExceptionNode.ofRecord record (depth + i) := by
  unfold recordNodes
  rw [List.getElem?_map, List.getElem?_zipIdx, Option.map_map]
  rfl

/-- A walk with a node has a chain. -/
theorem exists_chain (h : walk.nodes ≠ []) : ∃ chain, walk.chain? = some chain := by
  obtain ⟨outermost, inner, hnodes⟩ := List.exists_cons_of_ne_nil h
  unfold chain?
  rw [hnodes, List.cons_append]
  exact ⟨_, rfl⟩

end ChainWalk

/-! ## Reading back -/

namespace PrintedException

theorem length_records (es : List PrintedException) : (records es).length = es.length := by
  induction es with
  | nil => rfl
  | cons e es ih => rw [records, List.length_cons, List.length_cons, ih]

theorem getElem?_records (es : List PrintedException) (i : ℕ) :
    (records es)[i]? = es[i]?.map fun e => e.record es[i + 1]? := by
  induction es generalizing i with
  | nil => rfl
  | cons e es ih =>
    cases i with
    | zero =>
      rw [records, List.getElem?_cons_zero, List.getElem?_cons_zero, List.getElem?_cons_succ,
        ← List.head?_eq_getElem?]
      rfl
    | succ i =>
      rw [records, List.getElem?_cons_succ, List.getElem?_cons_succ, List.getElem?_cons_succ, ih]

theorem map_address_records (es : List PrintedException) :
    (records es).map (·.address) = (es.map (·.address)).map some := by
  induction es with
  | nil => rfl
  | cons e es ih =>
    rw [records, List.map_cons, List.map_cons, List.map_cons, ih]
    rfl

/-- Nothing is inside the last exception. -/
theorem innerAddress_getLast?_records (es : List PrintedException) :
    ∀ record ∈ (records es).getLast?, record.innerAddress = none := by
  intro record h
  rw [List.getLast?_eq_getElem?, length_records, getElem?_records, Option.mem_def,
    Option.map_eq_some_iff] at h
  obtain ⟨e, he, rfl⟩ := h
  have hlen := (List.getElem?_eq_some_iff.1 he).1
  have hlast : es[es.length - 1 + 1]? = none := List.getElem?_eq_none (by omega)
  rw [hlast]
  rfl

/-- A node shows a printed exception at a depth of its chain. -/
structure ShownBy (e : PrintedException) (node : ExceptionNode) (i : ℕ) : Prop where
  depth : node.depth = i
  noMarker : node.isCycle = false
  address : node.address = some e.address
  typeName : node.typeName = some e.typeName.text
  message : node.message = e.message.map (·.text)
  hresult : node.hresult = e.resultCode.map fun code => resultCodeText code.toNat
  stackTrace : node.stackTrace = e.places.map (·.site.text)

theorem shownBy_ofRecord (e : PrintedException) (inner? : Option PrintedException) (i : ℕ) :
    e.ShownBy (.ofRecord (e.record inner?) i) i := ⟨rfl, rfl, rfl, rfl, rfl, rfl, rfl⟩

theorem shownBy_of_getElem? {es : List PrintedException} {maxDepth i : ℕ} {node : ExceptionNode}
    (h : (ChainWalk.recordNodes 0 ((records es).take maxDepth))[i]? = some node) :
    ∃ e, es[i]? = some e ∧ e.ShownBy node i := by
  rw [ChainWalk.getElem?_recordNodes, List.getElem?_take, Nat.zero_add] at h
  split at h
  · rw [getElem?_records, Option.map_map, Option.map_eq_some_iff] at h
    obtain ⟨e, he, rfl⟩ := h
    exact ⟨e, he, e.shownBy_ofRecord _ i⟩
  · cases h

variable {es : List PrintedException}

/-- **The session takes a printed chain for an answer.** -/
theorem run_eq_output (hne : es ≠ []) (s : Session) {command : String}
    (hreply : s.backend.reply command = .output (text es)) :
    (Session.run command s).1 = .output (text es) := by
  show s.outcome command = _
  unfold Session.outcome
  rw [hreply]
  simp only [Reply.outcome, unavailablePhrase?_text hne]

/-- **The walk through a printed chain has the nodes of its records.** -/
theorem ofText_text (hne : es ≠ []) (hdistinct : (es.map (·.address)).Nodup) {maxDepth : ℕ}
    (hmax : 1 ≤ maxDepth) (limits : InspectLimits) :
    (ChainWalk.ofText .none limits maxDepth (text es)).nodes =
        ChainWalk.recordNodes 0 ((records es).take maxDepth) ∧
      (ChainWalk.ofText .none limits maxDepth (text es)).cycle = none := by
  have hne' : records es ≠ [] := by
    rw [← List.length_pos_iff, length_records]
    exact List.length_pos_iff.2 hne
  have haddress : ∀ record ∈ records es, record.address.isSome = true := by
    intro record hr
    have hmem : record.address ∈ (records es).map (·.address) := List.mem_map_of_mem hr
    rw [map_address_records] at hmem
    obtain ⟨a, -, ha⟩ := List.mem_map.1 hmem
    rw [← ha]
    rfl
  have hdistinct' : ((records es).map (·.address)).Nodup := by
    rw [map_address_records]
    exact hdistinct.map (Option.some_injective _)
  unfold ChainWalk.ofText
  rw [nestedSections_text hne, ofListing?_sections]
  exact ChainWalk.ofRecords_none limits hne' haddress hdistinct'
    (innerAddress_getLast?_records es) hmax

/-- **A printed chain is read back**, for every list of exceptions with different addresses and
every greatest length: the session takes its text for an answer, and the chain in the text shows
the exceptions that were printed, from the outside in, as many of them as the greatest length
admits. -/
theorem chain_text (hne : es ≠ []) (hdistinct : (es.map (·.address)).Nodup) {maxDepth : ℕ}
    (hmax : 1 ≤ maxDepth) (limits : InspectLimits) :
    (∀ (s : Session) (command : String), s.backend.reply command = .output (text es) →
      (Session.run command s).1 = .output (text es)) ∧
    ∃ chain, (ChainWalk.ofText .none limits maxDepth (text es)).chain? = some chain ∧
      chain.nodes.length = min es.length maxDepth ∧
      ∀ (i : ℕ) (node : ExceptionNode), chain.nodes[i]? = some node →
        ∃ e, es[i]? = some e ∧ e.ShownBy node i := by
  obtain ⟨hnodes, hcycle⟩ := ofText_text hne hdistinct hmax limits
  have hlen : (ChainWalk.recordNodes 0 ((records es).take maxDepth)).length =
      min es.length maxDepth := by
    rw [ChainWalk.length_recordNodes, List.length_take, length_records, min_comm]
  obtain ⟨chain, hchain⟩ : ∃ chain,
      (ChainWalk.ofText .none limits maxDepth (text es)).chain? = some chain := by
    refine ChainWalk.exists_chain ?_
    rw [hnodes, ← List.length_pos_iff, hlen]
    exact lt_min (List.length_pos_iff.2 hne) hmax
  have hall := ChainWalk.nodes_of_chain? hchain
  rw [hnodes, hcycle, Option.toList_none, List.append_nil] at hall
  refine ⟨fun s command hreply => run_eq_output hne s hreply, chain, hchain, ?_, ?_⟩
  · rw [hall, hlen]
  · intro i node hi
    rw [hall] at hi
    exact shownBy_of_getElem? hi

/-- An exception whose message says that something is not supported, with a failed load inside. -/
def unsupportedLoad : List PrintedException :=
  [{ address := ⟨0x1d4a1b6c3d0⟩
     typeName := { text := "System.NotSupportedException" }
     message := some { text := "error: loading Plugin is not supported" }
     resultCode := some 0x80131515
     places := [⟨⟨0xe51a7fe6c8⟩, ⟨0x7ff8a1b2c3d4⟩,
       { text := "App!App.Loader.Load(System.String)+0x4a" }⟩] },
   { address := ⟨0x1d4a1b6d000⟩, typeName := { text := "System.IO.FileLoadException" } }]

/-- A session in which the text of the chain was recorded. -/
def unsupportedSession : Session where
  backend := Transcript.backend
    { commands := ⟨[("printexception -nested", text unsupportedLoad)]⟩ }
  timeout := .ofSeconds 30

/-- Walked as far as the outermost exception, the chain is that exception alone. -/
theorem chain_text_unsupportedLoad :
    (unsupportedLoad ≠ [] ∧ (unsupportedLoad.map (·.address)).Nodup ∧ 1 ≤ 1) ∧
    (Session.run "printexception -nested" unsupportedSession).1 = .output (text unsupportedLoad) ∧
    ∃ chain, (ChainWalk.ofText .none {} 1 (text unsupportedLoad)).chain? = some chain ∧
      chain.nodes.length = 1 ∧
      ∀ (i : ℕ) (node : ExceptionNode), chain.nodes[i]? = some node →
        ∃ e, unsupportedLoad[i]? = some e ∧ e.ShownBy node i := by
  have hne : unsupportedLoad ≠ [] := List.cons_ne_nil _ _
  have hdistinct : (unsupportedLoad.map (·.address)).Nodup := by decide
  have hreply : unsupportedSession.backend.reply "printexception -nested" =
      .output (text unsupportedLoad) := rfl
  obtain ⟨hrun, hchain⟩ := chain_text hne hdistinct (le_refl 1) {}
  exact ⟨⟨hne, hdistinct, le_rfl⟩, hrun unsupportedSession _ hreply, hchain⟩

end PrintedException

end Postmortem
