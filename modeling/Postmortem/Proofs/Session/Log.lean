import Postmortem.Proofs.Session.Fetch

/-!
# What a session notes

A session only ever grows: it notes every command, and every failure in its crash log. A
channel notes as well which of the data that it fetches is unavailable; the questions of a
diagnosis bypass it.

* `Channel.fetchText_snd`: a channel runs commands up to the first readable output
  (`tried`), and notes what failed and what was unavailable among them.
* `TypeSession.ofMessage?_eq`: a diagnosis runs its questions (`questions`), and what it
  finds depends on their outcomes and on the heap that is known.
-/

namespace Postmortem

variable {α : Type}

/-! ## Outcomes -/

/-- Whether a command crashed or timed out. -/
def Outcome.isFailed : Outcome → Bool
  | failed _ => true
  | _ => false

/-- Whether the data of a command is unavailable. -/
def Outcome.isUnavailable : Outcome → Bool
  | unavailable _ => true
  | _ => false

section Notes

variable (outcome : String → Outcome)

/-- The crash records of commands with given outcomes, in order. -/
def failures (commands : List String) : List CrashRecord :=
  commands.filterMap fun command =>
    match outcome command with
    | .failed reason => some { command, reason }
    | _ => none

/-- The unavailable data of commands with given outcomes, in order. -/
def refusals (commands : List String) : List UnavailableData :=
  commands.filterMap fun command =>
    match outcome command with
    | .unavailable phrase => some { command, phrase }
    | _ => none

end Notes

section Notes

variable {outcome : String → Outcome}

theorem failures_append (a b : List String) :
    failures outcome (a ++ b) = failures outcome a ++ failures outcome b :=
  List.filterMap_append

theorem refusals_append (a b : List String) :
    refusals outcome (a ++ b) = refusals outcome a ++ refusals outcome b :=
  List.filterMap_append

theorem mem_failures {commands : List String} {record : CrashRecord} :
    record ∈ failures outcome commands ↔
      record.command ∈ commands ∧ outcome record.command = .failed record.reason := by
  unfold failures
  rw [List.mem_filterMap]
  constructor
  · rintro ⟨command, hmem, h⟩
    split at h
    · rename_i reason hout
      obtain rfl := Option.some.inj h
      exact ⟨hmem, hout⟩
    · cases h
  · rintro ⟨hmem, hout⟩
    exact ⟨record.command, hmem, by rw [hout]⟩

theorem mem_refusals {commands : List String} {data : UnavailableData} :
    data ∈ refusals outcome commands ↔
      data.command ∈ commands ∧ outcome data.command = .unavailable data.phrase := by
  unfold refusals
  rw [List.mem_filterMap]
  constructor
  · rintro ⟨command, hmem, h⟩
    split at h
    · rename_i phrase hout
      obtain rfl := Option.some.inj h
      exact ⟨hmem, hout⟩
    · cases h
  · rintro ⟨hmem, hout⟩
    exact ⟨data.command, hmem, by rw [hout]⟩

/-- The crash log names the commands that failed. -/
theorem map_command_failures (commands : List String) :
    (failures outcome commands).map CrashRecord.command =
      commands.filter fun command => (outcome command).isFailed := by
  unfold failures
  induction commands with
  | nil => rfl
  | cons command rest ih =>
    cases h : outcome command with
    | output text => simpa [Outcome.isFailed, h] using ih
    | unavailable phrase => simpa [Outcome.isFailed, h] using ih
    | failed reason => simpa [Outcome.isFailed, h] using ih

end Notes

/-! ## Sessions -/

namespace Session

/-- The session after more commands. -/
def after (s : Session) (commands : List String) : Session :=
  { s with
    executed := s.executed ++ commands
    crashLog := s.crashLog ++ failures s.outcome commands }

/-- **A session notes the command, and its failure if it failed.** -/
theorem run_snd (command : String) (s : Session) : (run command s).2 = s.after [command] := by
  unfold run after failures
  cases h : s.outcome command <;> simp [h]

theorem outcome_after (s : Session) (commands : List String) :
    (s.after commands).outcome = s.outcome := rfl

theorem after_nil (s : Session) : s.after [] = s := by
  unfold after failures
  simp

theorem after_after (s : Session) (a b : List String) : (s.after a).after b = s.after (a ++ b) := by
  unfold after
  rw [List.append_assoc, List.append_assoc, failures_append]
  rfl

end Session

/-! ## Channels -/

/-- The commands that are run before one of them has an output that can be read, and that
one. -/
def tried (read? : String → Option α) (outcome : String → Outcome) : List String → List String
  | [] => []
  | command :: commands =>
    if ((outcome command).output?.bind read?).isSome then [command]
    else command :: tried read? outcome commands

theorem tried_sublist (read? : String → Option α) (outcome : String → Outcome)
    (commands : List String) : (tried read? outcome commands).Sublist commands := by
  induction commands with
  | nil => exact List.Sublist.refl []
  | cons command rest ih =>
    unfold tried
    split
    · exact (List.nil_sublist rest).cons_cons command
    · exact ih.cons_cons command

/-- A command that has no other behind it is always run. -/
theorem tried_singleton (read? : String → Option α) (outcome : String → Outcome)
    (command : String) : tried read? outcome [command] = [command] := by
  unfold tried
  split <;> rfl

namespace Channel

/-- The channel after more commands were run, some of them to fetch their data. -/
def after (channel : Channel) (executed fetched : List String) : Channel :=
  { session := channel.session.after executed
    unavailable := channel.unavailable ++ refusals channel.session.outcome fetched }

theorem outcome_after (channel : Channel) (executed fetched : List String) :
    (channel.after executed fetched).session.outcome = channel.session.outcome := rfl

theorem after_nil (channel : Channel) : channel.after [] [] = channel := by
  unfold after refusals
  rw [Session.after_nil]
  simp

theorem after_after (channel : Channel) (a b c d : List String) :
    (channel.after a b).after c d = channel.after (a ++ c) (b ++ d) := by
  unfold after
  simp only [Session.after_after, Session.outcome_after, List.append_assoc, refusals_append]

/-- **A channel notes the command, and what came of it unless it has output.** -/
theorem run_snd (command : String) (channel : Channel) :
    (run command channel).2 = channel.after [command] [command] := by
  have hsession := Session.run_snd command channel.session
  have hfst : (Session.run command channel.session).1 = channel.session.outcome command := rfl
  unfold run after refusals
  rcases h : Session.run command channel.session with ⟨outcome, session⟩
  rw [h] at hsession hfst
  simp only at hsession hfst
  rw [← hsession]
  cases outcome <;> simp [← hfst]

/-- **A channel runs commands up to the first readable output.** -/
theorem fetchText_snd (read? : String → Option α) (commands : List String) :
    ∀ channel : Channel, (fetchText read? commands channel).2 =
      channel.after (tried read? channel.session.outcome commands)
        (tried read? channel.session.outcome commands) := by
  induction commands with
  | nil => intro channel; exact (after_nil channel).symm
  | cons command rest ih =>
    intro channel
    rw [fetchText_cons]
    unfold tried
    cases hout : (channel.session.outcome command).output? with
    | none =>
      simp only [Option.bind_none, Option.isSome_none, Bool.false_eq_true, if_false]
      rw [ih, run_snd, outcome_after, after_after]
      rfl
    | some text =>
      cases hread : read? text with
      | none =>
        simp only [Option.bind_some, hread, Option.map_none, Option.isSome_none,
          Bool.false_eq_true, if_false]
        rw [ih, run_snd, outcome_after, after_after]
        rfl
      | some a =>
        simp only [Option.bind_some, hread, Option.map_some, Option.isSome_some, if_true]
        exact run_snd command channel

end Channel

/-! ## Diagnoses -/

namespace TypeResolution

variable {σ : Type} {catalog : TypeCatalog σ} {typeName : String} {s s' s'' : σ}

theorem lookUp_of_found {lookup : TypeLookup}
    (h : catalog.findType typeName s = (some lookup, s')) :
    lookUp catalog typeName s = ((lookup.methodTable, none), s') := by
  unfold lookUp
  simp only [bind, StateT.bind, h]
  rfl

theorem lookUp_of_plain (h : catalog.findType typeName s = (none, s'))
    (hplain : GenericName.parse? typeName = none) :
    lookUp catalog typeName s = ((none, none), s') := by
  unfold lookUp
  simp only [bind, StateT.bind, h, hplain]
  rfl

theorem lookUp_of_generic {generic : GenericName} {heap : Option HeapHistogram}
    (h : catalog.findType typeName s = (none, s'))
    (hgeneric : GenericName.parse? typeName = some generic)
    (hheap : catalog.heapHistogram s' = (heap, s'')) :
    lookUp catalog typeName s =
      (((heap.bind (·.instantiation? generic)).bind HeapEntry.methodTable,
        (heap.bind (·.instantiation? generic)).map HeapEntry.typeName), s'') := by
  unfold lookUp
  simp only [bind, StateT.bind, h, hgeneric, hheap]
  cases heap.bind (·.instantiation? generic) <;> rfl

end TypeResolution

namespace TypeSession

section Findings

variable (outcome : String → Outcome) (heap : Option HeapHistogram) (typeName : String)

/-- The type that the search for a name finds. -/
def shownType : Option TypeLookup :=
  (outcome (lookUpCommand typeName)).output?.bind TypeLookup.ofListing?

/-- The members of a type. -/
def shownMembers (methodTable : Address) : Option MemberTable :=
  (outcome (membersCommand methodTable)).output?.bind MemberTable.ofListing?

/-- Whether a diagnosis lists the heap: it does not know the heap, and the type is generic and
was not found by its name. -/
def listsHeap : Bool :=
  heap.isNone && (shownType outcome typeName).isNone && (GenericName.parse? typeName).isSome

/-- The heap that is known after a diagnosis. -/
def heapAfter : Option HeapHistogram :=
  if listsHeap outcome heap typeName then shownHeap outcome else heap

/-- The row of the known heap that stands for a generic type. -/
def standIn? : Option HeapEntry :=
  (GenericName.parse? typeName).bind fun generic =>
    (heapAfter outcome heap typeName).bind (·.instantiation? generic)

/-- The method table of a type, and the instantiation that stands for the type. -/
def located : Option Address × Option String :=
  match shownType outcome typeName with
  | some lookup => (lookup.methodTable, none)
  | none =>
    match standIn? outcome heap typeName with
    | some entry => (entry.methodTable, some entry.typeName)
    | none => (none, none)

/-- The commands that a diagnosis runs to locate a type. -/
def searches : List String :=
  lookUpCommand typeName :: if listsHeap outcome heap typeName then [heapCommand] else []

/-- The commands that a diagnosis runs. -/
def questions : List String :=
  searches outcome heap typeName ++
    (located outcome heap typeName).1.toList.map membersCommand

end Findings

/-- A generic type that its name does not find is located by the row that stands for it. -/
theorem located_of_generic {outcome : String → Outcome} {heap : Option HeapHistogram}
    {typeName : String} {generic : GenericName} (htype : shownType outcome typeName = none)
    (hgeneric : GenericName.parse? typeName = some generic) :
    located outcome heap typeName =
      (((heapAfter outcome heap typeName).bind (·.instantiation? generic)).bind
          HeapEntry.methodTable,
        ((heapAfter outcome heap typeName).bind (·.instantiation? generic)).map
          HeapEntry.typeName) := by
  unfold located standIn?
  rw [htype, hgeneric, Option.bind_some]
  cases (heapAfter outcome heap typeName).bind (·.instantiation? generic) <;> rfl

theorem findType_eq (typeName : String) (s : Session) (heap : Option HeapHistogram) :
    catalog.findType typeName ⟨s, heap⟩ =
      (shownType s.outcome typeName, ⟨s.after [lookUpCommand typeName], heap⟩) := by
  rw [← Session.run_snd]
  rfl

theorem dumpMembers_eq (methodTable : Address) (s : Session) (heap : Option HeapHistogram) :
    catalog.dumpMembers methodTable ⟨s, heap⟩ =
      (shownMembers s.outcome methodTable, ⟨s.after [membersCommand methodTable], heap⟩) := by
  rw [← Session.run_snd]
  rfl

theorem heapHistogram_none (s : Session) :
    catalog.heapHistogram ⟨s, none⟩ =
      (shownHeap s.outcome, ⟨s.after [heapCommand], shownHeap s.outcome⟩) := by
  rw [← Session.run_snd]
  rfl

theorem heapHistogram_some (s : Session) (heap : HeapHistogram) :
    catalog.heapHistogram ⟨s, some heap⟩ = (some heap, ⟨s, some heap⟩) := rfl

open TypeResolution in
/-- **How a type is located**, and what is run for it. -/
theorem lookUp_eq (typeName : String) (s : Session) (heap : Option HeapHistogram) :
    lookUp catalog typeName ⟨s, heap⟩ =
      (located s.outcome heap typeName,
        ⟨s.after (searches s.outcome heap typeName), heapAfter s.outcome heap typeName⟩) := by
  have hfind := findType_eq typeName s heap
  cases htype : shownType s.outcome typeName with
  | some lookup =>
    have hlists : listsHeap s.outcome heap typeName = false := by simp [listsHeap, htype]
    rw [htype] at hfind
    simp [lookUp_of_found hfind, located, searches, heapAfter, htype, hlists]
  | none =>
    rw [htype] at hfind
    cases hgeneric : GenericName.parse? typeName with
    | none =>
      have hlists : listsHeap s.outcome heap typeName = false := by simp [listsHeap, hgeneric]
      simp [lookUp_of_plain hfind hgeneric, located, searches, heapAfter, standIn?, htype, hgeneric,
        hlists]
    | some generic =>
      rw [located_of_generic htype hgeneric]
      -- the heap is listed unless it is known
      cases heap with
      | some known =>
        have hlists : listsHeap s.outcome (some known) typeName = false := by simp [listsHeap]
        rw [lookUp_of_generic hfind hgeneric (heapHistogram_some _ known)]
        simp [searches, heapAfter, hlists]
      | none =>
        have hlists : listsHeap s.outcome none typeName = true := by
          simp [listsHeap, htype, hgeneric]
        rw [lookUp_of_generic hfind hgeneric (heapHistogram_none _)]
        simp [searches, heapAfter, hlists, Session.outcome_after, Session.after_after]

open TypeResolution in
/-- **What a diagnosis finds**, and what it runs for it. -/
theorem ofRequest_eq (maxMembers : ℕ) (request : MemberRequest) (s : Session)
    (heap : Option HeapHistogram) :
    ofRequest maxMembers request catalog ⟨s, heap⟩ =
      (report maxMembers request (located s.outcome heap request.typeName).1
          (located s.outcome heap request.typeName).2
          ((located s.outcome heap request.typeName).1.bind (shownMembers s.outcome)),
        ⟨s.after (questions s.outcome heap request.typeName),
          heapAfter s.outcome heap request.typeName⟩) := by
  unfold ofRequest questions
  simp only [bind, StateT.bind, lookUp_eq]
  rcases located s.outcome heap request.typeName with ⟨_ | address, via⟩
  · simp only [Option.toList_none, List.map_nil, List.append_nil]
    rfl
  · simp only [StateT.bind, dumpMembers_eq, Session.after_after, Session.outcome_after]
    rfl

/-- **A diagnosis of a message** is a diagnosis of the member that the message names. -/
theorem ofMessage?_eq (maxMembers : ℕ) (message : String) (s : Session)
    (heap : Option HeapHistogram) :
    TypeResolution.ofMessage? maxMembers message catalog ⟨s, heap⟩ =
      match MemberRequest.parse? message with
      | some request =>
        (some (TypeResolution.ofRequest maxMembers request catalog ⟨s, heap⟩).1,
          (TypeResolution.ofRequest maxMembers request catalog ⟨s, heap⟩).2)
      | none => (none, ⟨s, heap⟩) := by
  unfold TypeResolution.ofMessage?
  cases MemberRequest.parse? message <;> rfl

end TypeSession

end Postmortem
