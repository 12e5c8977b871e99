import Mathlib.Tactic
import Postmortem.Session.Catalog
import Postmortem.Session.Channel

/-!
# What a session can show

A command gives the same whenever it is run (`outcome_congr`): running commands leaves the
backend and the timeout of a session (`Session.setup`) as they are. So what is fetched
depends on the outcomes of the commands alone.

* `fetchText_fst`: a channel fetches what the first readable output says
  (`firstReadable`).
* `ofMessage?_keeps`: a diagnosis keeps whatever its three questions keep.
* `TypeSession.catalog_preserves`: the types of a session change its heap only by listing
  it (`shownHeap`).
-/

namespace Postmortem

variable {α : Type}

/-! ## Sessions -/

/-- The backend of a session and how long it may take. -/
def Session.setup (s : Session) : Backend × Duration := (s.backend, s.timeout)

@[simp] theorem Session.setup_run (s : Session) (command : String) :
    (Session.run command s).2.setup = s.setup := rfl

/-- **What commands give depends on the backend and the timeout alone.** -/
theorem Session.outcome_congr {s s' : Session} (h : s'.setup = s.setup) :
    s'.outcome = s.outcome := by
  obtain ⟨hb, ht⟩ := Prod.mk.inj h
  funext command
  unfold Session.outcome
  rw [hb, ht]

/-- The first of some commands whose output can be read: the output and what it says. -/
def firstReadable (read? : String → Option α) (outcome : String → Outcome)
    (commands : List String) : Option (String × α) :=
  commands.findSome? fun command =>
    (outcome command).output?.bind fun text => (read? text).map fun a => (text, a)

theorem firstReadable_congr (read? : String → Option α) {outcome outcome' : String → Outcome}
    {commands : List String} (h : ∀ c ∈ commands, outcome c = outcome' c) :
    firstReadable read? outcome commands = firstReadable read? outcome' commands := by
  unfold firstReadable
  induction commands with
  | nil => rfl
  | cons c rest ih =>
    rw [List.findSome?_cons, List.findSome?_cons, h c List.mem_cons_self,
      ih fun d hd => h d (List.mem_cons_of_mem _ hd)]

namespace Channel

theorem run_fst (command : String) (channel : Channel) :
    (Channel.run command channel).1 = (channel.session.outcome command).output? := by
  unfold Channel.run Session.run
  simp only
  cases channel.session.outcome command <;> rfl

@[simp] theorem setup_run (command : String) (channel : Channel) :
    (Channel.run command channel).2.session.setup = channel.session.setup := by
  unfold Channel.run Session.run
  simp only
  cases channel.session.outcome command <;> rfl

/-- The first command decides unless its output cannot be read. -/
theorem fetchText_cons (read? : String → Option α) (command : String) (commands : List String)
    (channel : Channel) : fetchText read? (command :: commands) channel =
      match (channel.session.outcome command).output?.bind fun text =>
        (read? text).map fun a => (text, a) with
      | some found => (some found, (Channel.run command channel).2)
      | none => fetchText read? commands (Channel.run command channel).2 := by
  rw [← run_fst]
  rcases h : Channel.run command channel with ⟨found, channel'⟩
  conv_lhs => unfold fetchText
  simp only [bind, StateT.bind, h]
  cases found with
  | none => rfl
  | some text =>
    simp only [Option.bind_some]
    cases read? text <;> rfl

/-- **A channel fetches what the first readable output says.** -/
theorem fetchText_fst (read? : String → Option α) (commands : List String) : ∀ channel : Channel,
    (fetchText read? commands channel).1 =
      firstReadable read? channel.session.outcome commands := by
  induction commands with
  | nil => intro channel; rfl
  | cons command rest ih =>
    intro channel
    rw [fetchText_cons]
    unfold firstReadable
    rw [List.findSome?_cons]
    split
    · rename_i found h
      rw [h]
    · rename_i h
      rw [h, ih, Session.outcome_congr (setup_run command channel)]
      rfl

@[simp] theorem setup_fetchText (read? : String → Option α) (commands : List String) :
    ∀ channel : Channel,
      (fetchText read? commands channel).2.session.setup = channel.session.setup := by
  induction commands with
  | nil => intro channel; rfl
  | cons command rest ih =>
    intro channel
    rw [fetchText_cons]
    split
    · exact setup_run command channel
    · rw [ih, setup_run]

end Channel

/-! ## Diagnoses -/

/-- Whether an action keeps a property of the state. -/
def Keeps {σ : Type} (I : σ → Prop) (action : StateM σ α) : Prop := ∀ s, I s → I (action s).2

theorem Keeps.pure {σ : Type} {I : σ → Prop} (a : α) : Keeps I (pure a) := fun _ hs => hs

theorem Keeps.bind {σ β : Type} {I : σ → Prop} {action : StateM σ α} {next : α → StateM σ β}
    (h : Keeps I action) (hnext : ∀ a, Keeps I (next a)) : Keeps I (action >>= next) :=
  fun s hs => hnext _ _ (h s hs)

/-- Whether no question of a diagnosis breaks a property of the state. -/
structure TypeCatalog.Preserves {σ : Type} (catalog : TypeCatalog σ) (I : σ → Prop) : Prop where
  findType : ∀ name, Keeps I (catalog.findType name)
  dumpMembers : ∀ address, Keeps I (catalog.dumpMembers address)
  heapHistogram : Keeps I catalog.heapHistogram

namespace TypeResolution

variable {σ : Type} {I : σ → Prop} {catalog : TypeCatalog σ}

theorem lookUp_keeps (h : catalog.Preserves I) (typeName : String) :
    Keeps I (lookUp catalog typeName) := by
  unfold lookUp
  refine (h.findType typeName).bind fun found => ?_
  cases found with
  | some lookup => exact Keeps.pure _
  | none =>
    cases GenericName.parse? typeName with
    | none => exact Keeps.pure _
    | some generic =>
      refine h.heapHistogram.bind fun heap => ?_
      cases heap.bind (·.instantiation? generic) <;> exact Keeps.pure _

/-- **A diagnosis keeps what its questions keep.** -/
theorem ofMessage?_keeps (h : catalog.Preserves I) (maxMembers : ℕ) (message : String) :
    Keeps I (ofMessage? maxMembers message catalog) := by
  unfold ofMessage?
  cases MemberRequest.parse? message with
  | none => exact Keeps.pure _
  | some request =>
    refine Keeps.bind ?_ fun report => Keeps.pure _
    unfold ofRequest
    refine (lookUp_keeps h request.typeName).bind fun found => ?_
    rcases found with ⟨_ | address, resolvedVia⟩
    · exact Keeps.pure _
    · exact (h.dumpMembers address).bind fun table => Keeps.pure _

end TypeResolution

namespace TypeSession

/-- The heap that a session can show. -/
def shownHeap (outcome : String → Outcome) : Option HeapHistogram :=
  (outcome heapCommand).output?.bind HeapHistogram.ofListing?

/-- A session lists its heap unless it knows one. -/
theorem heapHistogram_snd (s : TypeSession) : (heapHistogram s).2 =
    match s.heap with
    | some _ => s
    | none => ⟨(Session.run heapCommand s.session).2, shownHeap s.session.outcome⟩ := by
  rcases s with ⟨session, _ | heap⟩ <;> rfl

/-- What a session keeps while types are looked up: its backend and timeout, and the heap it
was given or can show. -/
structure Continues (start s : TypeSession) : Prop where
  setup : s.session.setup = start.session.setup
  heap : s.heap = start.heap ∨ s.heap = shownHeap start.session.outcome

/-- **The types of a session change its heap only by listing it.** -/
theorem catalog_preserves (start : TypeSession) : catalog.Preserves (Continues start) where
  findType _ _ h := ⟨h.setup, h.heap⟩
  dumpMembers _ _ h := ⟨h.setup, h.heap⟩
  heapHistogram s h := by
    have hsnd : (catalog.heapHistogram s).2 = _ := heapHistogram_snd s
    rw [hsnd]
    split
    · exact h
    · exact ⟨h.setup, Or.inr (by rw [Session.outcome_congr h.setup])⟩

end TypeSession

end Postmortem
