import Postmortem.Proofs.Analysis.Findings
import Postmortem.Proofs.Session.Log
import Postmortem.Proofs.Text.Words
import Postmortem.Transcript

/-!
# The course of an analysis

Which commands a full analysis runs is settled by what they give. Every stage but the
diagnosis of a missing type fetches its data, so its commands are those that are tried up
to the first readable output. The diagnosis asks its own questions, and may list the heap
before the heap stage does. If the score of the deployment overflows, nothing is run behind the
diagnosis.

* `course`, `fetched`: the commands that are run, and those of them that are run to fetch
  data.
* `Stage.channel_threads`, …, `Stage.channel_locks`: what each stage runs.
* `analyze_session`: **a full analysis runs its course.**
* `analyze_reports`: **it reports what failed on it and what could not be fetched**, if the score
  fits.
-/

namespace Postmortem

open Text

section Course

variable (config : Config) (introspector : Introspector) (outcome : String → Outcome)

/-- The member or type that the exception says is missing. -/
def missingMember? : Option MemberRequest :=
  (((shownException config introspector outcome).bind ExceptionChain.resolutionFailure?).bind
    ExceptionNode.message).bind MemberRequest.parse?

/-- The commands that diagnose what is missing. -/
def diagnosisCommands : List String :=
  (missingMember? config introspector outcome).elim [] fun request =>
    TypeSession.questions outcome none request.typeName

/-- The commands that look up the type that something is missing from. -/
def lookUps : List String :=
  (missingMember? config introspector outcome).elim [] fun request =>
    TypeSession.lookUpCommand request.typeName ::
      (TypeSession.located outcome none request.typeName).1.toList.map TypeSession.membersCommand

/-- The heap that is known after the diagnosis. -/
def diagnosedHeap : Option HeapHistogram :=
  (missingMember? config introspector outcome).elim none fun request =>
    TypeSession.heapAfter outcome none request.typeName

/-- Whether the diagnosis of what is missing lists the heap: the type is generic and was not
found by its name. -/
def diagnosisListsHeap : Bool :=
  (missingMember? config introspector outcome).any fun request =>
    TypeSession.listsHeap outcome none request.typeName

/-- The commands in front of the diagnosis. -/
def commandsBefore : List String :=
  tried Thread.ofListing? outcome Commands.threads ++
    tried ThreadStack.ofNativeListing? outcome Commands.nativeStacks ++
    tried ThreadStack.ofRuntimeListing? outcome Commands.runtimeStacks ++
    tried LoadedModule.ofListing? outcome Commands.modules ++ Commands.exception

/-- The command of the heap stage, unless the diagnosis left a heap behind. -/
def heapCommands : List String :=
  if (diagnosedHeap config introspector outcome).isNone then Commands.heap else []

/-- The commands behind the diagnosis: none if the score overflows. -/
def commandsBehind : List String :=
  if ShownScoreFits config introspector outcome then
    heapCommands config introspector outcome ++ tried LockTable.ofListing? outcome Commands.locks
  else []

/-- The commands of a full analysis, in order. -/
def course : List String :=
  commandsBefore outcome ++ diagnosisCommands config introspector outcome ++
    commandsBehind config introspector outcome

/-- The commands of a full analysis that fetch data, in order. -/
def fetched : List String := commandsBefore outcome ++ commandsBehind config introspector outcome

end Course

/-! ## Commands of stages -/

namespace Commands

/-- The commands of the stages in front of the diagnosis. -/
def early : List String := threads ++ nativeStacks ++ runtimeStacks ++ modules ++ exception

/-- The commands of the stages behind the diagnosis. -/
def late : List String := heap ++ locks

end Commands

section Course

variable {config : Config} {introspector : Introspector} {outcome : String → Outcome}

theorem commandsBefore_sublist : (commandsBefore outcome).Sublist Commands.early := by
  unfold commandsBefore Commands.early
  exact (((((tried_sublist _ _ _).append (tried_sublist _ _ _)).append
    (tried_sublist _ _ _)).append (tried_sublist _ _ _)).append (List.Sublist.refl _))

theorem commandsBehind_sublist :
    (commandsBehind config introspector outcome).Sublist Commands.late := by
  unfold commandsBehind heapCommands Commands.late
  split
  · refine List.Sublist.append ?_ (tried_sublist _ _ _)
    split
    · exact List.Sublist.refl _
    · exact List.nil_sublist _
  · exact List.nil_sublist _

theorem mem_diagnosisCommands {command : String} :
    command ∈ diagnosisCommands config introspector outcome ↔
      command ∈ lookUps config introspector outcome ∨
        diagnosisListsHeap config introspector outcome = true ∧
          command = TypeSession.heapCommand := by
  unfold diagnosisCommands lookUps diagnosisListsHeap TypeSession.questions TypeSession.searches
  cases missingMember? config introspector outcome with
  | none => simp
  | some request =>
    cases hlists : TypeSession.listsHeap outcome none request.typeName
    · simp [hlists]
    · simp only [Option.elim_some, if_true, Option.any_some, hlists, true_and, List.mem_append,
        List.mem_cons, List.not_mem_nil, or_false]
      rw [or_right_comm]

/-- A diagnosis looks types up, and lists the heap at most. -/
theorem filter_diagnosisCommands {p : String → Bool}
    (h : ¬ (diagnosisListsHeap config introspector outcome = true ∧
      p TypeSession.heapCommand = true)) :
    (diagnosisCommands config introspector outcome).filter p =
      (lookUps config introspector outcome).filter p := by
  unfold diagnosisListsHeap at h
  unfold diagnosisCommands lookUps TypeSession.questions TypeSession.searches
  cases hmissing : missingMember? config introspector outcome with
  | none => rfl
  | some request =>
    rw [hmissing, Option.any_some] at h
    have hheap : (if TypeSession.listsHeap outcome none request.typeName
        then [TypeSession.heapCommand] else []).filter p = [] := by
      split
      · rename_i hlists
        have hp : p TypeSession.heapCommand = false := by simpa [hlists] using h
        rw [List.filter_cons_of_neg (by simp [hp]), List.filter_nil]
      · rfl
    simp only [Option.elim_some]
    rw [List.filter_append, ← List.singleton_append, List.filter_append, hheap, List.append_nil,
      ← List.filter_append]
    rfl

/-- The members of at most one type are listed. -/
theorem exists_membersCommand_sublist (located : Option Address) : ∃ methodTable,
    (located.toList.map TypeSession.membersCommand).Sublist
      [TypeSession.membersCommand methodTable] := by
  cases located with
  | none => exact ⟨default, List.nil_sublist _⟩
  | some address => exact ⟨address, List.Sublist.refl _⟩

/-- A type is looked up once, and so are its members. -/
theorem lookUps_sublist (config : Config) (introspector : Introspector)
    (outcome : String → Outcome) : ∃ typeName methodTable,
      (lookUps config introspector outcome).Sublist
        [TypeSession.lookUpCommand typeName, TypeSession.membersCommand methodTable] := by
  unfold lookUps
  cases missingMember? config introspector outcome with
  | none => exact ⟨"", default, List.nil_sublist _⟩
  | some request =>
    obtain ⟨methodTable, hmembers⟩ := exists_membersCommand_sublist
      (TypeSession.located outcome none request.typeName).1
    exact ⟨request.typeName, methodTable, hmembers.cons_cons _⟩

/-- Between the two the heap may be listed. -/
theorem diagnosisCommands_sublist (config : Config) (introspector : Introspector)
    (outcome : String → Outcome) : ∃ typeName methodTable,
      (diagnosisCommands config introspector outcome).Sublist
        [TypeSession.lookUpCommand typeName, TypeSession.heapCommand,
          TypeSession.membersCommand methodTable] := by
  unfold diagnosisCommands TypeSession.questions TypeSession.searches
  cases missingMember? config introspector outcome with
  | none => exact ⟨"", default, List.nil_sublist _⟩
  | some request =>
    obtain ⟨methodTable, hmembers⟩ := exists_membersCommand_sublist
      (TypeSession.located outcome none request.typeName).1
    have hheap : (if TypeSession.listsHeap outcome none request.typeName
        then [TypeSession.heapCommand] else []).Sublist [TypeSession.heapCommand] := by
      split
      · exact List.Sublist.refl _
      · exact List.nil_sublist _
    exact ⟨request.typeName, methodTable, (hheap.append hmembers).cons_cons _⟩

/-- The heap stage lists the heap if the diagnosis could not. -/
theorem heapCommand_mem_commandsBehind (hfits : ShownScoreFits config introspector outcome)
    (hlists : diagnosisListsHeap config introspector outcome = true)
    (hshown : TypeSession.shownHeap outcome = none) :
    TypeSession.heapCommand ∈ commandsBehind config introspector outcome := by
  obtain ⟨request, hmissing, hlists⟩ := (Option.any_eq_true _ _).1 hlists
  have hnone : diagnosedHeap config introspector outcome = none := by
    unfold diagnosedHeap TypeSession.heapAfter
    rw [hmissing, Option.elim_some, if_pos hlists, hshown]
  unfold commandsBehind heapCommands
  rw [if_pos hfits, hnone]
  exact List.mem_append_left _ (by decide)

end Course

/-! ## Keys of commands -/

/-- The first word of a command is the first word of its key. -/
theorem prefix_commandKey {word : List Char} (hne : word ≠ [])
    (hplain : word.all (fun c => !isBlank c && c != '!') = true) {command : String}
    {behind : List Char} (h : command.toList = word ++ ' ' :: behind) :
    word <+: (commandKey command).toList := by
  have hword : ∀ c ∈ word, isBlank c = false := fun c hc => by
    simpa using (Bool.and_eq_true_iff.1 (List.all_eq_true.1 hplain c hc)).1
  have hmark : ∀ c ∈ word, c ≠ '!' := fun c hc => by
    simpa using (Bool.and_eq_true_iff.1 (List.all_eq_true.1 hplain c hc)).2
  obtain ⟨c, rest, rfl⟩ := List.exists_cons_of_ne_nil hne
  have hstart : trim command.toList =
      c :: rest ++ dropEndWhile isBlank (' ' :: behind) := by
    unfold trim trimWhere
    rw [h, List.cons_append, List.dropWhile_cons_of_neg (by simp [hword c List.mem_cons_self]),
      ← List.cons_append, dropEndWhile_append hne (hword _ (List.getLast_mem hne))]
  have hunmarked : (trim command.toList).dropWhile (· == '!') = trim command.toList := by
    rw [hstart, List.cons_append, List.dropWhile_cons_of_neg]
    simpa using hmark c List.mem_cons_self
  unfold commandKey squeeze
  rw [hunmarked, hstart, String.toList_ofList]
  -- what is left behind the word is nothing, or begins with the space
  obtain ⟨cut, hcut⟩ : dropEndWhile isBlank (' ' :: behind) <+: ' ' :: behind :=
    List.rdropWhile_prefix isBlank _
  cases hend : dropEndWhile isBlank (' ' :: behind) with
  | nil =>
    rw [List.append_nil, words_of_run hne hword]
    simp [List.intercalate]
  | cons d ds =>
    rw [hend] at hcut
    obtain rfl : d = ' ' := (List.cons.inj hcut).1
    rw [words_append hne hword]
    unfold List.intercalate
    cases words ds <;> simp [List.intersperse]

/-- **Commands of an analysis have different keys.** -/
theorem nodup_commandKeys (typeName : String) (methodTable : Address) :
    ((Commands.early ++ [TypeSession.lookUpCommand typeName,
      TypeSession.membersCommand methodTable] ++ Commands.late).map commandKey).Nodup := by
  have hlookUp : "name2ee".toList <+: (commandKey (TypeSession.lookUpCommand typeName)).toList := by
    have htext : (TypeSession.lookUpCommand typeName).toList =
        "name2ee".toList ++ ' ' :: ("*!".toList ++ typeName.toList) := String.toList_append
    exact prefix_commandKey (by decide) (by decide) htext
  have hmembers : "dumpmt".toList <+:
      (commandKey (TypeSession.membersCommand methodTable)).toList := by
    have htext : (TypeSession.membersCommand methodTable).toList =
        "dumpmt".toList ++ ' ' :: ("-md ".toList ++ hexPadded 16 methodTable.toNat) :=
      String.toList_append.trans (congrArg ("dumpmt -md ".toList ++ ·) String.toList_ofList)
    exact prefix_commandKey (by decide) (by decide) htext
  -- the other keys are known, and none of them begins with either word
  have hfixed : ((Commands.early ++ Commands.late).map commandKey).Nodup := by decide +kernel
  have hnone : ∀ key ∈ (Commands.early ++ Commands.late).map commandKey,
      ¬ "name2ee".toList <+: key.toList ∧ ¬ "dumpmt".toList <+: key.toList := by decide +kernel
  have hdiffer : commandKey (TypeSession.lookUpCommand typeName) ≠
      commandKey (TypeSession.membersCommand methodTable) := by
    intro h
    rw [h] at hlookUp
    have hlen : "dumpmt".toList.length ≤ "name2ee".toList.length := by decide
    exact absurd (List.prefix_of_prefix_length_le hmembers hlookUp hlen) (by decide)
  have hperm : (Commands.early ++ [TypeSession.lookUpCommand typeName,
      TypeSession.membersCommand methodTable] ++ Commands.late).Perm
        ([TypeSession.lookUpCommand typeName, TypeSession.membersCommand methodTable] ++
          (Commands.early ++ Commands.late)) := by
    rw [← List.append_assoc]
    exact List.perm_append_comm.append_right _
  rw [(hperm.map commandKey).nodup_iff]
  simp only [List.map_append, List.map_cons, List.cons_append, List.nil_append,
    List.nodup_cons, List.mem_cons, not_or]
  rw [List.map_append] at hfixed hnone
  refine ⟨⟨hdiffer, fun h => (hnone _ h).1 hlookUp⟩, fun h => (hnone _ h).2 hmembers, hfixed⟩

/-! ## Stages -/

theorem Channel.fetchText_after {α : Type} (read? : String → Option α) (commands : List String)
    {start channel : Channel} {a b : List String} (h : channel = start.after a b) :
    (fetchText read? commands channel).2 =
      start.after (a ++ tried read? start.session.outcome commands)
        (b ++ tried read? start.session.outcome commands) := by
  rw [fetchText_snd, h, outcome_after, after_after]

namespace Stage

open Progress

variable (config : Config) (introspector : Introspector)
variable {start : Channel} {p : Progress} {a b : List String}

theorem channel_threads (h : p.channel = start.after a b) :
    (threads.step config introspector p).2.channel =
      start.after (a ++ tried Thread.ofListing? start.session.outcome Commands.threads)
        (b ++ tried Thread.ofListing? start.session.outcome Commands.threads) := by
  rw [← Channel.fetchText_after Thread.ofListing? Commands.threads h]
  unfold step threads
  simp only [bind, StateT.bind, fetchText_eq]
  cases firstReadable Thread.ofListing? p.channel.session.outcome Commands.threads <;> rfl

theorem channel_callStacks (h : p.channel = start.after a b) :
    (callStacks.step config introspector p).2.channel =
      start.after
        (a ++ tried ThreadStack.ofNativeListing? start.session.outcome Commands.nativeStacks ++
          tried ThreadStack.ofRuntimeListing? start.session.outcome Commands.runtimeStacks)
        (b ++ tried ThreadStack.ofNativeListing? start.session.outcome Commands.nativeStacks ++
          tried ThreadStack.ofRuntimeListing? start.session.outcome Commands.runtimeStacks) := by
  have hnative := Channel.fetchText_after ThreadStack.ofNativeListing? Commands.nativeStacks h
  rw [← Channel.fetchText_after ThreadStack.ofRuntimeListing? Commands.runtimeStacks hnative]
  unfold step callStacks
  simp only [bind, StateT.bind, fetch_eq]
  rfl

theorem channel_modules (h : p.channel = start.after a b) :
    (modules.step config introspector p).2.channel =
      start.after (a ++ tried LoadedModule.ofListing? start.session.outcome Commands.modules)
        (b ++ tried LoadedModule.ofListing? start.session.outcome Commands.modules) := by
  rw [← Channel.fetchText_after LoadedModule.ofListing? Commands.modules h]
  unfold step modules
  simp only [bind, StateT.bind, fetch_eq]
  cases firstReadable LoadedModule.ofListing? p.channel.session.outcome Commands.modules <;> rfl

theorem channel_exception (h : p.channel = start.after a b) :
    (exception.step config introspector p).2.channel =
      start.after (a ++ Commands.exception) (b ++ Commands.exception) := by
  have hfetch := Channel.fetchText_after (some : String → Option String) Commands.exception h
  have htried : tried (some : String → Option String) start.session.outcome Commands.exception =
      Commands.exception := tried_singleton _ _ _
  rw [htried] at hfetch
  rw [← hfetch]
  unfold step exception
  simp only [bind, StateT.bind, fetch_eq]
  cases firstReadable some p.channel.session.outcome Commands.exception <;> rfl

/-- The diagnosis runs its questions and leaves behind the heap that it knows. -/
theorem channel_typeResolution (h : p.channel = start.after a b)
    (he : p.report.exception = shownException config introspector start.session.outcome)
    (hh : p.report.heap = none) :
    (typeResolution.step config introspector p).2.channel =
        start.after (a ++ diagnosisCommands config introspector start.session.outcome) b ∧
      (typeResolution.step config introspector p).2.report.heap =
        diagnosedHeap config introspector start.session.outcome := by
  have hout : p.channel.session.outcome = start.session.outcome := by rw [h]; rfl
  have hask : ∀ questions : List String,
      { p.channel with session := p.channel.session.after questions } =
        start.after (a ++ questions) b := by
    intro questions
    rw [h]
    unfold Channel.after
    simp only [Session.after_after]
  have hnone : p.channel = start.after (a ++ []) b := by rw [List.append_nil, h]
  unfold step typeResolution diagnosisCommands diagnosedHeap missingMember?
  simp only [bind, StateT.bind, get, getThe, MonadStateOf.get, StateT.get, pure, ← he]
  cases (p.report.exception.bind ExceptionChain.resolutionFailure?).bind ExceptionNode.message with
  | none => exact ⟨hnone, hh⟩
  | some message =>
    simp only [hh, Option.bind_some, TypeSession.ofMessage?_eq]
    cases MemberRequest.parse? message with
    | none => exact ⟨hnone, rfl⟩
    | some request =>
      simp only [TypeSession.ofRequest_eq, hout]
      exact ⟨hask _, rfl⟩

/-- The classification runs nothing, whether or not it breaks down. -/
theorem channel_aot (h : p.channel = start.after a b) :
    (aot.step config introspector p).2.channel = start.after a b ∧
      (aot.step config introspector p).2.report.heap = p.report.heap := by
  unfold step aot
  simp only [bind, StateT.bind, modify, modifyGet, MonadStateOf.modifyGet, StateT.modifyGet, pure]
  split <;> exact ⟨h, rfl⟩

theorem channel_heap (h : p.channel = start.after a b)
    (hh : p.report.heap = diagnosedHeap config introspector start.session.outcome) :
    (heap.step config introspector p).2.channel =
      start.after (a ++ heapCommands config introspector start.session.outcome)
        (b ++ heapCommands config introspector start.session.outcome) := by
  unfold heapCommands
  rw [← hh]
  unfold step heap
  simp only [bind, StateT.bind, get, getThe, MonadStateOf.get, StateT.get, pure]
  cases p.report.heap with
  | some known =>
    simp only [Option.isNone_some, Bool.false_eq_true, if_false, List.append_nil]
    exact h
  | none =>
    have hfetch := Channel.fetchText_after HeapHistogram.ofListing? Commands.heap h
    have htried : tried HeapHistogram.ofListing? start.session.outcome Commands.heap =
        Commands.heap := tried_singleton _ _ _
    rw [htried] at hfetch
    simp only [Option.isNone_none, if_true, StateT.bind, fetch_eq]
    exact hfetch

theorem channel_locks (h : p.channel = start.after a b) :
    (locks.step config introspector p).2.channel =
      start.after (a ++ tried LockTable.ofListing? start.session.outcome Commands.locks)
        (b ++ tried LockTable.ofListing? start.session.outcome Commands.locks) := by
  rw [← Channel.fetchText_after LockTable.ofListing? Commands.locks h]
  unfold step locks
  simp only [bind, StateT.bind, fetch_eq]
  cases firstReadable LockTable.ofListing? p.channel.session.outcome Commands.locks <;> rfl

end Stage

/-! ## Full analyses -/

namespace Progress

variable (config : Config) (introspector : Introspector) {start : Progress}

/-- What the stages in front of the classification run, and the heap that they leave behind. -/
theorem channel_early (hstart : start.report = {}) (hs : start.threadStates = [])
    (ho : start.overflow = none) :
    (start.afterStages config introspector Stage.early).channel = start.channel.after
        (commandsBefore start.channel.session.outcome ++
          diagnosisCommands config introspector start.channel.session.outcome)
        (commandsBefore start.channel.session.outcome) ∧
      (start.afterStages config introspector Stage.early).report.heap =
        diagnosedHeap config introspector start.channel.session.outcome := by
  -- the diagnosis needs the exception in the report, and a report without a heap
  have h₀ : Reached start.channel.session start {} [] := ⟨rfl, hstart, hs, ho⟩
  have h₁ := (h₀.threads config introspector rfl rfl rfl).callStacks config introspector
  have h₂ := (h₁.modules config introspector rfl).exception config introspector rfl
  have k₁ := Stage.channel_threads config introspector (Channel.after_nil start.channel).symm
  have k₂ := Stage.channel_modules config introspector
    (Stage.channel_callStacks config introspector k₁)
  have k₃ := Stage.channel_exception config introspector k₂
  obtain ⟨k₄, hheap⟩ := Stage.channel_typeResolution config introspector k₃
    (by rw [h₂.report]) (by rw [h₂.report])
  rw [afterStages_early config introspector hstart hs ho]
  unfold Stage.early
  simp only [List.foldl_cons, List.foldl_nil]
  refine ⟨?_, hheap⟩
  rw [k₄]
  unfold commandsBefore
  simp only [List.nil_append, List.append_assoc]

/-- After all stages the channel has run the course. -/
theorem channel_afterStages (hstart : start.report = {}) (hs : start.threadStates = [])
    (ho : start.overflow = none)
    (hfits : ShownScoreFits config introspector start.channel.session.outcome) :
    (start.afterStages config introspector Stage.all).channel =
      start.channel.after (course config introspector start.channel.session.outcome)
        (fetched config introspector start.channel.session.outcome) := by
  obtain ⟨-, -, -, hall⟩ := reached_late config introspector hstart hs ho hfits
  obtain ⟨k₅, hheap⟩ := channel_early config introspector hstart hs ho
  obtain ⟨k₆, haot⟩ := Stage.channel_aot config introspector k₅
  have k₇ := Stage.channel_locks config introspector
    (Stage.channel_heap config introspector k₆ (haot.trans hheap))
  rw [hall]
  simp only [List.foldl_cons, List.foldl_nil]
  rw [k₇]
  unfold course fetched commandsBehind
  simp only [if_pos hfits, List.append_assoc]

end Progress

section Analyses

variable {config : Config} {backend : Backend} (introspector : Introspector)

/-- **A full analysis whose score fits runs its course**, and reports what failed on it and what
could not be fetched. -/
theorem analyze_reports (hc : config.isValid = true) (hb : backend.Steady)
    (hfits : ShownScoreFits config introspector (config.openChannel backend).session.outcome) :
    let outcome := (config.openChannel backend).session.outcome
    let run := analyze config backend introspector
    run.session = (config.openChannel backend).session.after (course config introspector outcome) ∧
      run.report.crashLog = failures outcome (course config introspector outcome) ∧
      run.report.unavailable = refusals outcome (fetched config introspector outcome) := by
  let start : Progress := { channel := config.openChannel backend }
  have hchannel := Progress.channel_afterStages config introspector
    (show start.report = {} from rfl) rfl rfl hfits
  intro outcome run
  have hrun : run = (start.afterStages config introspector Stage.all).finish :=
    analyze_eq_finish introspector hc hb hfits
  rw [hrun]
  unfold Progress.finish
  simp only
  rw [hchannel]
  exact ⟨rfl, rfl, rfl⟩

/-- **A full analysis whose score overflows** runs the course up to the classification, and reports
nothing but the overflow. -/
theorem analyze_overflows (hc : config.isValid = true) (hb : backend.Steady)
    (hfits : ¬ ShownScoreFits config introspector
      (config.openChannel backend).session.outcome) :
    let outcome := (config.openChannel backend).session.outcome
    let run := analyze config backend introspector
    run.session = (config.openChannel backend).session.after (course config introspector outcome) ∧
      ∃ overflow : Overflow,
        run.report = .failure ("analysis panicked: " ++ overflow.message) ∧
        AotClassification.ofProcess config (shownModules outcome) (shownThreads config outcome)
          (shownExceptionType config introspector outcome) = .error overflow := by
  let start : Progress := { channel := config.openChannel backend }
  intro outcome run
  obtain ⟨overflow, haot⟩ := AotClassification.exists_ofProcess_eq_error_iff.2 hfits
  obtain ⟨hreport, hsession⟩ := analyze_of_overflow introspector hc hb haot
  obtain ⟨hchannel, -⟩ := Progress.channel_early config introspector
    (show start.report = {} from rfl) rfl rfl
  refine ⟨?_, overflow, hreport, haot⟩
  show (analyze config backend introspector).session = _
  rw [hsession, hchannel]
  unfold course commandsBehind
  rw [if_neg hfits, List.append_nil]
  rfl

/-- **A full analysis runs its course.** -/
theorem analyze_session (hc : config.isValid = true) (hb : backend.Steady) :
    (analyze config backend introspector).session =
      (config.openChannel backend).session.after
        (course config introspector (config.openChannel backend).session.outcome) := by
  by_cases hfits : ShownScoreFits config introspector (config.openChannel backend).session.outcome
  · exact (analyze_reports introspector hc hb hfits).1
  · exact (analyze_overflows introspector hc hb hfits).1

end Analyses

end Postmortem
