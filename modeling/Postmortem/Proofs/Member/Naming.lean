import Mathlib.Tactic
import Postmortem.Member.Listing
import Postmortem.Member.Resolution
import Postmortem.Proofs.Text.Columns
import Postmortem.Proofs.Text.Cuts

/-!
# Members by their own names

The dump of a method table prints each method with its signature: the declaring type, a dot,
the method with its type arguments in double brackets if it has any, and the parameters. The
name of a member is read off its signature, and a request is compared with that name.

The first double bracket is where the name ends. In the signature of a method of an
instantiated generic type, that bracket is inside the type.

* `PrintedMethod.memberName_eq_iff`: a method is read under its own name iff its declaring
  type is not instantiated; a constructor always is.
* `PrintedMethod.goesByName_iff`: **exactly these methods are found on the types that have
  them.**
-/

namespace Postmortem

open Text

/-! ## Printed methods -/

/-- What opens a list of type arguments. -/
def argumentsMark : List Char := "[[".toList

/-- The name of a method as a compiler gives it: without the characters that have a meaning in
signatures and in names of types. -/
structure Identifier where
  chars : List Char
  ne_nil : chars ≠ [] := by decide
  trimmed : trim chars = chars := by decide
  plain : ['.', '(', '[', Address.backtick].all (!chars.contains ·) = true := by decide

theorem notMem_of_all {cs chars : List Char} (h : cs.all (!chars.contains ·) = true) {c : Char}
    (hc : c ∈ cs) : c ∉ chars := by
  have hno := List.all_eq_true.1 h c hc
  rwa [Bool.not_eq_true', List.contains_eq_mem, decide_eq_false_iff_not] at hno

theorem Identifier.notMem_chars (id : Identifier) {c : Char}
    (hc : c ∈ ['.', '(', '[', Address.backtick]) : c ∉ id.chars := notMem_of_all id.plain hc

/-- The name of a method in its signature. -/
inductive MethodName where
  | ordinary (id : Identifier)
  /-- The constructor of instances or, once for the type, of the type itself. -/
  | constructor (isStatic : Bool)

namespace MethodName

/-- The name as it is printed. -/
def chars : MethodName → List Char
  | ordinary id => id.chars
  | constructor false => ".ctor".toList
  | constructor true => ".cctor".toList

theorem trim_chars (name : MethodName) : trim name.chars = name.chars := by
  cases name with
  | ordinary id => exact id.trimmed
  | constructor isStatic => cases isStatic <;> decide

theorem chars_ne_nil (name : MethodName) : name.chars ≠ [] := by
  cases name with
  | ordinary id => exact id.ne_nil
  | constructor isStatic => cases isStatic <;> decide

theorem notMem_chars (name : MethodName) {c : Char}
    (hc : c ∈ ['(', '[', Address.backtick]) : c ∉ name.chars := by
  cases name with
  | ordinary id => exact id.notMem_chars (List.mem_cons_of_mem _ hc)
  | constructor isStatic => exact notMem_of_all (by cases isStatic <;> decide) hc

end MethodName

/-- The name of a type in a signature, with its namespace, the types around it and its type
arguments. Type arguments stand behind the arity of a generic type. -/
structure TypeText where
  chars : List Char
  ne_nil : chars ≠ [] := by decide
  trimmed : trim chars = chars := by decide
  noParameters : '(' ∉ chars := by decide
  noDot : chars.getLast? ≠ some '.' := by decide
  arity : ∀ parts ∈ cutAt? argumentsMark chars,
    Address.backtick ∈ behindLast (· == '.') parts.1 := by decide

/-- Whether a type has type arguments. -/
def TypeText.IsInstantiated (type : TypeText) : Prop := argumentsMark <:+: type.chars

instance (type : TypeText) : Decidable type.IsInstantiated :=
  inferInstanceAs (Decidable (argumentsMark <:+: type.chars))

/-- A method as it is printed in the dump of its type. -/
structure PrintedMethod where
  type : TypeText
  name : MethodName
  /-- The type arguments of the method, if it is generic. -/
  arguments : Option (List Char) := none
  noParameters : ∀ text ∈ arguments, '(' ∉ text := by decide
  parameters : List Char := []

namespace PrintedMethod

variable (m : PrintedMethod)

/-- The type arguments in double brackets. -/
def instantiation : List Char :=
  m.arguments.elim [] fun text => argumentsMark ++ (text ++ "]]".toList)

/-- The signature up to the parameters. -/
def head : List Char := m.type.chars ++ '.' :: (m.name.chars ++ m.instantiation)

/-- The signature: type, method and parameters. -/
def signature : String := .ofList (m.head ++ '(' :: (m.parameters ++ [')']))

/-- Whether the name of a method is not hidden by type arguments: those of its declaring type,
or its own if it is a constructor. (Constructors have none.) -/
def IsPlain : Prop :=
  match m.name with
  | .ordinary _ => ¬ m.type.IsInstantiated
  | .constructor _ => m.arguments = none

/-! ## Signatures up to the parameters -/

theorem head_of_arguments_eq_none (h : m.arguments = none) :
    m.head = m.type.chars ++ '.' :: m.name.chars := by
  unfold head instantiation
  rw [h, Option.elim_none, List.append_nil]

theorem head_of_arguments_eq_some {text : List Char} (h : m.arguments = some text) :
    m.head = m.type.chars ++ '.' :: m.name.chars ++ (argumentsMark ++ (text ++ "]]".toList)) := by
  unfold head instantiation
  rw [h, Option.elim_some, List.append_assoc, List.cons_append]

/-- A method ends in its name or in its type arguments, and in no blank. -/
theorem trim_ending : trim (m.name.chars ++ m.instantiation) = m.name.chars ++ m.instantiation := by
  unfold instantiation
  cases m.arguments with
  | none => exact (List.append_nil _).symm ▸ m.name.trim_chars
  | some text =>
    have hbrackets : trim "]]".toList = "]]".toList := by decide
    have h := trim_between m.name.trim_chars m.name.chars_ne_nil hbrackets (by decide)
      (argumentsMark ++ text)
    rwa [List.append_assoc] at h

theorem noParameters_head : '(' ∉ m.head := by
  have hname := m.name.notMem_chars (c := '(') (by decide)
  have harguments : '(' ∉ m.instantiation := by
    unfold instantiation
    cases h : m.arguments with
    | none => exact List.not_mem_nil
    | some text => simpa [argumentsMark] using m.noParameters text h
  simp [head, m.type.noParameters, hname, harguments]

/-- **The signature up to the parameters** is what names are read from. -/
theorem trim_takeWhile_signature :
    trim (m.signature.toList.takeWhile (· != '(')) = m.head := by
  have hhead : ∀ c ∈ m.head, (c != '(') = true := by
    intro c hc
    rw [bne_iff_ne]
    rintro rfl
    exact m.noParameters_head hc
  have htake : m.signature.toList.takeWhile (· != '(') = m.head := by
    unfold signature
    rw [String.toList_ofList, List.takeWhile_append_of_pos hhead,
      List.takeWhile_cons_of_neg (by decide), List.append_nil]
  rw [htake]
  exact trim_between m.type.trimmed m.type.ne_nil m.trim_ending
    (List.append_ne_nil_of_left_ne_nil m.name.chars_ne_nil _) ['.']

/-! ## Reading names -/

/-- The endings by which constructors are told. -/
def constructorEndings : List (List Char) := ["..cctor".toList, "..ctor".toList]

/-- The head up to the first double bracket. -/
def undecorated : List Char :=
  match cutAt? argumentsMark m.head with
  | some (before, _) => before
  | none => m.head

theorem memberName_constructor {isStatic : Bool} (h : m.name = .constructor isStatic)
    (harguments : m.arguments = none) : memberName m.signature = .ofList m.name.chars := by
  unfold memberName
  rw [trim_takeWhile_signature, m.head_of_arguments_eq_none harguments, h]
  cases isStatic with
  | true =>
    have hsuffix : "..cctor".toList <:+ m.type.chars ++ '.' :: ".cctor".toList :=
      List.suffix_append _ _
    exact if_pos (List.isSuffixOf_iff_suffix.2 hsuffix)
  | false =>
    have hsuffix : "..ctor".toList <:+ m.type.chars ++ '.' :: ".ctor".toList :=
      List.suffix_append _ _
    have hstatic : ¬ "..cctor".toList <:+ m.type.chars ++ '.' :: ".ctor".toList := fun h =>
      absurd (List.suffix_of_suffix_length_le hsuffix h (by decide)) (by decide)
    dsimp only [MethodName.chars]
    rw [if_neg (by rwa [List.isSuffixOf_iff_suffix]), if_pos (List.isSuffixOf_iff_suffix.2 hsuffix)]
    rfl

/-- A method that is not a constructor, or that has type arguments, does not end like one. -/
theorem not_suffix_head (h : ∀ isStatic, m.name = .constructor isStatic → m.arguments ≠ none) :
    ∀ ending ∈ constructorEndings, ¬ ending <:+ m.head := by
  intro ending hending hsuffix
  obtain ⟨w, hw, hr, rfl⟩ : ∃ w : List Char, '.' ∉ w ∧ w.getLast? = some 'r' ∧
      ending = '.' :: '.' :: w := by
    rcases List.mem_pair.1 hending with rfl | rfl
    · exact ⟨"cctor".toList, by decide, by decide, rfl⟩
    · exact ⟨"ctor".toList, by decide, by decide, rfl⟩
  obtain ⟨start, hstart⟩ := hsuffix
  cases harguments : m.arguments with
  | some text =>
    -- a constructor does not end in a bracket
    rw [m.head_of_arguments_eq_some harguments] at hstart
    have hlast := congrArg List.getLast? hstart
    simp [List.getLast?_append, List.getLast?_cons, hr] at hlast
  | none =>
    cases hname : m.name with
    | constructor isStatic => exact h isStatic hname harguments
    | ordinary id =>
      -- the last dot is the one behind the type, which does not end in another one
      have hdot : ∀ cs : List Char, '.' ∉ cs → ∀ d ∈ cs, (d == '.') = false := by
        intro cs hcs d hd
        rw [beq_eq_false_iff_ne]
        rintro rfl
        exact hcs hd
      have hhead : m.head = m.type.chars ++ '.' :: id.chars := by
        rw [m.head_of_arguments_eq_none harguments, hname]
        rfl
      have hlast := congrArg (behindLast (· == '.')) hstart
      rw [← List.singleton_append, ← List.append_assoc, behindLast_append rfl (hdot w hw), hhead,
        behindLast_append rfl (hdot _ (id.notMem_chars (by decide)))] at hlast
      subst hlast
      rw [hhead, ← List.singleton_append, ← List.append_assoc] at hstart
      have htype := List.append_cancel_right hstart
      exact m.type.noDot (by rw [← htype]; simp)

theorem memberName_of_ordinary
    (h : ∀ isStatic, m.name = .constructor isStatic → m.arguments ≠ none) :
    memberName m.signature = .ofList (behindLast (· == '.') m.undecorated) := by
  have hnot := m.not_suffix_head h
  have hstatic : ¬ "..cctor".toList.isSuffixOf m.head = true := by
    rw [List.isSuffixOf_iff_suffix]
    exact hnot _ (by decide)
  have hinstance : ¬ "..ctor".toList.isSuffixOf m.head = true := by
    rw [List.isSuffixOf_iff_suffix]
    exact hnot _ (by decide)
  unfold memberName
  rw [trim_takeWhile_signature]
  dsimp only
  rw [if_neg hstatic, if_neg hinstance]
  rfl

theorem undecorated_of_not_isInstantiated (h : ¬ m.type.IsInstantiated) :
    m.undecorated = m.type.chars ++ '.' :: m.name.chars := by
  -- the name has no bracket, so no double bracket begins before its end
  have hfirst : ∀ cs : List Char, cs.count '[' ≤ 1 →
      ¬ argumentsMark <:+: m.type.chars ++ '.' :: (m.name.chars ++ cs) := by
    intro cs hcs hin
    rcases infix_append_cons (by decide) hin with hin | hin
    · exact h hin
    · have hcount := hin.sublist.count_le '['
      rw [List.count_append, List.count_eq_zero.2 (m.name.notMem_chars (by decide))] at hcount
      have hmark : argumentsMark.count '[' = 2 := by decide
      omega
  unfold undecorated
  cases harguments : m.arguments with
  | none =>
    have hhead := m.head_of_arguments_eq_none harguments
    have hnone : cutAt? argumentsMark m.head = none := by
      rw [cutAt?_eq_none_iff, hhead]
      have := hfirst [] (by decide)
      rwa [List.append_nil] at this
    rw [hnone, hhead]
  | some text =>
    have hcut : cutAt? argumentsMark m.head =
        some (m.type.chars ++ '.' :: m.name.chars, text ++ "]]".toList) := by
      refine (cutAt?_eq_some_iff (by decide)).2 ⟨?_, ?_⟩
      · exact m.head_of_arguments_eq_some harguments
      · rw [List.append_assoc, List.cons_append]
        exact hfirst _ (by decide)
    rw [hcut]

theorem backtick_mem_of_isInstantiated (h : m.type.IsInstantiated) :
    Address.backtick ∈ behindLast (· == '.') m.undecorated := by
  cases hcut : cutAt? argumentsMark m.type.chars with
  | none => exact absurd h (cutAt?_eq_none_iff.1 hcut)
  | some parts =>
    obtain ⟨before, behind⟩ := parts
    unfold undecorated head
    rw [cutAt?_append_of_eq_some (by decide) hcut]
    exact m.type.arity _ hcut

/-- **A method is read under its own name iff no type arguments hide it**: its declaring type
is not instantiated, or it is a constructor. -/
theorem memberName_eq_iff : memberName m.signature = .ofList m.name.chars ↔ m.IsPlain := by
  cases hname : m.name with
  | ordinary id =>
    have hplain : m.IsPlain ↔ ¬ m.type.IsInstantiated := by
      unfold IsPlain
      rw [hname]
    rw [m.memberName_of_ordinary (fun isStatic hstatic => by rw [hname] at hstatic; cases hstatic),
      String.ofList_inj, hplain]
    constructor
    · intro hread hinstantiated
      have hmem := m.backtick_mem_of_isInstantiated hinstantiated
      rw [hread] at hmem
      exact id.notMem_chars (by decide) hmem
    · intro hinstantiated
      rw [m.undecorated_of_not_isInstantiated hinstantiated, hname]
      refine behindLast_append rfl (fun d hd => ?_) _
      rw [beq_eq_false_iff_ne]
      rintro rfl
      exact id.notMem_chars (by decide) hd
  | constructor isStatic =>
    have hplain : m.IsPlain ↔ m.arguments = none := by
      unfold IsPlain
      rw [hname]
    rw [hplain]
    constructor
    · intro hread
      by_contra hsome
      rw [m.memberName_of_ordinary (fun _ _ => hsome), String.ofList_inj] at hread
      have hdot : '.' ∈ (MethodName.constructor isStatic).chars := by cases isStatic <;> decide
      rw [← hread] at hdot
      exact absurd (eq_false_of_mem_behindLast hdot) (by decide)
    · intro hnone
      rw [← hname]
      exact m.memberName_constructor hname hnone

theorem signature_ne_nil : m.signature.toList ≠ [] := by
  unfold signature head
  rw [String.toList_ofList, List.append_assoc]
  exact List.append_ne_nil_of_left_ne_nil m.type.ne_nil _

theorem trim_signature : trim m.signature.toList = m.signature.toList := by
  have hclosing : trim [')'] = [')'] := by decide
  have h := trim_between m.type.trimmed m.type.ne_nil hclosing (by decide)
    ('.' :: (m.name.chars ++ m.instantiation) ++ '(' :: m.parameters)
  unfold signature head
  rw [String.toList_ofList]
  simpa using h

end PrintedMethod

/-! ## Rows of a dump -/

/-- A method row as it is printed: entry point, descriptor, compile status and signature, with
the numbers of spaces that its columns have in front of them besides the one that ends the
column before. -/
structure PrintedMember where
  indents : ℕ → ℕ := fun _ => 0
  entry : Word
  descriptor : Word
  status : Word
  method : PrintedMethod
  isEntry : isHexColumn 8 16 entry.chars = true := by decide
  isDescriptor : isHexColumn 8 16 descriptor.chars = true := by decide
  isStatus : MemberTable.statusColumns.contains status.chars = true := by decide

namespace PrintedMember

variable (r : PrintedMember)

/-- The row as a line. -/
def printed : List Char :=
  rowText [(r.indents 0, r.entry), (r.indents 1, r.descriptor), (r.indents 2, r.status)]
    (List.replicate (r.indents 3) ' ' ++ r.method.signature.toList)

/-- The member that is read. -/
def info : MemberInfo where
  name := memberName r.method.signature
  signature := r.method.signature
  compileStatus := .parse (.ofList r.status.chars)

theorem name_info : r.info.name = memberName r.method.signature := by
  dsimp only [info]

theorem member_printed : Scan.front? MemberTable.member r.printed = some r.info := by
  have hstart : trimStart (rowText [] (List.replicate (r.indents 3) ' ' ++
      r.method.signature.toList)) = r.method.signature.toList := by
    rw [rowText, trimStart_replicate_append]
    exact trimStart_eq_self_iff.2 fun h => (trim_eq_self_iff.1 r.method.trim_signature h).1
  have hlast : Scan.lastColumn (trimStart (rowText [] (List.replicate (r.indents 3) ' ' ++
      r.method.signature.toList))) = some (r.method.signature.toList, []) := by
    rw [hstart]
    refine lastColumn_of_trimEnd r.method.signature_ne_nil (trimEnd_eq_self_iff.2 fun h => ?_)
    exact (trim_eq_self_iff.1 r.method.trim_signature h).2
  have hscan : MemberTable.member r.printed = some (r.info, []) := by
    unfold MemberTable.member printed
    rw [Scan.bind_blanks, Scan.bind_of_eq_some (columnThen_rowText _ r.isEntry),
      Scan.bind_of_eq_some (columnThen_rowText _ r.isDescriptor),
      Scan.bind_of_eq_some (columnThen_rowText _ r.isStatus), Scan.bind_of_eq_some hlast,
      String.ofList_toList]
    rfl
  exact Scan.front?_of_eq_some hscan

end PrintedMember

namespace MemberTable

variable {table : MemberTable} {l : List Char}

/-- A line takes no member away. -/
theorem members_prefix_readLine (table : MemberTable) (l : List Char) :
    table.members <+: (table.readLine l).members := by
  unfold readLine
  split
  · exact List.prefix_append _ _
  · split <;> exact List.prefix_rfl

theorem members_prefix_foldl (ls : List (List Char)) : ∀ table : MemberTable,
    table.members <+: (ls.foldl readLine table).members := by
  induction ls with
  | nil => intro table; exact List.prefix_rfl
  | cons l ls ih =>
    intro table
    rw [List.foldl_cons]
    exact (members_prefix_readLine table l).trans (ih _)

/-- **The row of a member makes it a member of the dump**, whatever stands around the row. -/
theorem mem_members_foldl {member : MemberInfo} {ls : List (List Char)} (hl : l ∈ ls)
    (hmember : Scan.front? MemberTable.member l = some member) (table : MemberTable) :
    member ∈ (ls.foldl readLine table).members := by
  obtain ⟨start, rest, rfl⟩ := List.append_of_mem hl
  rw [List.foldl_append, List.foldl_cons]
  refine (members_prefix_foldl rest _).subset ?_
  unfold readLine
  rw [hmember]
  exact List.mem_append_right _ List.mem_cons_self

/-- A dump with a row is read. -/
theorem ofListing?_of_mem {dump : String} {member : MemberInfo} (hdump : isDump dump = true)
    (hl : l ∈ lines dump.toList) (hmember : Scan.front? MemberTable.member l = some member) :
    ∃ table, ofListing? dump = some table ∧ member ∈ table.members := by
  have hmem := mem_members_foldl hl hmember {}
  refine ⟨(lines dump.toList).foldl readLine {}, ?_, hmem⟩
  have hsome : (!((lines dump.toList).foldl readLine {}).members.isEmpty) = true := by
    rw [Bool.not_eq_true', List.isEmpty_eq_false_iff]
    exact List.ne_nil_of_mem hmem
  unfold ofListing?
  rw [hdump, if_pos rfl]
  dsimp only
  rw [hsome, Bool.or_true, if_pos rfl]

end MemberTable

/-! ## Requests -/

/-- A request for a member of a type is an exact match. -/
theorem TypeResolution.report_of_mem {table : MemberTable} {member : MemberInfo}
    {request : MemberRequest} (hmember : member ∈ table.members)
    (hrequest : request.memberName = some member.name) (maxMembers : ℕ) (methodTable : Address)
    (resolvedVia : Option String) :
    let found := report maxMembers request (some methodTable) resolvedVia (some table)
    found.exactMatch = true ∧ found.diagnosis = .exactMatchFound := by
  intro found
  have hexact : found.exactMatch = true := by
    have hany : table.members.any (fun other => other.name == member.name) = true :=
      List.any_eq_true.2 ⟨member, hmember, beq_self_eq_true _⟩
    show (request.memberName.any fun name => table.members.any fun m => m.name == name) = true
    rw [hrequest]
    exact hany
  refine ⟨hexact, ?_⟩
  show Diagnosis.decide true request.memberName.isSome true found.exactMatch _ = _
  rw [hexact, hrequest]
  rfl

/-- **A method goes by its own name**: it is read under it, and a request for it is an exact
match on every type whose dump has a row of the method. -/
structure PrintedMethod.GoesByName (m : PrintedMethod) : Prop where
  memberName : memberName m.signature = .ofList m.name.chars
  exactMatch : ∀ (r : PrintedMember) (dump : String), r.method = m →
    MemberTable.isDump dump = true → r.printed ∈ lines dump.toList →
      ∃ table, MemberTable.ofListing? dump = some table ∧
        ∀ (maxMembers : ℕ) (request : MemberRequest) (methodTable : Address)
          (resolvedVia : Option String), request.memberName = some (.ofList m.name.chars) →
          let found := TypeResolution.report maxMembers request (some methodTable) resolvedVia
            (some table)
          found.exactMatch = true ∧ found.diagnosis = .exactMatchFound

/-- **Which methods go by their own names**: those of types without type arguments, and all
constructors. -/
theorem PrintedMethod.goesByName_iff (m : PrintedMethod) : m.GoesByName ↔ m.IsPlain := by
  rw [← m.memberName_eq_iff]
  constructor
  · exact GoesByName.memberName
  · intro hname
    refine ⟨hname, ?_⟩
    rintro r dump rfl hdump hrow
    obtain ⟨table, htable, hmember⟩ := MemberTable.ofListing?_of_mem hdump hrow r.member_printed
    refine ⟨table, htable, fun maxMembers request methodTable resolvedVia hrequest => ?_⟩
    rw [← hname, ← r.name_info] at hrequest
    exact TypeResolution.report_of_mem hmember hrequest maxMembers methodTable resolvedVia

/-- A method of an instantiated generic type. -/
def listAdd : PrintedMethod where
  type :=
    { chars := "System.Collections.Generic.List`1[[System.Int32, System.Private.CoreLib]]".toList }
  name := .ordinary { chars := "Add".toList }
  parameters := "Int32".toList

/-- It is not read under its own name, but under that of its type. -/
theorem not_goesByName_of_instantiated : ¬ ∀ m : PrintedMethod, m.GoesByName := by
  intro h
  have hplain : listAdd.IsPlain := listAdd.memberName_eq_iff.1 (h listAdd).memberName
  exact hplain (by decide)

end Postmortem
