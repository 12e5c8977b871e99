import Postmortem.Member.Request
import Postmortem.Proofs.Text.Columns
import Postmortem.Proofs.Text.Cuts
import Postmortem.Proofs.Text.Quotes

/-!
# Messages about missing members

The runtime has four forms of messages for what it could not find. What a message was written for is
read back from it: its forms are tried one after the other, and only its own one is found.

A dotted name does not say where the type ends and the member begins. A method follows the first dot
behind which a member and its parameters can be read: behind an inner dot of the type comes another
segment and a dot. The member of the other forms follows the last dot.

* `methodOfType_append`: **the dot between a type and its method** is found.
* `typeAndMember_append`: the dot in front of any other member is found.
* `MissingMember.parse?_message`: **a message is about what it was written for.**
-/

namespace Postmortem

open Text Scan

/-! ## Names -/

/-- Whether a character can be part of a segment of a dotted name. -/
def isSegmentChar (c : Char) : Bool :=
  !isBlank c && c != '.' && c != '\'' && c != '(' && c != ')'

/-- A segment of a dotted name. It may have a backtick and an arity. -/
structure Segment where
  chars : List Char
  ne_nil : chars ≠ [] := by decide
  plain : chars.all isSegmentChar = true := by decide

/-- A dotted name of a type. -/
structure TypeName where
  first : Segment
  others : List Segment

/-- The segments behind the first one, each behind a dot. -/
def TypeName.tail (others : List Segment) : List Char :=
  others.flatMap fun segment => '.' :: segment.chars

def TypeName.chars (name : TypeName) : List Char := name.first.chars ++ tail name.others

/-- The name of a method that a call asks for. The names of constructors begin with a dot. -/
inductive CalledName
  | named (name : Segment)
  | constructor
  | typeInitializer

def CalledName.chars : CalledName → List Char
  | named name => name.chars
  | constructor => ".ctor".toList
  | typeInitializer => ".cctor".toList

/-- The name of an assembly as messages have it: not empty, in front of a comma. -/
structure AssemblyName where
  chars : List Char
  ne_nil : chars ≠ [] := by decide
  noQuote : '\'' ∉ chars := by decide
  noComma : ',' ∉ chars := by decide

/-- A text without quotes. -/
structure Unquoted where
  chars : List Char
  noQuote : '\'' ∉ chars := by decide

/-- The parameters of a method, in any notation that has no closing parenthesis. -/
structure Parameters where
  chars : List Char
  noParenthesis : ')' ∉ chars := by decide

/-! ## Messages -/

/-- The word in front of a member that is not a method with its parameters. -/
inductive MemberKind
  | member
  | method
  | field

def MemberKind.word : MemberKind → String
  | member => "Member"
  | method => "Method"
  | field => "Field"

/-- What the runtime could not find. -/
inductive MissingMember
  | method (returned : Word) (owner : TypeName) (name : CalledName) (parameters : Parameters)
  | field (owner : TypeName) (name : Segment)
  | type (name : TypeName) (assembly : AssemblyName) (details : Unquoted)
  | member (kind : MemberKind) (owner : TypeName) (name : Segment)

namespace MissingMember

/-- The message about a missing member, with what follows the last quote. -/
def message (ending : List Char) : MissingMember → List Char
  | method returned owner name parameters =>
    "Method not found: '".toList ++ (returned.chars ++ ' ' :: (owner.chars ++ '.' ::
      (name.chars ++ '(' :: (parameters.chars ++ (")'".toList ++ ending)))))
  | field owner name =>
    "Field not found: '".toList ++ (owner.chars ++ '.' :: (name.chars ++ '\'' :: ending))
  | type name assembly details =>
    "Could not load type '".toList ++ (name.chars ++ ("' from assembly '".toList ++
      (assembly.chars ++ ',' :: (details.chars ++ '\'' :: ending))))
  | member kind owner name =>
    kind.word.toList ++ (" '".toList ++ (owner.chars ++ '.' ::
      (name.chars ++ '\'' :: (" not found".toList ++ ending))))

/-- What a message asks for. -/
def request : MissingMember → MemberRequest
  | method returned owner name parameters =>
    { typeName := .ofList owner.chars
      memberName := some (.ofList name.chars)
      signature := some (.ofList
        (returned.chars ++ ' ' :: name.chars ++ '(' :: parameters.chars ++ [')'])) }
  | field owner name | member _ owner name =>
    { typeName := .ofList owner.chars, memberName := some (.ofList name.chars) }
  | type name assembly _ =>
    { typeName := .ofList name.chars, assembly := some (.ofList assembly.chars) }

end MissingMember

/-! ## Segments -/

theorem isNameChar_of_isSegmentChar {c : Char} (h : isSegmentChar c = true) :
    MemberRequest.isNameChar c = true := by
  simp only [isSegmentChar, Bool.and_eq_true] at h
  obtain ⟨⟨⟨⟨hblank, -⟩, hquote⟩, -⟩, -⟩ := h
  rw [MemberRequest.isNameChar, hblank, hquote]
  rfl

namespace Segment

variable {c : Char} (segment : Segment)

theorem isSegmentChar_of_mem (hc : c ∈ segment.chars) : isSegmentChar c = true :=
  List.all_eq_true.1 segment.plain c hc

theorem isNameChar_of_mem (hc : c ∈ segment.chars) : MemberRequest.isNameChar c = true :=
  isNameChar_of_isSegmentChar (segment.isSegmentChar_of_mem hc)

/-- A segment has none of the characters that end it. -/
theorem ne_of_mem {d : Char} (hd : isSegmentChar d = false) (hc : c ∈ segment.chars) : c ≠ d := by
  rintro rfl
  rw [segment.isSegmentChar_of_mem hc] at hd
  cases hd

theorem notMem {d : Char} (hd : isSegmentChar d = false) : d ∉ segment.chars :=
  fun h => segment.ne_of_mem hd h rfl

end Segment

namespace TypeName

variable {c : Char}

theorem isNameChar_of_mem_tail {others : List Segment} (hc : c ∈ tail others) :
    MemberRequest.isNameChar c = true := by
  obtain ⟨segment, -, hc⟩ := List.mem_flatMap.1 hc
  rcases List.mem_cons.1 hc with rfl | hc
  · decide
  · exact segment.isNameChar_of_mem hc

theorem isNameChar_of_mem (name : TypeName) (hc : c ∈ name.chars) :
    MemberRequest.isNameChar c = true := by
  rcases List.mem_append.1 hc with hc | hc
  · exact name.first.isNameChar_of_mem hc
  · exact isNameChar_of_mem_tail hc

/-- A name of a type and a member stand between quotes. -/
theorem isNameChar_of_mem_member (owner : TypeName) (name : Segment) :
    ∀ c ∈ owner.chars ++ '.' :: name.chars, MemberRequest.isNameChar c = true := by
  intro c hc
  rcases List.mem_append.1 hc with hc | hc
  · exact owner.isNameChar_of_mem hc
  · rcases List.mem_cons.1 hc with rfl | hc
    · rfl
    · exact name.isNameChar_of_mem hc

theorem chars_ne_nil (name : TypeName) : name.chars ≠ [] :=
  List.append_ne_nil_of_left_ne_nil name.first.ne_nil _

end TypeName

namespace MemberRequest

variable {c : Char} {cs w : List Char}

/-! ## Methods -/

/-- A segment is read as the name of a member. -/
theorem span1_segment (segment : Segment)
    (hc : (c != '.' && c != '\'' && c != '(') = false) (cs : List Char) :
    span1 (fun c => c != '.' && c != '\'' && c != '(') (segment.chars ++ c :: cs) =
      some (segment.chars, c :: cs) := by
  refine span1_append segment.ne_nil (fun d hd => ?_) hc cs
  have hplain : ∀ e, isSegmentChar e = false → (d != e) = true := fun e he =>
    bne_iff_ne.2 (segment.ne_of_mem he hd)
  rw [hplain '.' rfl, hplain '\'' rfl, hplain '(' rfl]
  rfl

/-- A segment does not begin with a dot. -/
theorem optional_dot_segment (segment : Segment) (cs : List Char) :
    optional (literal ".") (segment.chars ++ cs) = some (none, segment.chars ++ cs) := by
  refine optional_of_eq_none ?_
  obtain ⟨c, w, hw⟩ := List.exists_cons_of_ne_nil segment.ne_nil
  have hc : c ∈ segment.chars := hw ▸ List.mem_cons_self
  rw [hw, List.cons_append]
  exact literal_cons_eq_none rfl (segment.ne_of_mem rfl hc).symm

/-- No member ends where a dot follows a segment. -/
theorem memberAndParameters_segment (segment : Segment) (cs : List Char) :
    front? memberAndParameters (segment.chars ++ '.' :: cs) = none := by
  have hopen : literal "(" ('.' :: cs) = none := literal_cons_eq_none rfl (by decide)
  refine front?_of_eq_none ?_
  unfold memberAndParameters
  rw [bind_of_eq_some (optional_dot_segment segment _),
    bind_of_eq_some (span1_segment segment rfl cs)]
  exact bind_of_eq_none hopen _

/-- No parameters end in a text without quotes. -/
theorem memberAndParameters_unquoted (hcs : '\'' ∉ cs) :
    front? memberAndParameters cs = none := by
  refine front?_of_eq_none ?_
  unfold memberAndParameters
  refine (readsFront_literal ".").optional.bind_eq_none (fun dot cs hcs => ?_) hcs
  refine (readsFront_span1 _).bind_eq_none (fun name cs hcs => ?_) hcs
  refine (readsFront_literal "(").bind_eq_none (fun _ cs hcs => ?_) hcs
  refine (readsFront_span _).bind_eq_none (fun parameters cs hcs => ?_) hcs
  exact bind_of_eq_none (literal_unquoted (by decide) hcs) _

/-- Behind the dot of a constructor stands a segment, as in any other name. -/
theorem memberAndParameters_of_dot {dot : Option Unit} (segment : Segment)
    (parameters : Parameters)
    (hdot : optional (literal ".") w =
      some (dot, segment.chars ++ '(' :: (parameters.chars ++ (")'".toList ++ cs)))) :
    front? memberAndParameters w =
      some (if dot.isSome then '.' :: segment.chars else segment.chars, parameters.chars) := by
  have hopen := literal_append "(" (parameters.chars ++ (")'".toList ++ cs))
  have hparameters : span (· != ')') (parameters.chars ++ (")'".toList ++ cs)) =
      some (parameters.chars, ")'".toList ++ cs) :=
    span_append (fun _ hc => bne_iff_ne.2 (ne_of_mem_of_not_mem hc parameters.noParenthesis))
      rfl _
  refine front?_of_eq_some (?_ : _ = some (_, cs))
  unfold memberAndParameters
  rw [bind_of_eq_some hdot, bind_of_eq_some (span1_segment segment rfl _)]
  refine (bind_of_eq_some hopen _).trans ?_
  rw [bind_of_eq_some hparameters, bind_of_eq_some (literal_append ")'" cs)]
  rfl

/-- A method and its parameters are read in front of a closing quote. -/
theorem memberAndParameters_append (name : CalledName) (parameters : Parameters)
    (cs : List Char) :
    front? memberAndParameters
      (name.chars ++ '(' :: (parameters.chars ++ (")'".toList ++ cs))) =
      some (name.chars, parameters.chars) := by
  have hmarked := fun w => optional_of_eq_some (literal_append "." w)
  cases name with
  | named name => exact memberAndParameters_of_dot name parameters (optional_dot_segment name _)
  | constructor =>
    exact memberAndParameters_of_dot ⟨"ctor".toList, by decide, by decide⟩ parameters (hmarked _)
  | typeInitializer =>
    exact memberAndParameters_of_dot ⟨"cctor".toList, by decide, by decide⟩ parameters (hmarked _)

/-! ## The dot in front of a method -/

/-- The characters of a segment belong to the type. -/
theorem methodOfType_segment (hw : ∀ d ∈ w, isSegmentChar d = true) (typeName cs : List Char) :
    methodOfType typeName (w ++ cs) = methodOfType (w.reverse ++ typeName) cs := by
  induction w generalizing typeName with
  | nil => rfl
  | cons d w ih =>
    obtain ⟨hd, hw⟩ := List.forall_mem_cons.1 hw
    have hname := isNameChar_of_isSegmentChar hd
    simp only [isSegmentChar, Bool.and_eq_true, bne_iff_ne] at hd
    obtain ⟨⟨⟨⟨-, hdotless⟩, -⟩, hopenless⟩, -⟩ := hd
    have hdot : (d == '.' && !typeName.isEmpty) = false := by simp [hdotless]
    have hgo : (isNameChar d && d != '(') = true := by simp [hname, hopenless]
    rw [List.cons_append, methodOfType, hdot, hgo, List.reverse_cons, List.append_assoc]
    exact ih hw (d :: typeName)

/-- A dot belongs to the type if no member and no parameters follow it. -/
theorem methodOfType_dot (typeName : List Char) (hcs : front? memberAndParameters cs = none) :
    methodOfType typeName ('.' :: cs) = methodOfType ('.' :: typeName) cs := by
  rw [methodOfType, hcs]
  cases typeName <;> rfl

/-- **A method follows the first dot behind which no dot ends a segment.** -/
theorem methodOfType_append (others : List Segment) (name : CalledName) (parameters : Parameters)
    {typeName : List Char} (hne : typeName ≠ []) (cs : List Char) :
    methodOfType typeName (TypeName.tail others ++ '.' ::
      (name.chars ++ '(' :: (parameters.chars ++ (")'".toList ++ cs)))) =
      some (typeName.reverse ++ TypeName.tail others, name.chars, parameters.chars) := by
  induction others generalizing typeName with
  | nil =>
    have hdot : ('.' == '.' && !typeName.isEmpty) = true := by simp [hne]
    rw [TypeName.tail, List.flatMap_nil, List.nil_append, List.append_nil, methodOfType, hdot,
      if_pos rfl, memberAndParameters_append]
  | cons segment others ih =>
    -- behind a segment of the type comes the dot of the next one, or that of the method
    obtain ⟨rest, hrest⟩ : ∃ rest, TypeName.tail others ++ '.' ::
        (name.chars ++ '(' :: (parameters.chars ++ (")'".toList ++ cs))) = '.' :: rest := by
      cases others with
      | nil => exact ⟨_, rfl⟩
      | cons next others => exact ⟨_, rfl⟩
    have htail : TypeName.tail (segment :: others) =
        '.' :: (segment.chars ++ TypeName.tail others) := rfl
    rw [htail, List.cons_append, List.append_assoc, hrest,
      methodOfType_dot typeName (memberAndParameters_segment segment rest),
      methodOfType_segment fun c hc => segment.isSegmentChar_of_mem hc, ← hrest,
      ih (by simp)]
    simp

theorem methodOfType_unquoted (typeName : List Char) (hcs : '\'' ∉ cs) :
    methodOfType typeName cs = none := by
  induction cs generalizing typeName with
  | nil => rfl
  | cons c cs ih =>
    have hbehind : '\'' ∉ cs := fun h => hcs (List.mem_cons_of_mem c h)
    rw [methodOfType, memberAndParameters_unquoted hbehind, ite_self, ih _ hbehind]
    exact ite_self _

/-! ## Forms -/

/-- Behind the return type, a message about a method has its type, its name and its parameters. -/
theorem methodNotFound_of_eq_some (returned : Word) {typeName member parameters : List Char}
    (h : methodOfType [] cs = some (typeName, member, parameters)) :
    front? methodNotFound ("Method not found: '".toList ++ (returned.chars ++ ' ' :: cs)) =
      some { typeName := .ofList typeName
             memberName := some (.ofList member)
             signature := some
               (.ofList (returned.chars ++ ' ' :: member ++ '(' :: parameters ++ [')'])) } := by
  have hreturned : column (returned.chars ++ ' ' :: cs) = some (returned.chars, ' ' :: cs) :=
    column_append returned.ne_nil returned.noBlank isBlank_of_mem_head?_space
  have hspace : literal " " (' ' :: cs) = some ((), cs) := literal_append " " cs
  have hrest : rest cs = some (cs, []) := rfl
  have hparts : (liftM (methodOfType [] cs) : Scan (List Char × List Char × List Char)) [] =
      some ((typeName, member, parameters), []) := by
    rw [h]
    rfl
  have hwords := literal_append "Method not found: '" (returned.chars ++ ' ' :: cs)
  refine front?_of_eq_some (?_ : _ = some (_, []))
  unfold methodNotFound
  rw [bind_of_eq_some hwords, bind_of_eq_some hreturned, bind_of_eq_some hspace,
    bind_of_eq_some hrest, bind_of_eq_some hparts]
  rfl

/-- **A method is found** where its message begins. -/
theorem methodNotFound_message (returned : Word) (owner : TypeName) (name : CalledName)
    (parameters : Parameters) (ending : List Char) :
    front? methodNotFound (MissingMember.message ending (.method returned owner name parameters)) =
      some (MissingMember.method returned owner name parameters).request := by
  have hfirst : owner.first.chars.reverse ≠ [] := by simp [owner.first.ne_nil]
  have hmethod : methodOfType [] (owner.chars ++ '.' ::
      (name.chars ++ '(' :: (parameters.chars ++ (")'".toList ++ ending)))) =
      some (owner.chars, name.chars, parameters.chars) := by
    unfold TypeName.chars
    rw [List.append_assoc,
      methodOfType_segment fun c hc => owner.first.isSegmentChar_of_mem hc, List.append_nil,
      methodOfType_append owner.others name parameters hfirst, List.reverse_reverse]
  exact methodNotFound_of_eq_some returned hmethod

/-- **A member that is not a method with its parameters follows the last dot.** -/
theorem typeAndMember_append (owner : TypeName) (name : Segment) (cs : List Char) :
    typeAndMember (owner.chars ++ '.' :: (name.chars ++ '\'' :: cs)) =
      some ({ typeName := .ofList owner.chars, memberName := some (.ofList name.chars) }, cs) := by
  have hspan : span1 isNameChar (owner.chars ++ '.' :: (name.chars ++ '\'' :: cs)) =
      some (owner.chars ++ '.' :: name.chars, '\'' :: cs) := by
    have h := span1_append (by simp) (owner.isNameChar_of_mem_member name)
      (show isNameChar '\'' = false from rfl) cs
    rwa [List.append_assoc, List.cons_append] at h
  have hquote : literal "'" ('\'' :: cs) = some ((), cs) := literal_append "'" cs
  have hcut := cutAtLast?_append (name.notMem (d := '.') rfl) owner.chars
  have hparts : (liftM (cutAtLast? ['.'] (owner.chars ++ '.' :: name.chars)) :
      Scan (List Char × List Char)) cs = some ((owner.chars, name.chars), cs) := by
    rw [hcut]
    rfl
  have hsome : (!owner.chars.isEmpty && !name.chars.isEmpty) = true := by
    simp [owner.chars_ne_nil, name.ne_nil]
  unfold typeAndMember
  rw [bind_of_eq_some hspan, bind_of_eq_some hquote, bind_of_eq_some hparts]
  simp only [guard, hsome, if_true]
  rfl

/-- A field is found where its message begins. -/
theorem fieldNotFound_message (owner : TypeName) (name : Segment) (ending : List Char) :
    front? fieldNotFound (MissingMember.message ending (.field owner name)) =
      some (MissingMember.field owner name).request := by
  have hwords := literal_append "Field not found: '"
    (owner.chars ++ '.' :: (name.chars ++ '\'' :: ending))
  refine front?_of_eq_some (?_ : _ = some (_, ending))
  exact (bind_of_eq_some hwords _).trans (typeAndMember_append owner name ending)

/-- A type is found where its message begins. -/
theorem typeNotLoaded_message (name : TypeName) (assembly : AssemblyName) (details : Unquoted)
    (ending : List Char) :
    front? typeNotLoaded (MissingMember.message ending (.type name assembly details)) =
      some (MissingMember.type name assembly details).request := by
  have hname : span1 (· != '\'') (name.chars ++ ("' from assembly '".toList ++
      (assembly.chars ++ ',' :: (details.chars ++ '\'' :: ending)))) =
      some (name.chars, "' from assembly '".toList ++
        (assembly.chars ++ ',' :: (details.chars ++ '\'' :: ending))) :=
    span1_append name.chars_ne_nil
      (fun c hc => (Bool.and_eq_true_iff.1 (name.isNameChar_of_mem hc)).1) rfl _
  have hassembly : span1 (fun c => c != '\'' && c != ',')
      (assembly.chars ++ ',' :: (details.chars ++ '\'' :: ending)) =
      some (assembly.chars, ',' :: (details.chars ++ '\'' :: ending)) := by
    refine span1_append assembly.ne_nil (fun c hc => ?_) rfl _
    rw [Bool.and_eq_true, bne_iff_ne, bne_iff_ne]
    exact ⟨ne_of_mem_of_not_mem hc assembly.noQuote, ne_of_mem_of_not_mem hc assembly.noComma⟩
  have hwords := literal_append "Could not load type '" (name.chars ++
    ("' from assembly '".toList ++ (assembly.chars ++ ',' :: (details.chars ++ '\'' :: ending))))
  refine front?_of_eq_some (?_ : _ = some (_, ',' :: (details.chars ++ '\'' :: ending)))
  refine (bind_of_eq_some hwords _).trans ?_
  rw [bind_of_eq_some hname, bind_of_eq_some (literal_append "' from assembly '" _),
    bind_of_eq_some hassembly]
  rfl

/-- The word in front of a member is read, whatever its kind. -/
theorem literal_word (kind : MemberKind) (cs : List Char) :
    (literal "Member" <|> literal "Method" <|> literal "Field") (kind.word.toList ++ cs) =
      some ((), cs) := by
  cases kind with
  | member => exact orElse_of_eq_some (literal_append "Member" cs) _
  | method =>
    have hmember : literal "Member" ("Method".toList ++ cs) = none :=
      literal_eq_none fun h => by simp at h
    exact (orElse_of_eq_none hmember _).trans
      (orElse_of_eq_some (literal_append "Method" cs) _)
  | field =>
    have hmember : literal "Member" ("Field".toList ++ cs) = none :=
      literal_cons_eq_none rfl (by decide)
    have hmethod : literal "Method" ("Field".toList ++ cs) = none :=
      literal_cons_eq_none rfl (by decide)
    exact (orElse_of_eq_none hmember _).trans
      ((orElse_of_eq_none hmethod _).trans (literal_append "Field" cs))

/-- A member of any kind is found where its message begins. -/
theorem memberNotFound_message (kind : MemberKind) (owner : TypeName) (name : Segment)
    (ending : List Char) :
    front? memberNotFound (MissingMember.message ending (.member kind owner name)) =
      some (MissingMember.member kind owner name).request := by
  have hword := literal_word kind (" '".toList ++ (owner.chars ++ '.' ::
    (name.chars ++ '\'' :: (" not found".toList ++ ending))))
  refine front?_of_eq_some (?_ : _ = some (_, ending))
  refine (bind_of_eq_some hword _).trans ?_
  rw [bind_of_eq_some (literal_append " '" _), bind_of_eq_some (typeAndMember_append owner name _),
    bind_of_eq_some (literal_append " not found" ending)]
  rfl

/-! ## Searches -/

/-- **A form of messages**: some words in front of a quote, and at least one more quote. -/
structure IsForm (words : List Char) (form : Scan MemberRequest) : Prop where
  noQuote : '\'' ∉ words := by decide
  blank : ' ' ∈ words := by decide
  parts : ∃ (s : String) (next : Unit → Scan MemberRequest), form = (literal s >>= next) ∧
    s.toList = words ++ ['\''] ∧ ∀ cs, '\'' ∉ cs → front? (next ()) cs = none

/-- Without another quote, no parameters end and so no method is found. -/
theorem isForm_methodNotFound : IsForm "Method not found: ".toList methodNotFound where
  parts := by
    refine ⟨_, _, rfl, rfl, fun cs hcs => front?_of_eq_none ?_⟩
    refine (readsFront_span1 _).bind_eq_none (fun returned cs hcs => ?_) hcs
    refine (readsFront_literal " ").bind_eq_none (fun _ cs hcs => ?_) hcs
    have hparts : (liftM (methodOfType [] cs) : Scan (List Char × List Char × List Char)) [] =
        none := by
      rw [methodOfType_unquoted [] hcs]
      rfl
    have hrest : rest cs = some (cs, []) := rfl
    rw [bind_of_eq_some hrest]
    exact bind_of_eq_none hparts _

theorem isForm_fieldNotFound : IsForm "Field not found: ".toList fieldNotFound where
  parts := by
    refine ⟨_, _, rfl, rfl, fun cs hcs => front?_of_eq_none ?_⟩
    refine (readsFront_span1 _).bind_eq_none (fun name cs hcs => ?_) hcs
    exact bind_of_eq_none (literal_unquoted (by decide) hcs) _

theorem isForm_typeNotLoaded : IsForm "Could not load type ".toList typeNotLoaded where
  parts := by
    refine ⟨_, _, rfl, rfl, fun cs hcs => front?_of_eq_none ?_⟩
    refine (readsFront_span1 _).bind_eq_none (fun name cs hcs => ?_) hcs
    exact bind_of_eq_none (literal_unquoted (by decide) hcs) _

namespace IsForm

variable {words before name : List Char} {form : Scan MemberRequest} (h : IsForm words form)

include h

/-- A form is not found at a quote behind other words. -/
theorem first?_quote (hbefore : '\'' ∉ before) (hwords : ¬ words <:+ before) (cs : List Char) :
    first? form (before ++ '\'' :: cs) = first? form cs := by
  obtain ⟨s, next, rfl, hs, -⟩ := h.parts
  exact Scan.first?_quote hs h.noQuote hbefore fun hsuffix => absurd hsuffix hwords

/-- A form is not found at the last quote. -/
theorem first?_lastQuote (hbefore : '\'' ∉ before) (hcs : '\'' ∉ cs) :
    first? form (before ++ '\'' :: cs) = none := by
  obtain ⟨s, next, rfl, hs, hnext⟩ := h.parts
  rw [Scan.first?_quote hs h.noQuote hbefore fun _ => hnext cs hcs]
  exact Scan.first?_unquoted (by simp [hs]) hcs

theorem first?_unquoted (hcs : '\'' ∉ cs) : first? form cs = none := by
  obtain ⟨s, next, rfl, hs, -⟩ := h.parts
  exact Scan.first?_unquoted (by simp [hs]) hcs

/-- **A form is not found at a quoted name** that stands behind other words. -/
theorem first?_quotedName (hbefore : '\'' ∉ before) (hwords : ¬ words <:+ before)
    (hname : ∀ c ∈ name, isNameChar c = true) (cs : List Char) :
    first? form (before ++ '\'' :: (name ++ '\'' :: cs)) = first? form cs := by
  have hunquoted : '\'' ∉ name := fun hc => absurd (hname _ hc) (by decide)
  have hother : ¬ words <:+ name := fun hsuffix =>
    absurd (hname _ (hsuffix.subset h.blank)) (by decide)
  rw [h.first?_quote hbefore hwords, h.first?_quote hunquoted hother]

end IsForm

end MemberRequest

open MemberRequest

namespace MissingMember

/-! ## Reading back -/

section

variable {words : List Char} {form : Scan MemberRequest}

theorem first?_field_eq_none (h : IsForm words form)
    (hwords : ¬ words <:+ "Field not found: ".toList) (owner : TypeName) (name : Segment)
    (ending : Unquoted) :
    first? form (message ending.chars (.field owner name)) = none := by
  have hquotes : message ending.chars (.field owner name) = "Field not found: ".toList ++
      '\'' :: ((owner.chars ++ '.' :: name.chars) ++ '\'' :: ending.chars) := by
    rw [List.append_assoc]
    rfl
  rw [hquotes, h.first?_quotedName (by decide) hwords (owner.isNameChar_of_mem_member name)]
  exact h.first?_unquoted ending.noQuote

theorem first?_type_eq_none (h : IsForm words form)
    (hwords : ¬ words <:+ "Could not load type ".toList)
    (hother : ¬ words <:+ " from assembly ".toList) (name : TypeName) (assembly : AssemblyName)
    (details ending : Unquoted) :
    first? form (message ending.chars (.type name assembly details)) = none := by
  have hquotes : message ending.chars (.type name assembly details) =
      "Could not load type ".toList ++ '\'' :: (name.chars ++ '\'' :: (" from assembly ".toList ++
        '\'' :: ((assembly.chars ++ ',' :: details.chars) ++ '\'' :: ending.chars))) := by
    rw [List.append_assoc assembly.chars]
    rfl
  have hunquoted : '\'' ∉ assembly.chars ++ ',' :: details.chars := by
    simp [assembly.noQuote, details.noQuote]
  -- the name of an assembly and its details can end in the words of a form, but no quoted text
  -- follows them
  rw [hquotes, h.first?_quotedName (by decide) hwords fun c hc => name.isNameChar_of_mem hc,
    h.first?_quote (by decide) hother]
  exact h.first?_lastQuote hunquoted ending.noQuote

theorem first?_member_eq_none (h : IsForm words form)
    (hwords : ∀ kind : MemberKind, ¬ words <:+ kind.word.toList ++ [' '])
    (kind : MemberKind) (owner : TypeName) (name : Segment) (ending : Unquoted) :
    first? form (message ending.chars (.member kind owner name)) = none := by
  have hquotes : message ending.chars (.member kind owner name) = (kind.word.toList ++ [' ']) ++
      '\'' :: ((owner.chars ++ '.' :: name.chars) ++
        '\'' :: (" not found".toList ++ ending.chars)) := by
    rw [List.append_assoc, List.append_assoc]
    rfl
  have hbefore : '\'' ∉ kind.word.toList ++ [' '] := by cases kind <;> decide
  have hbehind : '\'' ∉ " not found".toList ++ ending.chars := by simp [ending.noQuote]
  rw [hquotes, h.first?_quotedName hbefore (hwords kind)
    (owner.isNameChar_of_mem_member name)]
  exact h.first?_unquoted hbehind

end

/-- **A message is about what it was written for**, whatever follows its last quote. -/
theorem parse?_message (m : MissingMember) (ending : Unquoted) :
    MemberRequest.parse? (.ofList (m.message ending.chars)) = some m.request := by
  unfold MemberRequest.parse?
  rw [String.toList_ofList]
  cases m with
  | method returned owner name parameters =>
    have hfound := methodNotFound_message returned owner name parameters ending.chars
    rw [List.findSome?_cons, first?_of_front? hfound]
  | field owner name =>
    have hmethod := first?_field_eq_none isForm_methodNotFound (by decide) owner name ending
    have hfound := fieldNotFound_message owner name ending.chars
    rw [List.findSome?_cons, hmethod, List.findSome?_cons, first?_of_front? hfound]
  | type name assembly details =>
    have hmethod := first?_type_eq_none isForm_methodNotFound (by decide) (by decide) name assembly
      details ending
    have hfield := first?_type_eq_none isForm_fieldNotFound (by decide) (by decide) name assembly
      details ending
    have hfound := typeNotLoaded_message name assembly details ending.chars
    rw [List.findSome?_cons, hmethod, List.findSome?_cons, hfield, List.findSome?_cons,
      first?_of_front? hfound]
  | member kind owner name =>
    have hmethod := first?_member_eq_none isForm_methodNotFound
      (fun kind => by cases kind <;> decide) kind owner name ending
    have hfield := first?_member_eq_none isForm_fieldNotFound
      (fun kind => by cases kind <;> decide) kind owner name ending
    have htype := first?_member_eq_none isForm_typeNotLoaded
      (fun kind => by cases kind <;> decide) kind owner name ending
    have hfound := memberNotFound_message kind owner name ending.chars
    rw [List.findSome?_cons, hmethod, List.findSome?_cons, hfield, List.findSome?_cons, htype,
      List.findSome?_cons, first?_of_front? hfound]

/-- The dot of a constructor belongs to its name, and what follows the name of an assembly does
not. -/
theorem parse?_message_constructor :
    MemberRequest.parse? "Method not found: 'Void App.List`1..ctor(Int32)'." =
        some { typeName := "App.List`1"
               memberName := some ".ctor"
               signature := some "Void .ctor(Int32)" } ∧
      MemberRequest.parse? "Could not load type 'App.List`1' from assembly 'App, Version=2.0'." =
        some { typeName := "App.List`1", assembly := some "App" } := by
  let owner : TypeName := { first := { chars := "App".toList }
                            others := [{ chars := "List`1".toList }] }
  let ending : Unquoted := { chars := ['.'] }
  let constructor : MissingMember := .method { chars := "Void".toList } owner .constructor
    { chars := "Int32".toList }
  let load : MissingMember := .type owner { chars := "App".toList }
    { chars := " Version=2.0".toList }
  have hconstructor := parse?_message constructor ending
  have hload := parse?_message load ending
  have htexts : String.ofList (constructor.message ending.chars) =
        "Method not found: 'Void App.List`1..ctor(Int32)'." ∧
      String.ofList (load.message ending.chars) =
        "Could not load type 'App.List`1' from assembly 'App, Version=2.0'." := by decide +kernel
  rw [htexts.1] at hconstructor
  rw [htexts.2] at hload
  exact ⟨hconstructor, hload⟩

end MissingMember

end Postmortem
