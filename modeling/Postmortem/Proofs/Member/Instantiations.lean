import Mathlib.Data.List.Basic
import Mathlib.Tactic
import Postmortem.Member.GenericName
import Postmortem.Proofs.Text.Numerals
import Postmortem.Proofs.Text.PrintedLines
import Postmortem.Proofs.Text.Words

/-!
# Names of instantiated generic types

The runtime writes the arguments of a generic type in square brackets behind its arity, each with
its assembly and in brackets of its own; a compiler writes them in angle brackets. An argument is a
type again: a name, an array, or an instantiated generic type.

In both spellings, what is written between two commas is balanced: the count of open brackets is the
same in front of it and behind it, and no comma in it stands outside of brackets. So a list of
arguments is split exactly where it was joined (`splitTopLevel_intercalate`), whatever the arguments
nest.

* `TypeExpr.isPart_text`: the text of a type is balanced.
* `GenericName.parse?_instantiation`: **a generic type has the base, the arity and the arguments
  that it was written with**, in either spelling.
-/

namespace Postmortem

open Text

/-! ## Types -/

/-- Whether a character opens or closes a list of arguments, or the rank of an array. -/
def isBracket (c : Char) : Bool := c == '[' || c == ']' || c == '<' || c == '>'

/-- The name of a type, or of a generic definition without its arity. -/
structure PlainName where
  chars : List Char
  ne_nil : chars ≠ [] := by decide
  trimmed : trim chars = chars := by decide
  noBracket : chars.any isBracket = false := by decide
  noComma : ',' ∉ chars := by decide
  noBacktick : Address.backtick ∉ chars := by decide

/-- The full name of an assembly, which can have commas. -/
structure AssemblyText where
  chars : List Char
  noBracket : chars.any isBracket = false := by decide

/-- A type. Each argument of a generic type has an assembly. -/
inductive TypeExpr where
  | named (name : PlainName)
  | array (element : TypeExpr) (commas : ℕ)
  | generic (definition : PlainName) (arguments : List (TypeExpr × AssemblyText))

/-- How generic types are spelled. -/
inductive Spelling where
  | angle
  | square

namespace Spelling

def opening : Spelling → Char
  | angle => '<'
  | square => '['

def closing : Spelling → Char
  | angle => '>'
  | square => ']'

/-- What stands between two arguments. -/
def separator : Spelling → List Char
  | angle => [',', ' ']
  | square => [',']

/-- An argument, with its assembly in square brackets. -/
def argument (type assembly : List Char) : Spelling → List Char
  | angle => type
  | square => '[' :: (type ++ ',' :: ' ' :: assembly ++ [']'])

/-- The arity stands in front of square brackets. -/
def arity (n : ℕ) : Spelling → List Char
  | angle => []
  | square => Address.backtick :: Nat.toDigits 10 n

variable (s : Spelling)

/-- Arguments in brackets. -/
def enclosed (arguments : List (List Char)) : List Char :=
  s.opening :: (s.separator.intercalate arguments ++ [s.closing])

/-- A generic type with its arguments. -/
def instantiation (base : List Char) (arguments : List (List Char)) : List Char :=
  base ++ (s.arity arguments.length ++ s.enclosed arguments)

end Spelling

namespace TypeExpr

variable (s : Spelling)

mutual

/-- The text of a type. -/
def text : TypeExpr → List Char
  | named name => name.chars
  | array element commas => text element ++ '[' :: (List.replicate commas ',' ++ [']'])
  | generic definition arguments => s.instantiation definition.chars (argumentTexts arguments)

/-- The texts of the arguments of a generic type. -/
def argumentTexts : List (TypeExpr × AssemblyText) → List (List Char)
  | [] => []
  | (type, assembly) :: arguments =>
    s.argument (text type) assembly.chars :: argumentTexts arguments

end

end TypeExpr

/-! ## Balanced texts -/

/-- The characters are read as a whole at a depth of brackets: they end no part, and the same
brackets are open behind them. -/
def ReadsOver (depth : ℕ) (cs : List Char) : Prop :=
  ∀ part rest, splitTopLevel.go depth part (cs ++ rest) =
    splitTopLevel.go depth (cs.reverse ++ part) rest

section Balanced

variable {depth : ℕ} {c o : Char} {cs w : List Char}

theorem ReadsOver.append (hw : ReadsOver depth w) (hcs : ReadsOver depth cs) :
    ReadsOver depth (w ++ cs) := by
  intro part rest
  rw [List.append_assoc, hw part (cs ++ rest), hcs, List.reverse_append, List.append_assoc]

/-- Between brackets, a comma is like any other character. -/
theorem readsOver_singleton (hc : isBracket c = false) (hcomma : c = ',' → depth ≠ 0) :
    ReadsOver depth [c] := by
  intro part rest
  simp only [isBracket, Bool.or_eq_false_iff] at hc
  obtain ⟨⟨⟨h1, h2⟩, h3⟩, h4⟩ := hc
  have hsplit : (c == ',' && depth == 0) = false := by
    rw [Bool.and_eq_false_imp]
    intro hc
    exact beq_eq_false_iff_ne.2 (hcomma (eq_of_beq hc))
  have hopens : (c == '[' || c == '<') = false := by rw [h1, h3]; rfl
  have hcloses : (c == ']' || c == '>') = false := by rw [h2, h4]; rfl
  rw [List.singleton_append, splitTopLevel.go, hsplit, hopens, hcloses]
  rfl

theorem readsOver_of_forall (h : ∀ c ∈ cs, isBracket c = false)
    (hcomma : ',' ∈ cs → depth ≠ 0) : ReadsOver depth cs := by
  induction cs with
  | nil => exact fun _ _ => rfl
  | cons c cs ih =>
    obtain ⟨hc, hcs⟩ := List.forall_mem_cons.1 h
    have hfirst : ReadsOver depth [c] :=
      readsOver_singleton hc fun hc => hcomma (hc ▸ List.mem_cons_self)
    exact hfirst.append (ih hcs fun h => hcomma (List.mem_cons_of_mem c h))

/-- What stands between brackets is read one level deeper. -/
theorem ReadsOver.enclosed (ho : o = '[' ∨ o = '<') (hc : c = ']' ∨ c = '>')
    (h : ReadsOver (depth + 1) cs) : ReadsOver depth (o :: (cs ++ [c])) := by
  intro part rest
  have hopen : splitTopLevel.go depth part (o :: (cs ++ c :: rest)) =
      splitTopLevel.go (depth + 1) (o :: part) (cs ++ c :: rest) := by
    rcases ho with rfl | rfl <;> rfl
  have hclose : splitTopLevel.go (depth + 1) (cs.reverse ++ o :: part) (c :: rest) =
      splitTopLevel.go depth (c :: (cs.reverse ++ o :: part)) rest := by
    rcases hc with rfl | rfl <;> rfl
  have hwhole : o :: (cs ++ [c]) ++ rest = o :: (cs ++ c :: rest) := by simp
  have hpart : (o :: (cs ++ [c])).reverse ++ part = c :: (cs.reverse ++ o :: part) := by simp
  rw [hwhole, hopen, h, hclose, hpart]

/-- A part of a list: read as a whole at any depth, and neither empty nor with blanks around it. -/
structure IsPart (cs : List Char) : Prop where
  ne_nil : cs ≠ []
  trimmed : trim cs = cs
  reads : ∀ depth, ReadsOver depth cs

/-- What holds of the parts and of what stands between them holds of a list. -/
theorem forall_intercalate {p : List Char → Prop} (nil : p [])
    (append : ∀ w cs, p w → p cs → p (w ++ cs)) {separator : List Char} (hseparator : p separator)
    {parts : List (List Char)} (h : ∀ part ∈ parts, p part) :
    p (separator.intercalate parts) := by
  induction parts with
  | nil => exact nil
  | cons part parts ih =>
    obtain ⟨hpart, hparts⟩ := List.forall_mem_cons.1 h
    cases parts with
    | nil =>
      rw [List.intercalate_singleton]
      exact hpart
    | cons next parts =>
      rw [List.intercalate_cons_cons]
      exact append _ _ (append _ _ hpart hseparator) (ih hparts)

/-! ## Splitting lists -/

/-- A balanced text without such commas has one part, unless it is blank. -/
theorem splitTopLevel_of_readsOver (h : ReadsOver 0 cs) :
    splitTopLevel cs = [trim cs].filter fun part => !part.isEmpty := by
  have hgo : splitTopLevel.go 0 [] cs = [cs] := by
    have h := h [] []
    rw [List.append_nil, List.append_nil, splitTopLevel.go, List.reverse_reverse] at h
    exact h
  rw [splitTopLevel, hgo, List.map_singleton]

/-- The first part ends at the first comma outside of brackets. -/
theorem splitTopLevel_append (h : ReadsOver 0 w) (hne : trim w ≠ []) (cs : List Char) :
    splitTopLevel (w ++ ',' :: cs) = trim w :: splitTopLevel cs := by
  have hgo : splitTopLevel.go 0 [] (w ++ ',' :: cs) = w :: splitTopLevel.go 0 [] cs := by
    rw [h [] (',' :: cs), List.append_nil]
    show w.reverse.reverse :: _ = _
    rw [List.reverse_reverse]
  have hkeep : (!(trim w).isEmpty) = true := by simp [hne]
  rw [splitTopLevel, hgo, List.map_cons, List.filter_cons, hkeep]
  rfl

theorem readsOver_replicate (depth n : ℕ) : ReadsOver depth (List.replicate n ' ') := by
  refine readsOver_of_forall (fun c hc => ?_) fun hcomma => ?_
  · rw [List.eq_of_mem_replicate hc]
    decide
  · exact absurd (List.eq_of_mem_replicate hcomma) (by decide)

/-- **A list is split where it was joined**, whatever spaces stand between its parts. -/
theorem splitTopLevel_intercalate (k n : ℕ) {parts : List (List Char)}
    (h : ∀ part ∈ parts, IsPart part) :
    splitTopLevel
      (List.replicate k ' ' ++ (',' :: List.replicate n ' ').intercalate parts) = parts := by
  induction parts generalizing k with
  | nil =>
    have hblank : trim (List.replicate k ' ') = [] := by
      have h := trim_replicate_append k []
      rwa [List.append_nil] at h
    rw [List.intercalate_nil, List.append_nil,
      splitTopLevel_of_readsOver (readsOver_replicate 0 k), hblank]
    rfl
  | cons part parts ih =>
    obtain ⟨hpart, hparts⟩ := List.forall_mem_cons.1 h
    have hreads : ReadsOver 0 (List.replicate k ' ' ++ part) :=
      (readsOver_replicate 0 k).append (hpart.reads 0)
    have htrim : trim (List.replicate k ' ' ++ part) = part := by
      rw [trim_replicate_append, hpart.trimmed]
    have hne : trim (List.replicate k ' ' ++ part) ≠ [] := by
      rw [htrim]
      exact hpart.ne_nil
    cases parts with
    | nil =>
      have hkeep : (!part.isEmpty) = true := by simp [hpart.ne_nil]
      rw [List.intercalate_singleton, splitTopLevel_of_readsOver hreads, htrim,
        List.filter_singleton, hkeep]
      rfl
    | cons next parts =>
      -- the first comma outside of brackets is the one in front of the next part
      have hjoin : List.replicate k ' ' ++
          (',' :: List.replicate n ' ').intercalate (part :: next :: parts) =
          (List.replicate k ' ' ++ part) ++ ',' :: (List.replicate n ' ' ++
            (',' :: List.replicate n ' ').intercalate (next :: parts)) := by
        rw [List.intercalate_cons_cons]
        simp only [List.append_assoc, List.cons_append]
      rw [hjoin, splitTopLevel_append hreads hne, htrim, ih n hparts]

end Balanced

/-! ## Texts of types -/

theorem PlainName.readsOver (name : PlainName) (depth : ℕ) : ReadsOver depth name.chars :=
  readsOver_of_forall (forall_eq_false_of_any name.noBracket) fun h => absurd h name.noComma

theorem PlainName.isPart (name : PlainName) : IsPart name.chars :=
  ⟨name.ne_nil, name.trimmed, name.readsOver⟩

namespace Spelling

variable {texts : List (List Char)} (s : Spelling)

/-- In both spellings, some spaces can stand behind a comma. -/
theorem separator_eq : ∃ n, s.separator = ',' :: List.replicate n ' ' := by
  cases s with
  | angle => exact ⟨1, rfl⟩
  | square => exact ⟨0, rfl⟩

/-- Arguments are split where they were joined. -/
theorem splitTopLevel_intercalate (h : ∀ text ∈ texts, IsPart text) :
    splitTopLevel (s.separator.intercalate texts) = texts := by
  obtain ⟨n, hseparator⟩ := s.separator_eq
  rw [hseparator]
  exact Postmortem.splitTopLevel_intercalate 0 n h

theorem readsOver_separator (depth : ℕ) : ReadsOver (depth + 1) s.separator :=
  readsOver_of_forall (forall_eq_false_of_any (by cases s <;> rfl)) fun _ => Nat.succ_ne_zero depth

theorem readsOver_arity (n depth : ℕ) : ReadsOver depth (s.arity n) := by
  cases s with
  | angle => exact fun _ _ => rfl
  | square =>
    have hdigits := isHexDigit_of_mem_toDigits n
    refine readsOver_of_forall (fun c hc => ?_) fun hcomma => ?_
    · rcases List.mem_cons.1 hc with rfl | hc
      · decide
      · exact forall_eq_false_of_run (p := isBracket) hdigits (by decide) c hc
    · rcases List.mem_cons.1 hcomma with h | h
      · exact absurd h (by decide)
      · exact absurd (hdigits _ h) (by decide)

/-- The arguments stand in brackets, so their commas do. -/
theorem readsOver_enclosed (h : ∀ text ∈ texts, IsPart text) (depth : ℕ) :
    ReadsOver depth (s.enclosed texts) := by
  -- one level deeper, the separators do not split either
  have hlist : ReadsOver (depth + 1) (s.separator.intercalate texts) :=
    forall_intercalate (fun _ _ => rfl) (fun _ _ => ReadsOver.append)
      (s.readsOver_separator depth) fun text htext => (h text htext).reads (depth + 1)
  exact hlist.enclosed (by cases s <;> simp [opening]) (by cases s <;> simp [closing])

/-- A generic type is balanced if its arguments are. -/
theorem isPart_instantiation (definition : PlainName) (h : ∀ text ∈ texts, IsPart text) :
    IsPart (s.instantiation definition.chars texts) where
  ne_nil := List.append_ne_nil_of_left_ne_nil definition.ne_nil _
  trimmed := by
    have hclosing : trim [s.closing] = [s.closing] := by cases s <;> decide
    have h := trim_between definition.trimmed definition.ne_nil hclosing (by simp)
      (s.arity texts.length ++ s.opening :: s.separator.intercalate texts)
    rwa [List.append_assoc, List.cons_append] at h
  reads depth := (definition.readsOver depth).append
    ((s.readsOver_arity _ depth).append (s.readsOver_enclosed h depth))

/-- An argument is balanced if its type is. -/
theorem isPart_argument {type : List Char} (h : IsPart type) (assembly : AssemblyText) :
    IsPart (s.argument type assembly.chars) := by
  cases s with
  | angle => exact h
  | square =>
    have hassembly (depth : ℕ) : ReadsOver (depth + 1) (',' :: ' ' :: assembly.chars) := by
      refine readsOver_of_forall (fun c hc => ?_) fun _ => Nat.succ_ne_zero depth
      rcases List.mem_cons.1 hc with rfl | hc
      · decide
      rcases List.mem_cons.1 hc with rfl | hc
      · decide
      · exact forall_eq_false_of_any assembly.noBracket c hc
    have hopening : trim ['['] = ['['] := by decide
    have hclosing : trim [']'] = [']'] := by decide
    refine ⟨List.cons_ne_nil _ _, ?_, fun depth => ?_⟩
    · exact trim_between hopening (by simp) hclosing (by simp)
        (type ++ ',' :: ' ' :: assembly.chars)
    · exact ((h.reads (depth + 1)).append (hassembly depth)).enclosed (.inl rfl) (.inl rfl)

end Spelling

namespace TypeExpr

variable (s : Spelling)

/-- What holds of a generic type if it holds of its arguments holds of every type. -/
@[elab_as_elim]
theorem nestedInduction {motive : TypeExpr → Prop} (named : ∀ name, motive (named name))
    (array : ∀ element commas, motive element → motive (array element commas))
    (generic : ∀ definition arguments, (∀ argument ∈ arguments, motive argument.1) →
      motive (generic definition arguments)) (type : TypeExpr) : motive type :=
  match type with
  | .named name => named name
  | .array element commas => array element commas (nestedInduction named array generic element)
  | .generic definition arguments => generic definition arguments fun argument _ =>
      nestedInduction named array generic argument.1
termination_by type
decreasing_by
  · simp
    omega
  · have hargument : sizeOf argument.1 < sizeOf argument := by
      cases argument
      simp
      omega
    have := List.sizeOf_lt_of_mem ‹argument ∈ arguments›
    simp
    omega

theorem argumentTexts_eq_map (arguments : List (TypeExpr × AssemblyText)) :
    argumentTexts s arguments = arguments.map fun argument =>
      s.argument (argument.1.text s) argument.2.chars := by
  induction arguments with
  | nil => rw [argumentTexts, List.map_nil]
  | cons argument arguments ih => rw [argumentTexts, List.map_cons, ih]

/-- **The text of a type is balanced.** -/
theorem isPart_text (type : TypeExpr) : IsPart (type.text s) := by
  induction type using nestedInduction with
  | named name =>
    rw [text]
    exact name.isPart
  | array element commas ih =>
    have hcommas (depth : ℕ) : ReadsOver (depth + 1) (List.replicate commas ',') := by
      refine readsOver_of_forall (fun c hc => ?_) fun _ => Nat.succ_ne_zero depth
      rw [List.eq_of_mem_replicate hc]
      decide
    have hclosing : trim [']'] = [']'] := by decide
    rw [text]
    refine ⟨List.append_ne_nil_of_left_ne_nil ih.ne_nil _, ?_, fun depth => ?_⟩
    · exact trim_between ih.trimmed ih.ne_nil hclosing (by simp)
        ('[' :: List.replicate commas ',')
    · exact (ih.reads depth).append ((hcommas depth).enclosed (.inl rfl) (.inl rfl))
  | generic definition arguments ih =>
    rw [text, argumentTexts_eq_map]
    refine s.isPart_instantiation definition fun text htext => ?_
    obtain ⟨argument, hargument, rfl⟩ := List.mem_map.1 htext
    exact s.isPart_argument (ih argument hargument) argument.2

theorem isPart_of_mem_argumentTexts (arguments : List (TypeExpr × AssemblyText)) :
    ∀ text ∈ argumentTexts s arguments, IsPart text := by
  intro text htext
  rw [argumentTexts_eq_map] at htext
  obtain ⟨argument, -, rfl⟩ := List.mem_map.1 htext
  exact s.isPart_argument (isPart_text s argument.1) argument.2

/-- A type begins with a name. -/
theorem exists_text_eq (type : TypeExpr) :
    ∃ (name : PlainName) (rest : List Char), type.text s = name.chars ++ rest := by
  induction type using nestedInduction with
  | named name => exact ⟨name, [], by rw [text, List.append_nil]⟩
  | array element commas ih =>
    obtain ⟨name, rest, h⟩ := ih
    exact ⟨name, rest ++ '[' :: (List.replicate commas ',' ++ [']']), by
      rw [text, h, List.append_assoc]⟩
  | generic definition arguments ih => exact ⟨definition, _, by rw [text]; rfl⟩

end TypeExpr

/-! ## Reading back -/

/-- What stands in front of the arity or the arguments: a name, which begins with no blank. -/
structure BaseName where
  chars : List Char
  noLeadingBlank : trimStart chars = chars := by decide
  noBacktick : Address.backtick ∉ chars := by decide
  noAngle : '<' ∉ chars := by decide

theorem enclosed?_append (opening closing : Char) (cs : List Char) :
    enclosed? opening closing (opening :: (cs ++ [closing])) = some cs := by
  have hends : (opening == opening && (cs ++ [closing]).getLast? == some closing) = true := by
    rw [List.getLast?_concat]
    simp
  rw [enclosed?, hends, if_pos rfl, List.dropLast_concat]

/-- The brackets in front of an argument end at the name that its type begins with. -/
theorem TypeExpr.dropWhile_text (s : Spelling) (type : TypeExpr) (cs : List Char) :
    (type.text s ++ cs).dropWhile (· == '[') = type.text s ++ cs := by
  obtain ⟨name, rest, htext⟩ := type.exists_text_eq s
  obtain ⟨c, w, hw⟩ := List.exists_cons_of_ne_nil name.ne_nil
  have hc : isBracket c = false :=
    forall_eq_false_of_any name.noBracket c (hw ▸ List.mem_cons_self)
  have hstop : ¬ (c == '[') = true := by
    intro h
    rw [eq_of_beq h] at hc
    cases hc
  rw [htext, hw, List.cons_append, List.cons_append]
  exact List.dropWhile_cons_of_neg hstop

/-- Only one bracket is removed behind an assembly. -/
theorem AssemblyText.dropEndWhile_append (assembly : AssemblyText) (cs : List Char) :
    dropEndWhile (· == ']') (cs ++ ',' :: ' ' :: assembly.chars ++ [']']) =
      cs ++ ',' :: ' ' :: assembly.chars := by
  have hne : cs ++ ',' :: ' ' :: assembly.chars ≠ [] := by simp
  have hlast : ((cs ++ ',' :: ' ' :: assembly.chars).getLast hne == ']') = false := by
    rw [beq_eq_false_iff_ne, List.getLast_append_of_ne_nil _ (List.cons_ne_nil _ _),
      List.getLast_cons (List.cons_ne_nil _ _)]
    intro h
    rcases List.mem_cons.1 (h ▸ List.getLast_mem _) with hmem | hmem
    · exact absurd hmem (by decide)
    · exact absurd (forall_eq_false_of_any assembly.noBracket _ hmem) (by decide)
  exact (Text.dropEndWhile_append hne hlast [']']).trans (List.append_nil _)

/-- The brackets and the assembly of an argument are removed. -/
theorem bareArgument_argument (type : TypeExpr) (assembly : AssemblyText) :
    bareArgument (Spelling.square.argument (type.text .square) assembly.chars) =
      type.text .square := by
  have htype := type.isPart_text .square
  have hne : trim (type.text .square) ≠ [] := by
    rw [htype.trimmed]
    exact htype.ne_nil
  have hfront : (Spelling.square.argument (type.text .square) assembly.chars).dropWhile
      (· == '[') = type.text .square ++ ',' :: ' ' :: assembly.chars ++ [']'] := by
    have h := type.dropWhile_text .square (',' :: ' ' :: assembly.chars ++ [']'])
    rwa [← List.append_assoc] at h
  have hback := assembly.dropEndWhile_append (type.text .square)
  have hsplit := splitTopLevel_append (htype.reads 0) hne (' ' :: assembly.chars)
  have hhead : bareArgument (Spelling.square.argument (type.text .square) assembly.chars) =
      (splitTopLevel (type.text .square ++ ',' :: ' ' :: assembly.chars)).headD
        (type.text .square ++ ',' :: ' ' :: assembly.chars) := by
    unfold bareArgument
    rw [hfront, hback]
  rw [hhead, hsplit, htype.trimmed, List.headD_cons]

theorem Spelling.noBacktick_instantiation {base : List Char} {texts : List (List Char)}
    (hbase : Address.backtick ∉ base) (h : ∀ text ∈ texts, Address.backtick ∉ text) :
    Address.backtick ∉ Spelling.angle.instantiation base texts := by
  have hlist : Address.backtick ∉ Spelling.angle.separator.intercalate texts := by
    refine forall_intercalate (p := (Address.backtick ∉ ·)) (List.not_mem_nil) ?_ (by decide) h
    intro w cs hw hcs
    simp [hw, hcs]
  have hopening : Address.backtick ≠ Spelling.angle.opening := by decide
  have hclosing : Address.backtick ∉ [Spelling.angle.closing] := by decide
  simp [Spelling.instantiation, Spelling.enclosed, Spelling.arity, hbase, hlist, hopening, hclosing]

/-- Nothing in angle brackets has an arity. -/
theorem TypeExpr.noBacktick_text (type : TypeExpr) : Address.backtick ∉ type.text .angle := by
  induction type using TypeExpr.nestedInduction with
  | named name =>
    rw [text]
    exact name.noBacktick
  | array element commas ih =>
    rw [text, List.mem_append, not_or]
    refine ⟨ih, ?_⟩
    simp [List.mem_replicate, Address.backtick]
  | generic definition arguments ih =>
    rw [text, argumentTexts_eq_map]
    exact Spelling.noBacktick_instantiation definition.noBacktick fun text htext => by
      obtain ⟨argument, hargument, rfl⟩ := List.mem_map.1 htext
      exact ih argument hargument

namespace GenericName

variable (base : BaseName) {texts : List (List Char)}

theorem trim_instantiation (s : Spelling) (texts : List (List Char)) :
    trim (s.instantiation base.chars texts) = s.instantiation base.chars texts := by
  have hclosing : trim [s.closing] = [s.closing] := by cases s <;> decide
  refine trim_append_of_trimStart base.noLeadingBlank ?_ (by simp [Spelling.enclosed])
  cases s with
  | angle =>
    have hopening : trim ['<'] = ['<'] := by decide
    exact trim_between hopening (by simp) hclosing (by simp) _
  | square =>
    have hbacktick : trim [Address.backtick] = [Address.backtick] := by decide
    have h := trim_between hbacktick (by simp) hclosing (by simp)
      (Nat.toDigits 10 texts.length ++ '[' :: Spelling.square.separator.intercalate texts)
    rwa [List.append_assoc, List.cons_append] at h

/-- In square brackets, each argument is freed from its own brackets. -/
theorem parse?_square (h : ∀ text ∈ texts, IsPart text) (hfits : texts.length < 2 ^ 64) :
    parse? (.ofList (Spelling.square.instantiation base.chars texts)) =
      some { base := .ofList base.chars
             arity := texts.length
             arguments := texts.map fun text => .ofList (bareArgument text) } := by
  have hcut : cutAt? [Address.backtick] (Spelling.square.instantiation base.chars texts) =
      some (base.chars, Nat.toDigits 10 texts.length ++ Spelling.square.enclosed texts) :=
    cutAt?_append base.noBacktick _
  have hspan : (Nat.toDigits 10 texts.length ++ Spelling.square.enclosed texts).span Char.isDigit =
      (Nat.toDigits 10 texts.length, Spelling.square.enclosed texts) := by
    have hdigits : ∀ c ∈ Nat.toDigits 10 texts.length, c.isDigit = true :=
      fun c hc => isDigit_of_mem_toDigits hc
    have hbracket : ∀ c ∈ (Spelling.square.enclosed texts).head?, c.isDigit = false := by
      intro c hc
      rw [← Option.some.inj hc]
      rfl
    obtain ⟨htake, hdrop⟩ := takeWhile_append_run hdigits hbracket
    rw [List.span_eq_takeWhile_dropWhile, htake, hdrop]
  have htrim : trim (Spelling.square.enclosed texts) = Spelling.square.enclosed texts := by
    have hopening : trim ['['] = ['['] := by decide
    have hclosing : trim [']'] = [']'] := by decide
    exact trim_between hopening (by simp) hclosing (by simp) _
  have hinner : enclosed? '[' ']' (Spelling.square.enclosed texts) =
      some (Spelling.square.separator.intercalate texts) := enclosed?_append _ _ _
  unfold parse?
  rw [String.toList_ofList, trim_instantiation]
  simp only [hcut, hspan, readUnsigned?_toDigits hfits, htrim, hinner,
    Spelling.square.splitTopLevel_intercalate h]
  rfl

/-- In angle brackets, the arguments are counted. -/
theorem parse?_angle (h : ∀ text ∈ texts, IsPart text)
    (hbacktick : ∀ text ∈ texts, Address.backtick ∉ text) :
    parse? (.ofList (Spelling.angle.instantiation base.chars texts)) =
      some { base := .ofList base.chars
             arity := texts.length
             arguments := texts.map .ofList } := by
  have harity : cutAt? [Address.backtick] (Spelling.angle.instantiation base.chars texts) = none :=
    cutAt?_eq_none (Spelling.noBacktick_instantiation base.noBacktick hbacktick)
  have hcut : cutAt? ['<'] (Spelling.angle.instantiation base.chars texts) =
      some (base.chars, Spelling.angle.separator.intercalate texts ++ ['>']) :=
    cutAt?_append base.noAngle _
  have hinner : enclosed? '<' '>' ('<' :: (Spelling.angle.separator.intercalate texts ++ ['>'])) =
      some (Spelling.angle.separator.intercalate texts) := enclosed?_append _ _ _
  unfold parse?
  rw [String.toList_ofList, trim_instantiation]
  simp only [harity, hcut, hinner, Spelling.angle.splitTopLevel_intercalate h, bind, Option.bind]
  rw [List.length_map]
  rfl

/-- **A generic type has the base, the arity and the arguments that it was written with**, in either
spelling. -/
theorem parse?_instantiation (s : Spelling) (base : BaseName)
    (arguments : List (TypeExpr × AssemblyText)) (hfits : arguments.length < 2 ^ 64) :
    parse? (.ofList (s.instantiation base.chars (TypeExpr.argumentTexts s arguments))) =
      some { base := .ofList base.chars
             arity := arguments.length
             arguments := arguments.map fun argument => .ofList (argument.1.text s) } := by
  have hparts := TypeExpr.isPart_of_mem_argumentTexts s arguments
  rw [TypeExpr.argumentTexts_eq_map] at hparts ⊢
  cases s with
  | angle =>
    rw [parse?_angle base hparts fun text htext => ?_, List.length_map, List.map_map]
    · rfl
    · obtain ⟨argument, -, rfl⟩ := List.mem_map.1 htext
      exact argument.1.noBacktick_text
  | square =>
    have hbare : (fun text => String.ofList (bareArgument text)) ∘
        (fun argument : TypeExpr × AssemblyText =>
          Spelling.square.argument (argument.1.text .square) argument.2.chars) =
        fun argument => .ofList (argument.1.text .square) :=
      funext fun argument => congrArg String.ofList (bareArgument_argument argument.1 argument.2)
    rw [parse?_square base hparts (by rwa [List.length_map]), List.length_map, List.map_map, hbare]

/-- The arguments of a table: a type of keys and lists of rows. -/
def tableArguments : List (TypeExpr × AssemblyText) :=
  [(.array (.named { chars := "Key".toList }) 1, { chars := "app".toList }),
   (.generic { chars := "List".toList }
      [(.array (.array (.named { chars := "Row".toList }) 0) 2, { chars := "app".toList })],
    { chars := "lib, v4".toList })]

/-- The commas of ranks, of assemblies and of inner lists split nothing. -/
theorem parse?_instantiation_table :
    tableArguments.length < 2 ^ 64 ∧
    parse? "Table`2[[Key[,], app],[List`1[[Row[][,,], app]], lib, v4]]" =
      some { base := "Table", arity := 2, arguments := ["Key[,]", "List`1[[Row[][,,], app]]"] } ∧
    parse? "Table<Key[,], List<Row[][,,]>>" =
      some { base := "Table", arity := 2, arguments := ["Key[,]", "List<Row[][,,]>"] } :=
  ⟨by decide, parse?_instantiation .square { chars := "Table".toList } tableArguments (by decide),
    parse?_instantiation .angle { chars := "Table".toList } tableArguments (by decide)⟩

end GenericName

end Postmortem
