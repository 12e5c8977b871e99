import Postmortem.Proofs.Address.Reading
import Postmortem.Proofs.Thread.HexText

/-!
# Spellings of one address

Debuggers print an address with or without a prefix, in either case, padded with zeros and split by
backticks. They put it into brackets, add an offset, and if it has a prefix, write the type of the
object in front of it in parentheses or behind it in angle brackets. A `Spelling` is any
combination of these.

None of what is added reaches the digits: the number and its offset are one token
(`tokens_chars`), and the words of a type name in front of it are passed over because they have no
prefix. Those behind it come too late to matter.

* `read?_chars`: a spelling is read as its number, unless that takes more than 64 bits.
* `spellings_read`: **all spellings of a number are read as that number and have one key, and no
  number is read as another.**
-/

namespace Postmortem.Address

open Text

/-- A type name beside an address, and the blank between the two. -/
structure TypeNote where
  name : List Char
  gap : Char
  isBlank_gap : isBlank gap = true

/-- One of the ways in which a number is printed as an address. -/
structure Spelling where
  number : HexText
  /-- The digits as they are shown: backticks may split them. -/
  shown : List Char
  joined : joinHalves shown = number.digits
  /-- What stands behind a plus sign. -/
  offset : Option (List Char) := none
  noBlank : (offset.getD []).any isBlank = false := by decide
  /-- A type name in parentheses, in front of the address. -/
  typeBefore : Option TypeNote := none
  /-- A type name in angle brackets, behind the address. -/
  typeAfter : Option TypeNote := none
  /-- Types are named only beside a number with a prefix. -/
  prefixed : typeBefore.isSome ∨ typeAfter.isSome → number.lead ≠ .bare := by decide
  /-- No word of the type name in front of the address starts with a prefix. -/
  noPrefix : typeBefore.all (fun note => !(tokens note.name).any hasPrefix) = true := by decide
  /-- Around everything. -/
  front : List Char := []
  behind : List Char := []
  /-- Around the number and its offset. -/
  opening : List Char := []
  closing : List Char := []
  margins : (front ++ behind ++ opening ++ closing).all (fun c => isBlank c || isBracket c) = true :=
    by decide

namespace Spelling

variable (s : Spelling)

/-- The number that is printed. -/
def value : ℕ := s.number.value

/-- The prefix and the digits, as they are shown. -/
def stem : List Char := s.number.lead.chars ++ s.shown

/-- The offset with its sign. -/
def offsetChars : List Char :=
  match s.offset with
  | some cs => '+' :: cs
  | none => []

/-- The number with what stands directly around it. -/
def core : List Char := s.opening ++ (s.stem ++ s.offsetChars ++ s.closing)

/-- The number with a type name behind it. -/
def typed : List Char :=
  match s.typeAfter with
  | some note => s.core ++ note.gap :: ('<' :: note.name ++ ['>'])
  | none => s.core

/-- The characters of a spelling. -/
def chars : List Char :=
  s.front ++ ((match s.typeBefore with
    | some note => ['('] ++ (note.name ++ [')']) ++ note.gap :: s.typed
    | none => s.typed) ++ s.behind)

/-- The text of a spelling. -/
def text : String := .ofList s.chars

variable {s} {p : Char → Bool} {c : Char} {cs : List Char}

/-! ## The number as a token -/

theorem isMargin_of_mem (h : c ∈ s.front ++ s.behind ++ s.opening ++ s.closing) :
    isMargin c = true := by
  unfold isMargin isDecoration
  rcases Bool.or_eq_true_iff.1 (List.all_eq_true.1 s.margins c h) with hblank | hbracket
  · rw [hblank, Bool.true_or]
  · rw [hbracket, Bool.true_or, Bool.or_true]

theorem joinHalves_append (cs rest : List Char) :
    joinHalves (cs ++ rest) = joinHalves cs ++ joinHalves rest := List.filter_append ..

/-- **Without backticks, the prefix and the digits are those of the number.** -/
theorem joinHalves_stem : joinHalves s.stem = s.number.chars := by
  have hlead : ∀ lead : HexPrefix, joinHalves lead.chars = lead.chars := by
    intro lead
    cases lead <;> decide
  unfold stem
  rw [joinHalves_append, hlead, s.joined]
  rfl

theorem stem_subset : s.stem ⊆ backtick :: 'x' :: 'X' :: hexAlphabet := by
  intro c hc
  rcases eq_or_ne c backtick with rfl | hne
  · exact List.mem_cons_self
  · have hchars : c ∈ s.number.chars := by
      rw [← joinHalves_stem]
      exact List.mem_filter.2 ⟨hc, by simpa using hne⟩
    by_contra hout
    have hfalse := HexText.eq_false_of_mem_chars
      (p := fun c => !('x' :: 'X' :: hexAlphabet).contains c) (by decide) hchars
    rw [Bool.not_eq_false', List.contains_iff_mem] at hfalse
    exact hout (List.mem_cons_of_mem _ hfalse)

/-- What neither digits, letters of prefixes nor backticks satisfy, nothing in front of the offset
does. -/
theorem eq_false_of_mem_stem
    (hp : (backtick :: 'x' :: 'X' :: hexAlphabet).all (fun c => !p c) = true) :
    ∀ c ∈ s.stem, p c = false := forall_eq_false_of_subset stem_subset hp

theorem stem_ne_nil : s.stem ≠ [] := by
  intro h
  have hjoin := joinHalves_stem (s := s)
  rw [h] at hjoin
  exact HexText.chars_ne_nil hjoin.symm

theorem hasPrefix_stem_append (h : s.number.lead ≠ .bare) (cs : List Char) :
    hasPrefix (s.stem ++ cs) = true := by
  unfold stem
  rw [List.append_assoc]
  exact HexPrefix.hasPrefix_append h _

/-- The number and its offset, without punctuation at the end of the offset. -/
def token (s : Spelling) : List Char := s.stem ++ dropEndWhile isDecoration s.offsetChars

/-- An offset keeps its sign whatever is cut off at its end. -/
theorem dropEndWhile_offsetChars (s : Spelling) :
    dropEndWhile isDecoration s.offsetChars = [] ∨
      ∃ cs, dropEndWhile isDecoration s.offsetChars = '+' :: cs := by
  unfold offsetChars
  cases s.offset with
  | none => exact .inl rfl
  | some cs =>
    exact .inr ⟨_, dropEndWhile_append (List.cons_ne_nil '+' []) (by decide) cs⟩

theorem trimWhere_stem_append :
    trimWhere isDecoration (s.stem ++ s.offsetChars) = s.token := by
  have hnone := eq_false_of_mem_stem (s := s) (p := isDecoration) (by decide)
  obtain ⟨c, cs, hstem⟩ := List.exists_cons_of_ne_nil (stem_ne_nil (s := s))
  have hhead : (s.stem ++ s.offsetChars).dropWhile isDecoration = s.stem ++ s.offsetChars := by
    have hc := hnone c (by rw [hstem]; exact List.mem_cons_self)
    rw [hstem]
    exact List.dropWhile_cons_of_neg (by simp [hc])
  unfold trimWhere token
  rw [hhead, dropEndWhile_append stem_ne_nil (hnone _ (List.getLast_mem _))]

theorem tokens_stem_append : tokens (s.stem ++ s.offsetChars) = [s.token] := by
  have hne : s.token ≠ [] := List.append_ne_nil_of_left_ne_nil stem_ne_nil _
  have hoffset : ∀ c ∈ s.offsetChars, isBlank c = false := by
    intro c hc
    unfold offsetChars at hc
    cases hs : s.offset with
    | none =>
      rw [hs] at hc
      exact absurd hc List.not_mem_nil
    | some cs =>
      rw [hs] at hc
      rcases List.mem_cons.1 hc with rfl | hc
      · decide
      · have hblank := s.noBlank
        rw [hs] at hblank
        exact forall_eq_false_of_any hblank c hc
  rw [tokens_of_run (List.forall_mem_append.2 ⟨eq_false_of_mem_stem (by decide), hoffset⟩),
    trimWhere_stem_append, if_neg hne]

/-- In front of a text that is empty or an offset, a run without plus signs ends. -/
theorem beforeOffset_append (hcs : ∀ c ∈ cs, (c == '+') = false) {rest : List Char}
    (hrest : rest = [] ∨ ∃ tail, rest = '+' :: tail) : beforeOffset (cs ++ rest) = cs := by
  refine (takeWhile_append_run (fun c hc => ?_) ?_).1
  · simpa using hcs c hc
  · rcases hrest with rfl | ⟨tail, rfl⟩ <;> simp

theorem beforeOffset_token : beforeOffset s.token = s.stem :=
  beforeOffset_append (eq_false_of_mem_stem (by decide)) (dropEndWhile_offsetChars s)

theorem looksLikeAddress_token : looksLikeAddress s.token = true := by
  have hdigits : ∀ c ∈ s.number.digits, isHexDigit c = true := fun _ => HexText.isHexDigit_of_mem
  have hrest : joinHalves (dropEndWhile isDecoration s.offsetChars) = [] ∨
      ∃ tail, joinHalves (dropEndWhile isDecoration s.offsetChars) = '+' :: tail := by
    rcases dropEndWhile_offsetChars s with h | ⟨tail, h⟩
    · rw [h]
      exact .inl rfl
    · rw [h]
      exact .inr ⟨joinHalves tail, List.filter_cons_of_pos (by decide)⟩
  have hsecond : ∀ c ∈ (joinHalves (dropEndWhile isDecoration s.offsetChars)).head?,
      c ≠ 'x' ∧ c ≠ 'X' := by
    rcases hrest with h | ⟨tail, h⟩
    · rw [h]
      simp
    · rw [h]
      rintro _ ⟨⟩
      decide
  unfold looksLikeAddress token
  rw [joinHalves_append, joinHalves_stem, HexText.body_chars_append hsecond,
    beforeOffset_append (forall_eq_false_of_run hdigits (by decide)) hrest]
  exact s.number.isRun

/-! ## Reading -/

/-- What stands around the number and its offset is not part of the token. -/
theorem tokens_core : tokens s.core = [s.token] := by
  have hmargin : ∀ c ∈ s.opening ++ s.closing, isMargin c = true := by
    intro c hc
    refine isMargin_of_mem (s := s) ?_
    rw [List.append_assoc]
    exact List.mem_append_right _ hc
  have hmargin := List.forall_mem_append.1 hmargin
  unfold core
  rw [tokens_margin hmargin.1 hmargin.2, tokens_stem_append]

/-- **The tokens of a spelling**: the words of a type name, the number with its offset, and the
words of another type name. -/
theorem tokens_chars (s : Spelling) : ∃ before after,
    tokens s.chars = before ++ s.token :: after ∧ (∀ w ∈ before, hasPrefix w = false) ∧
      (s.number.lead ≠ .bare ∨ before = [] ∧ after = []) := by
  have hmargin : ∀ c ∈ s.front ++ s.behind, isMargin c = true :=
    fun c hc => isMargin_of_mem (List.mem_append_left _ (List.mem_append_left _ hc))
  have hmargin := List.forall_mem_append.1 hmargin
  obtain ⟨after, htyped, hafter⟩ : ∃ after, tokens s.typed = s.token :: after ∧
      (s.number.lead ≠ .bare ∨ after = []) := by
    unfold typed
    cases hs : s.typeAfter with
    | none => exact ⟨[], tokens_core, .inr rfl⟩
    | some note =>
      refine ⟨tokens ('<' :: note.name ++ ['>']), ?_, .inl (s.prefixed (.inr (by rw [hs]; rfl)))⟩
      rw [tokens_append_cons note.isBlank_gap, tokens_core, List.singleton_append]
  unfold chars
  rw [tokens_margin hmargin.1 hmargin.2]
  cases hs : s.typeBefore with
  | none =>
    refine ⟨[], after, htyped, fun _ h => absurd h List.not_mem_nil, ?_⟩
    exact hafter.imp_right fun h => ⟨rfl, h⟩
  | some note =>
    have hparentheses : tokens (['('] ++ (note.name ++ [')'])) = tokens note.name :=
      tokens_margin (List.forall_mem_singleton.2 (by decide))
        (List.forall_mem_singleton.2 (by decide)) note.name
    have hnone : ∀ w ∈ tokens note.name, hasPrefix w = false := by
      have hwords := s.noPrefix
      rw [hs, Option.all_some, Bool.not_eq_true'] at hwords
      exact fun w hw => Bool.eq_false_iff.2 (List.any_eq_false.1 hwords w hw)
    refine ⟨tokens note.name, after, ?_, hnone, .inl (s.prefixed (.inl ?_))⟩
    · rw [tokens_append_cons note.isBlank_gap, hparentheses, htyped]
    · rw [hs]
      rfl

/-- **A spelling is read as its number**, unless that takes more than 64 bits. -/
theorem read?_chars (s : Spelling) : read? s.chars = ofNat? s.value := by
  obtain ⟨before, after, htokens, hbefore, hfirst⟩ := tokens_chars s
  have hfirst := hfirst.imp_left fun h =>
    hasPrefix_stem_append h (dropEndWhile isDecoration s.offsetChars)
  have htoken := token?_of_tokens htokens looksLikeAddress_token hbefore hfirst
  rw [beforeOffset_token] at htoken
  refine read?_of_token htoken ?_ HexText.digits_ne_nil fun _ => HexText.isHexDigit_of_mem
  rw [joinHalves_stem, HexText.body_chars]

theorem parse?_text (s : Spelling) : parse? s.text = ofNat? s.value := by
  unfold parse? text
  rw [String.toList_ofList, read?_chars]

end Spelling

theorem toNat_ofNat {n : ℕ} (h : n < 2 ^ 64) : toNat ⟨UInt64.ofNat n⟩ = n :=
  UInt64.toNat_ofNat_of_lt' h

/-- **An address is read back from its own text.** -/
theorem parse?_text (a : Address) : parse? a.text = some a := by
  have hvalue := numeral_hexPadded 16 a.toNat
  have hfit : numeral 16 (hexPadded 16 a.toNat) < 2 ^ 64 := by
    rw [hvalue]
    exact a.value.toNat_lt
  unfold parse? text
  rw [String.toList_ofList, read?_of_prefixed_run (hexPadded_ne_nil 16 _)
    (fun _ => isHexDigit_of_mem_hexPadded) hfit, hvalue]
  exact congrArg (fun value => some (Address.mk value)) UInt64.ofNat_toNat

/-- **The spellings of a number are read as that number, and have one key.** -/
theorem spellings_read :
    (∀ s : Spelling, (s.value < 2 ^ 64 → (parse? s.text).map toNat = some s.value) ∧
      (2 ^ 64 ≤ s.value → parse? s.text = none)) ∧
    (∀ a : Address, parse? a.text = some a) ∧
    (∀ s t : Spelling, s.value < 2 ^ 64 → t.value < 2 ^ 64 →
      ((parse? s.text).map key = (parse? t.text).map key ↔ s.value = t.value)) := by
  refine ⟨fun s => ⟨fun hfit => ?_, fun hlarge => ?_⟩, parse?_text, fun s t hs ht => ?_⟩
  · rw [Spelling.parse?_text, ofNat?_of_lt hfit]
    exact congrArg some (toNat_ofNat hfit)
  · rw [Spelling.parse?_text, ofNat?, if_neg (not_lt.2 hlarge)]
  · have hkey : ∀ u : Spelling, u.value < 2 ^ 64 →
        (parse? u.text).map key = some (hexText u.value) := by
      intro u hu
      rw [Spelling.parse?_text, ofNat?_of_lt hu]
      exact congrArg (fun n => some (hexText n)) (toNat_ofNat hu)
    rw [hkey s hs, hkey t ht]
    refine ⟨fun h => ?_, fun h => by rw [h]⟩
    exact hexDigits_inj.1 (String.ofList_injective (Option.some.inj h))

/-- Around one number stand brackets, an offset, and a type name with hexadecimal words and a bracket
of its own; the other one is bare. A number of 65 bits is not read. -/
theorem spellings_read_annotated :
    let s : Spelling :=
      { number := ⟨.small, "00007FF8a1b2c3d4".toList, by decide⟩
        shown := "00007FF8".toList ++ backtick :: "a1b2c3d4".toList
        joined := by decide
        offset := some "0x20".toList
        typeBefore := some ⟨"Pair<Face, add> [".toList, ' ', by decide⟩
        front := "[".toList
        behind := "] ".toList }
    let t : Spelling :=
      { number := ⟨.bare, "0007ff8A1B2C3D4".toList, by decide⟩
        shown := "0007ff8A1B2C3D4".toList
        joined := by decide }
    let u : Spelling :=
      { number := ⟨.capital, "010000000000000000".toList, by decide⟩
        shown := "010000000000000000".toList
        joined := by decide
        typeAfter := some ⟨"0x12 int".toList, ' ', by decide⟩ }
    s.value < 2 ^ 64 ∧ t.value < 2 ^ 64 ∧ 2 ^ 64 ≤ u.value ∧
      (parse? s.text).map toNat = some 0x7ff8a1b2c3d4 ∧ parse? u.text = none ∧
      (parse? s.text).map key = (parse? t.text).map key := by
  intro s t u
  have hs : s.value < 2 ^ 64 := by decide
  have ht : t.value < 2 ^ 64 := by decide
  have hu : 2 ^ 64 ≤ u.value := by decide
  obtain ⟨hread, -, hkey⟩ := spellings_read
  refine ⟨hs, ht, hu, ?_, (hread u).2 hu, (hkey s t hs ht).2 (by decide)⟩
  rw [(hread s).1 hs]
  decide

end Postmortem.Address
