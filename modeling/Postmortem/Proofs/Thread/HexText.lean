import Postmortem.Proofs.Address.Reading
import Postmortem.Proofs.Text.Numerals
import Postmortem.Proofs.Thread.Sameness

/-!
# Thread ids in base sixteen

A listing prints the OS id of a thread as hexadecimal digits, with or without a prefix.
Read back, such an id has its number in base sixteen, and in base ten as well if it has no
prefix and decimal digits only (`id_eq`), as far as these fit in 64 bits.

* `isSame_id_iff`: **two such ids are taken for one another iff their numbers are equal or
  they are confusable**, that is, one is contained in the other or can be read as the
  other's number in the other base.
-/

namespace Postmortem

open Text

/-- What stands in front of hexadecimal digits. -/
inductive HexPrefix where
  | bare
  /-- The prefix `0x`. -/
  | small
  /-- The prefix `0X`. -/
  | capital
deriving DecidableEq, Repr

/-- The characters of a prefix. -/
def HexPrefix.chars : HexPrefix → List Char
  | .bare => []
  | .small => ['0', 'x']
  | .capital => ['0', 'X']

theorem HexPrefix.hasPrefix_append {lead : HexPrefix} (h : lead ≠ .bare) (cs : List Char) :
    Address.hasPrefix (lead.chars ++ cs) = true := by
  cases lead with
  | bare => exact absurd rfl h
  | small => rfl
  | capital => rfl

/-- A number as it is printed in base sixteen: digits of either case with any number of
leading zeros, perhaps behind a prefix. -/
structure HexText where
  lead : HexPrefix := .bare
  digits : List Char
  isRun : Address.isHexRun digits = true

namespace HexText

variable (t : HexText)

/-- The text as a list of characters. -/
def chars : List Char := t.lead.chars ++ t.digits

/-- The number that is printed. -/
def value : ℕ := numeral 16 t.digits

/-- The number in base ten, if nothing shows that the digits are those of base sixteen. -/
def decimal? : Option ℕ :=
  if t.lead = .bare ∧ t.digits.all Char.isDigit = true then some (numeral 10 t.digits) else none

/-- The thread id with this text. -/
def id : ThreadId := .parse (.ofList t.chars)

variable {t} {a b : HexText}

theorem isHexDigit_of_mem {c : Char} (h : c ∈ t.digits) : isHexDigit c = true := by
  have hrun := t.isRun
  unfold Address.isHexRun at hrun
  rw [Bool.and_eq_true, List.all_eq_true] at hrun
  exact hrun.2 c h

theorem digits_ne_nil : t.digits ≠ [] := by
  intro h
  have hrun := t.isRun
  rw [h] at hrun
  exact absurd hrun (by decide)

/-- What neither digits nor the letters of prefixes satisfy, no character of the text does. -/
theorem eq_false_of_mem_chars {p : Char → Bool}
    (hp : ('x' :: 'X' :: hexAlphabet).all (fun c => !p c) = true) {c : Char} (h : c ∈ t.chars) :
    p c = false := by
  have hlead : ∀ lead : HexPrefix, lead.chars ⊆ 'x' :: 'X' :: hexAlphabet := by
    intro lead
    cases lead <;> decide
  have hdigits : t.digits ⊆ hexAlphabet := subset_hexAlphabet fun _ => isHexDigit_of_mem
  have hchars : t.chars ⊆ 'x' :: 'X' :: hexAlphabet :=
    List.append_subset.2 ⟨hlead t.lead,
      List.subset_cons_of_subset _ (List.subset_cons_of_subset _ hdigits)⟩
  exact forall_eq_false_of_subset hchars hp c h

/-! ## Reading -/

theorem trim_chars : trim t.chars = t.chars :=
  trimWhere_of_forall fun _ => eq_false_of_mem_chars (by decide)

theorem notMem_chars : '(' ∉ t.chars := by
  intro h
  have := eq_false_of_mem_chars (p := (· == '(')) (by decide) h
  simp at this

theorem cutAt?_chars : cutAt? ['('] t.chars = none := cutAt?_eq_none notMem_chars

theorem chars_ne_nil : t.chars ≠ [] := List.append_ne_nil_of_right_ne_nil _ digits_ne_nil

theorem hasPrefix_chars_append (h : t.lead ≠ .bare) (cs : List Char) :
    Address.hasPrefix (t.chars ++ cs) = true := by
  unfold chars
  rw [List.append_assoc]
  exact HexPrefix.hasPrefix_append h _

/-- The digits stand behind the prefix, whatever follows them. -/
theorem body_chars_append {cs : List Char} (hcs : ∀ c ∈ cs.head?, c ≠ 'x' ∧ c ≠ 'X') :
    Address.body (t.chars ++ cs) = t.digits ++ cs := by
  unfold chars
  cases hlead : t.lead with
  | bare =>
    -- the second character of the text is a digit, or the first one behind the digits
    have hsecond : ∀ c rest, t.digits ++ cs = '0' :: c :: rest → c ≠ 'x' ∧ c ≠ 'X' := by
      intro c rest heq
      obtain ⟨d, digits, hdigits⟩ := List.exists_cons_of_ne_nil t.digits_ne_nil
      rw [hdigits] at heq
      obtain ⟨-, heq⟩ := List.cons.inj heq
      cases digits with
      | nil => exact hcs c (by rw [show cs = c :: rest from heq]; rfl)
      | cons e digits =>
        obtain ⟨rfl, -⟩ := List.cons.inj heq
        have hhex : isHexDigit e = true := isHexDigit_of_mem (t := t) (by rw [hdigits]; simp)
        refine ⟨?_, ?_⟩
        · rintro rfl
          exact absurd hhex (by decide)
        · rintro rfl
          exact absurd hhex (by decide)
    show Address.body (t.digits ++ cs) = _
    unfold Address.body
    split
    · rename_i rest heq
      exact absurd rfl (hsecond _ _ heq).1
    · rename_i rest heq
      exact absurd rfl (hsecond _ _ heq).2
    · rfl
  | small => rfl
  | capital => rfl

theorem body_chars : Address.body t.chars = t.digits := by
  have hbody : Address.body (t.chars ++ []) = t.digits ++ [] :=
    body_chars_append fun c hc => by cases hc
  rwa [List.append_nil, List.append_nil] at hbody

theorem hasPrefix_digits : Address.hasPrefix t.digits = false :=
  Address.hasPrefix_of_run fun _ => isHexDigit_of_mem

theorem readUnsigned?_digits :
    readUnsigned? 16 64 t.digits = (some t.value).filter (· < 2 ^ 64) :=
  readUnsigned?_of_run 64 digits_ne_nil
    (digitValue?_isSome_of_isHexDigit fun _ => isHexDigit_of_mem)

theorem readUnsigned?_ten_digits (h : t.digits.all Char.isDigit = true) :
    readUnsigned? 10 64 t.digits = (some (numeral 10 t.digits)).filter (· < 2 ^ 64) := by
  rw [List.all_eq_true] at h
  exact readUnsigned?_of_run 64 digits_ne_nil (digitValue?_isSome_of_isDigit h)

/-- **What an id in base sixteen is read as.** -/
theorem id_eq (t : HexText) : t.id =
    ⟨.ofList t.chars, (some t.value).filter (· < 2 ^ 64), t.decimal?.filter (· < 2 ^ 64)⟩ := by
  have hne : t.digits.isEmpty = false := by simpa using t.digits_ne_nil
  unfold id ThreadId.parse decimal?
  simp only [String.toList_ofList, trim_chars, cutAt?_chars]
  cases hlead : t.lead with
  | bare =>
    have hchars : t.chars = t.digits := by unfold chars; rw [hlead]; rfl
    rw [hchars, hasPrefix_digits]
    by_cases hten : t.digits.all Char.isDigit = true
    · simp [hne, hten, readUnsigned?_digits, readUnsigned?_ten_digits hten]
    · simp [hne, hten, t.isRun, readUnsigned?_digits]
  | small =>
    have hchars : t.chars = '0' :: 'x' :: t.digits := by unfold chars; rw [hlead]; rfl
    rw [hchars]
    simp [Address.hasPrefix, Address.body, readUnsigned?_digits]
  | capital =>
    have hchars : t.chars = '0' :: 'X' :: t.digits := by unfold chars; rw [hlead]; rfl
    rw [hchars]
    simp [Address.hasPrefix, Address.body, readUnsigned?_digits]

/-- A number that fits is kept. -/
theorem filter_fits {n : ℕ} (h : n < 2 ^ 64) : (some n).filter (· < 2 ^ 64) = some n :=
  Option.filter_some_pos (decide_eq_true h)

theorem hex_id (h : t.value < 2 ^ 64) : t.id.hex = some t.value := by
  rw [id_eq]
  exact filter_fits h

theorem decimal_id {d : ℕ} (hten : t.decimal? = some d) (h : d < 2 ^ 64) :
    t.id.decimal = some d := by
  rw [id_eq, hten]
  exact filter_fits h

/-! ## Comparing -/

/-- An id shows its base unless it can be read in base ten. -/
theorem isExplicitHex_id : t.id.isExplicitHex = t.decimal?.isNone := by
  rw [id_eq]
  unfold ThreadId.isExplicitHex decimal?
  simp only [String.toList_ofList, trim_chars]
  cases hlead : t.lead with
  | bare =>
    have hchars : t.chars = t.digits := by unfold chars; rw [hlead]; rfl
    have halpha : ∀ c, isHexDigit c = true → (c.isAlpha && isHexDigit c) = !c.isDigit :=
      forall_isHexDigit (by decide)
    have hany : t.digits.any (fun c => c.isAlpha && isHexDigit c) = !t.digits.all Char.isDigit := by
      rw [List.not_all_eq_any_not]
      rw [Bool.eq_iff_iff, List.any_eq_true, List.any_eq_true]
      exact exists_congr fun c => and_congr_right fun hc => by
        rw [halpha c (isHexDigit_of_mem hc)]
    rw [hchars, hasPrefix_digits, Bool.false_or, hany]
    cases hten : t.digits.all Char.isDigit <;> simp
  | small =>
    have hchars : t.chars = '0' :: 'x' :: t.digits := by unfold chars; rw [hlead]; rfl
    simp [hchars, Address.hasPrefix]
  | capital =>
    have hchars : t.chars = '0' :: 'X' :: t.digits := by unfold chars; rw [hlead]; rfl
    simp [hchars, Address.hasPrefix]

/-- The prefix goes, whatever its case. -/
theorem dropPrefixes_asciiLower_chars :
    ThreadId.dropPrefixes (asciiLower t.chars) = asciiLower t.digits := by
  have hx : ∀ c, isHexDigit c = true → c.toLower ≠ 'x' := forall_isHexDigit (by decide)
  have hdigits : ThreadId.dropPrefixes (asciiLower t.digits) = asciiLower t.digits := by
    unfold ThreadId.dropPrefixes
    split
    · rename_i cs h
      have hmem : 'x' ∈ asciiLower t.digits := by rw [h]; simp
      obtain ⟨c, hc, hcx⟩ := List.mem_map.1 hmem
      exact absurd hcx (hx c (isHexDigit_of_mem hc))
    · rfl
  unfold chars
  cases t.lead <;> exact hdigits

/-- **The bare text of an id is the text of its number.** -/
theorem bareText_id : t.id.bareText = hexDigits t.value := by
  have htrim : trim (asciiLower t.chars) = asciiLower t.chars := by
    rw [trim_asciiLower, t.trim_chars]
  have hdrop := dropWhile_zero_asciiLower fun _ h => isHexDigit_of_mem (t := t) h
  have hne : (asciiLower t.digits).isEmpty = false := by simp [asciiLower, t.digits_ne_nil]
  rw [id_eq]
  unfold ThreadId.bareText
  simp only [String.toList_ofList, htrim, dropPrefixes_asciiLower_chars, hne]
  by_cases hzero : t.value = 0
  · rw [hdrop, if_pos (show numeral 16 t.digits = 0 from hzero), hzero]
    rfl
  · rw [hdrop, if_neg (show ¬ numeral 16 t.digits = 0 from hzero)]
    split
    · rename_i h
      exact absurd h Nat.toDigits_ne_nil
    · rfl

/-- The number of one id, in base sixteen and without leading zeros, has three digits or
more and occurs in the number of the other. -/
def Within (a b : HexText) : Prop :=
  3 ≤ (hexDigits a.value).length ∧ hexDigits a.value <:+: hexDigits b.value

/-- One id can be read in base ten, as the number of another that shows its base. -/
def ReadsAs (a b : HexText) : Prop :=
  a.decimal? = some b.value ∧ b.decimal? = none ∧ b.value < 2 ^ 64

/-- **Ids that can be taken for one another although their numbers differ.** -/
def Confusable (a b : HexText) : Prop := a.Within b ∨ b.Within a ∨ a.ReadsAs b ∨ b.ReadsAs a

instance : Decidable (a.Within b) := inferInstanceAs (Decidable (_ ∧ _))

instance : Decidable (a.ReadsAs b) := inferInstanceAs (Decidable (_ ∧ _ ∧ _))

instance : Decidable (a.Confusable b) := inferInstanceAs (Decidable (_ ∨ _ ∨ _ ∨ _))

/-- Equal readings in base ten are readings of equal numbers. -/
theorem value_eq_of_decimal?_eq {n : ℕ} (ha : a.decimal? = some n) (hb : b.decimal? = some n) :
    a.value = b.value := by
  have hread : ∀ {t : HexText}, t.decimal? = some n →
      t.value = numeral 16 (Nat.toDigits 10 n) := by
    intro t h
    unfold decimal? at h
    split at h
    · rename_i hten
      obtain rfl := Option.some.inj h
      exact numeral_sixteen_eq (List.all_eq_true.1 hten.2)
    · cases h
  rw [hread ha, hread hb]

theorem within_bareText_iff : ThreadId.Within a.id.bareText b.id.bareText ↔ a.Within b := by
  unfold ThreadId.Within Within
  rw [bareText_id, bareText_id, byteLength_hexDigits]
  rfl

/-- **Two ids in base sixteen are taken for one another iff they have one number or are
confusable.** -/
theorem isSame_id_iff : a.id.isSame b.id = true ↔ a.value = b.value ∨ a.Confusable b := by
  rw [ThreadId.isSame_iff, within_bareText_iff, within_bareText_iff, isExplicitHex_id,
    isExplicitHex_id, bareText_id, bareText_id, hexDigits_inj]
  simp only [id_eq, Option.isNone_iff_eq_none, Option.filter_eq_some_iff, decide_eq_true_eq]
  constructor
  · rintro (⟨-, hv⟩ | ⟨⟨n, ⟨hx, -⟩, hy, -⟩, -⟩ | ⟨n, ⟨hx, -⟩, hy, -⟩ | ⟨hx, n, ⟨hn, hfits⟩, hy, -⟩ |
      ⟨hy, n, ⟨hx, -⟩, hn, hfits⟩ | hw | hw)
    · exact .inl hv
    · exact .inl ((Option.some.inj hx).trans (Option.some.inj hy).symm)
    · exact .inl (value_eq_of_decimal?_eq hx hy)
    · obtain rfl := Option.some.inj hn
      exact .inr (.inr (.inr (.inr ⟨hy, hx, hfits⟩)))
    · obtain rfl := Option.some.inj hn
      exact .inr (.inr (.inr (.inl ⟨hx, hy, hfits⟩)))
    · exact .inr (.inl hw)
    · exact .inr (.inr (.inl hw))
  · rintro (hv | hw | hw | ⟨hx, hy, hfits⟩ | ⟨hy, hx, hfits⟩)
    · exact .inl ⟨Nat.toDigits_ne_nil, hv⟩
    · exact .inr (.inr (.inr (.inr (.inr (.inl hw)))))
    · exact .inr (.inr (.inr (.inr (.inr (.inr hw)))))
    · exact .inr (.inr (.inr (.inr (.inl ⟨hy, b.value, ⟨hx, hfits⟩, rfl, hfits⟩))))
    · exact .inr (.inr (.inr (.inl ⟨hx, a.value, ⟨rfl, hfits⟩, hy, hfits⟩)))

end HexText

end Postmortem
