import Postmortem.Proofs.Text.Cuts
import Postmortem.Proofs.Text.PrintedLines
import Postmortem.Proofs.Thread.HexText

/-!
# Spellings of one thread id

Debuggers print the number of a thread in base sixteen, in base ten, or in both. A text of decimal
digits can be either, and both readings are kept. So an id that shows its base is taken for every
other spelling of its number: by the number if the other one is hexadecimal, across the bases if it
is decimal (`isSame_of_showsBase`).

The key of a hexadecimal spelling is the text of its number, although that of a run of decimal
digits is made from the decimal reading: both readings of a run have one text
(`hexDigits_numeral_eq_toDigits`).

* `key_of_isHex`: all hexadecimal spellings of a number have one key.
* `spellings_reconcile`: **the spellings of a number are taken for one another, and those of
  different numbers are told apart by their keys.**
-/

namespace Postmortem

open Text

namespace ThreadId

/-- The ways in which the number of a thread is printed. -/
inductive Spelling (n : ℕ) where
  /-- In base sixteen: `0x2a3c`, `2A3C` or `00002a3c`. -/
  | hex (t : HexText) (printed : t.value = n)
  /-- In both bases: `0x2a3c (10812)`. -/
  | dual (t : HexText) (printed : t.value = n) (prefixed : t.lead ≠ .bare)
  /-- In base ten: `10812`. -/
  | decimal

namespace Spelling

variable {n : ℕ}

/-- The characters of a spelling. -/
def chars : Spelling n → List Char
  | hex t _ => t.chars
  | dual t _ _ => t.chars ++ (' ' :: '(' :: Nat.toDigits 10 n ++ [')'])
  | decimal => Nat.toDigits 10 n

/-- The id with this text. -/
def id (s : Spelling n) : ThreadId := .parse (.ofList s.chars)

/-- Whether the number is printed in base sixteen. -/
def IsHex : Spelling n → Prop
  | hex _ _ => True
  | dual _ _ _ => True
  | decimal => False

/-- Whether a prefix shows that the number is printed in base sixteen. -/
def ShowsBase : Spelling n → Prop
  | hex t _ => t.lead ≠ .bare
  | dual _ _ _ => True
  | decimal => False

theorem ShowsBase.isHex {s : Spelling n} (h : s.ShowsBase) : s.IsHex := by
  cases s with
  | hex t printed => trivial
  | dual t printed prefixed => trivial
  | decimal => exact h

/-! ## Reading -/

theorem trim_toDigits (n : ℕ) : trim (Nat.toDigits 10 n) = Nat.toDigits 10 n :=
  trimWhere_of_forall (forall_eq_false_of_run (isHexDigit_of_mem_toDigits n) (by decide))

theorem trim_chars_dual {t : HexText} (printed : t.value = n) (prefixed : t.lead ≠ .bare) :
    trim (dual t printed prefixed).chars = (dual t printed prefixed).chars :=
  trim_between HexText.trim_chars HexText.chars_ne_nil (by decide) (by decide) _

/-- An id in both bases has its number in both. -/
theorem id_dual {t : HexText} (hn : n < 2 ^ 64) (printed : t.value = n)
    (prefixed : t.lead ≠ .bare) :
    (dual t printed prefixed).id = ⟨.ofList (dual t printed prefixed).chars, some n, some n⟩ := by
  -- the text is cut at its parentheses into the two numbers
  have hopen : cutAt? ['('] (dual t printed prefixed).chars =
      some (t.chars ++ [' '], Nat.toDigits 10 n ++ [')']) := by
    have hnone : '(' ∉ t.chars ++ [' '] := by
      rw [List.mem_append, not_or]
      exact ⟨HexText.notMem_chars, by decide⟩
    have hcut := cutAt?_append hnone (Nat.toDigits 10 n ++ [')'])
    rwa [List.append_assoc] at hcut
  have hclose : cutAtLast? [')'] (Nat.toDigits 10 n ++ [')']) = some (Nat.toDigits 10 n, []) :=
    cutAtLast?_append List.not_mem_nil _
  have hhead : trim (t.chars ++ [' ']) = t.chars := trim_append_replicate HexText.trim_chars 1
  have hprefix : Address.hasPrefix t.chars = true := by
    rw [← List.append_nil t.chars]
    exact HexText.hasPrefix_chars_append prefixed []
  have hread : readUnsigned? 16 64 t.digits = some n := by
    rw [HexText.readUnsigned?_digits, printed]
    exact HexText.filter_fits hn
  unfold id ThreadId.parse
  rw [String.toList_ofList, trim_chars_dual]
  simp only [hopen, hclose, hhead, trim_toDigits, hprefix, HexText.body_chars, hread,
    readUnsigned?_toDigits hn, if_true]

/-- The decimal text of a number, as a run that might be hexadecimal. -/
def decimalText (n : ℕ) : HexText :=
  ⟨.bare, Nat.toDigits 10 n,
    Address.isHexRun_of_run Nat.toDigits_ne_nil (isHexDigit_of_mem_toDigits n)⟩

theorem decimal_id_decimal (hn : n < 2 ^ 64) : (decimal : Spelling n).id.decimal = some n := by
  have hall : (Nat.toDigits 10 n).all Char.isDigit = true :=
    List.all_eq_true.2 fun _ => isDigit_of_mem_toDigits
  have hten : (decimalText n).decimal? = some n := by
    unfold HexText.decimal? decimalText
    rw [if_pos ⟨rfl, hall⟩, numeral_toDigits (by decide) (by decide)]
  have hid : (decimal : Spelling n).id = (decimalText n).id := rfl
  rw [hid, HexText.decimal_id hten hn]

theorem hex_id (hn : n < 2 ^ 64) {s : Spelling n} (h : s.IsHex) : s.id.hex = some n := by
  cases s with
  | hex t printed =>
    have hid : (hex t printed).id = t.id := rfl
    rw [hid, HexText.hex_id (by rwa [printed]), printed]
  | dual t printed prefixed => rw [id_dual hn]
  | decimal => exact False.elim h

theorem isExplicitHex_id (hn : n < 2 ^ 64) {s : Spelling n} (h : s.ShowsBase) :
    s.id.isExplicitHex = true := by
  cases s with
  | hex t printed =>
    have hid : (hex t printed).id = t.id := rfl
    rw [hid, HexText.isExplicitHex_id, HexText.decimal?, if_neg fun hten => h hten.1]
    rfl
  | dual t printed prefixed =>
    rw [id_dual hn]
    unfold isExplicitHex
    rw [String.toList_ofList, trim_chars_dual]
    show (Address.hasPrefix (t.chars ++ _) || _) = true
    rw [HexText.hasPrefix_chars_append prefixed, Bool.true_or]
  | decimal => exact False.elim h

/-! ## Comparing -/

/-- **A spelling that shows its base is taken for every other spelling of its number.** -/
theorem isSame_of_showsBase (hn : n < 2 ^ 64) {a : Spelling n} (ha : a.ShowsBase)
    (b : Spelling n) : a.id.isSame b.id = true ∧ b.id.isSame a.id = true := by
  have hhex := hex_id hn ha.isHex
  have hexplicit := isExplicitHex_id hn ha
  rw [isSame_iff, isSame_iff]
  by_cases hb : b.IsHex
  · have hhex' := hex_id hn hb
    exact ⟨.inr (.inl ⟨⟨n, hhex, hhex'⟩, .inl hexplicit⟩),
      .inr (.inl ⟨⟨n, hhex', hhex⟩, .inr hexplicit⟩)⟩
  · cases b with
    | hex t printed => exact absurd trivial hb
    | dual t printed prefixed => exact absurd trivial hb
    | decimal =>
      have hten := decimal_id_decimal hn
      exact ⟨.inr (.inr (.inr (.inl ⟨hexplicit, n, hhex, hten⟩))),
        .inr (.inr (.inr (.inr (.inl ⟨hexplicit, n, hten, hhex⟩))))⟩

/-! ## Keys -/

/-- The key of an id in base sixteen is the text of its number. -/
theorem key_id_hexText {t : HexText} (ht : t.value < 2 ^ 64) : t.id.key = hexText t.value := by
  unfold key
  rw [HexText.hex_id ht, HexText.isExplicitHex_id]
  cases hten : t.decimal? with
  | none =>
    have hdecimal : t.id.decimal = none := by
      rw [HexText.id_eq, hten]
      rfl
    rw [hdecimal]
  | some d =>
    have hrun := hten
    unfold HexText.decimal? at hrun
    split at hrun
    · rename_i hdigits
      have hdigits := List.all_eq_true.1 hdigits.2
      obtain rfl := Option.some.inj hrun
      have hfits := lt_of_le_of_lt (numeral_ten_le_sixteen hdigits) ht
      rw [HexText.decimal_id hten hfits]
      -- the key is made from the decimal reading
      exact (congrArg String.ofList (hexDigits_numeral_eq_toDigits hdigits)).symm
    · cases hrun

/-- **All hexadecimal spellings of a number have one key.** -/
theorem key_of_isHex (hn : n < 2 ^ 64) {s : Spelling n} (h : s.IsHex) :
    s.id.key = hexText n := by
  cases s with
  | hex t printed =>
    have hid : (hex t printed).id = t.id := rfl
    rw [hid, key_id_hexText (by rwa [printed]), printed]
  | dual t printed prefixed =>
    have hexplicit : (dual t printed prefixed).id.isExplicitHex = true :=
      isExplicitHex_id hn trivial
    rw [id_dual hn] at hexplicit ⊢
    unfold key
    simp only [hexplicit, if_true]
  | decimal => exact False.elim h

end Spelling

/-- **The spellings of a thread's number are reconciled.** -/
theorem spellings_reconcile {n : ℕ} (hn : n < 2 ^ 64) :
    (∀ a b : Spelling n, a.ShowsBase → a.id.isSame b.id = true ∧ b.id.isSame a.id = true) ∧
    (∀ a b : Spelling n, a.IsHex → b.IsHex → a.id.key = b.id.key) ∧
    (∀ m < 2 ^ 64, m ≠ n → ∀ (a : Spelling n) (b : Spelling m), a.IsHex → b.IsHex →
      a.id.key ≠ b.id.key) := by
  refine ⟨fun a b ha => Spelling.isSame_of_showsBase hn ha b, fun a b ha hb => ?_,
    fun m hm hne a b ha hb h => hne ?_⟩
  · rw [Spelling.key_of_isHex hn ha, Spelling.key_of_isHex hn hb]
  · rw [Spelling.key_of_isHex hn ha, Spelling.key_of_isHex hm hb] at h
    exact (hexDigits_inj.1 (String.ofList_injective h)).symm

/-- A text of decimal digits is taken for the number that it prints in base sixteen, and is told
apart from the one that it would print in base ten. -/
theorem spellings_reconcile_ambiguous :
    let shown : Spelling 0x1234 := .dual ⟨.small, "1234".toList, by decide⟩ (by decide) (by decide)
    let bare : Spelling 0x1234 := .hex ⟨.bare, "001234".toList, by decide⟩ (by decide)
    let other : Spelling 1234 := .hex ⟨.capital, "04D2".toList, by decide⟩ (by decide)
    0x1234 < 2 ^ 64 ∧ 1234 < 2 ^ 64 ∧ shown.ShowsBase ∧ bare.IsHex ∧ other.IsHex ∧
      (shown.id.isSame bare.id = true ∧ bare.id.isSame shown.id = true) ∧
      shown.id.key = bare.id.key ∧ bare.id.key ≠ other.id.key := by
  intro shown bare other
  have hfits : 0x1234 < 2 ^ 64 := by decide
  obtain ⟨hsame, hkey, hother⟩ := spellings_reconcile hfits
  exact ⟨hfits, by decide, trivial, trivial, trivial, hsame shown bare trivial,
    hkey shown bare trivial trivial,
    hother 1234 (by decide) (by decide) bare other trivial trivial⟩

end ThreadId

end Postmortem
