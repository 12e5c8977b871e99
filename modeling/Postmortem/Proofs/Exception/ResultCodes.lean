import Postmortem.Exception.Record
import Postmortem.Proofs.Thread.HexText

/-!
# Result codes

A result code has 32 bits. A command prints it in base sixteen, and the field of an object holds it
as a signed number in base ten, so one code comes in many spellings: with or without a prefix, as
itself or as the negative number that it is the complement of, with leading zeros, capitals and
blanks around it.

The spellings are read on different ways, hexadecimal digits as 32 bits and decimal ones as 64, and
are checked against different bounds. What they share is the number that is printed: whatever the
way, it is a code iff it lies between the least signed and the greatest unsigned number of 32 bits
(`readResultCode?_chars`).

* `formatResultCode?_chars`: a number of those is printed as the code that it stands for, and no
  other number is.
* `formatResultCode?_normalizes`: **all spellings of a code have one printed form, the printed form
  is its own, and a number beyond the bounds has none.**
-/

namespace Postmortem

open Text

/-- A number as a result code is printed: in base sixteen, or in base ten with or without a minus
sign. -/
inductive CodeNumeral where
  | hex (t : HexText)
  | decimal (r : DecimalRun)
  | negative (r : DecimalRun)

namespace CodeNumeral

/-- The characters of a number. -/
def chars : CodeNumeral → List Char
  | hex t => t.chars
  | decimal r => r.digits
  | negative r => '-' :: r.digits

/-- The number that is printed. -/
def value : CodeNumeral → ℤ
  | hex t => t.value
  | decimal r => r.value
  | negative r => -r.value

/-- Whether a number is printed in the base in which it is read: bare digits are read in a given
base, and a prefix or a sign shows the base of the others. -/
def IsIn (base : BareBase) : CodeNumeral → Prop
  | hex t => t.lead = .bare → base = .sixteen
  | decimal _ => base = .ten
  | negative _ => True

instance (base : BareBase) : (n : CodeNumeral) → Decidable (n.IsIn base)
  | hex _ => inferInstanceAs (Decidable (_ → _))
  | decimal _ => inferInstanceAs (Decidable (_ = _))
  | negative _ => inferInstanceAs (Decidable True)

/-- Whether a number stands for a code: it is the code, or the negative number that has the code as
its complement. -/
def StandsFor (n : CodeNumeral) (code : UInt32) : Prop :=
  n.value = code.toNat ∨ 2 ^ 31 ≤ code.toNat ∧ n.value = code.toNat - 2 ^ 32

instance (n : CodeNumeral) (code : UInt32) : Decidable (n.StandsFor code) :=
  inferInstanceAs (Decidable (_ ∨ _ ∧ _))

/-! ## Reading -/

/-- The code that a number stands for, if it lies between the bounds. -/
def code? (v : ℤ) : Option ℕ :=
  if -2 ^ 31 ≤ v ∧ v < 2 ^ 32 then some (v % 2 ^ 32).toNat else none

variable {base : BareBase}

/-- No character of a number is blank. -/
theorem trim_chars (n : CodeNumeral) : trim n.chars = n.chars := by
  cases n with
  | hex t => exact HexText.trim_chars
  | decimal r => exact r.trim_digits
  | negative r =>
    have hrun := r.eq_false_of_mem (p := isBlank) (by decide)
    exact trimWhere_of_forall (List.forall_mem_cons.2 ⟨by decide, hrun⟩)

/-- Hexadecimal digits are read if they fit in 32 bits. -/
theorem readUnsigned?_digits (t : HexText) : readUnsigned? 16 32 t.digits = code? t.value := by
  have hvalue : numeral 16 t.digits = t.value := rfl
  rw [readUnsigned?_of_run 32 HexText.digits_ne_nil
    (digitValue?_isSome_of_isHexDigit fun _ => HexText.isHexDigit_of_mem), hvalue,
    Option.filter_some]
  unfold code?
  by_cases hfits : t.value < 2 ^ 32
  · rw [if_pos (decide_eq_true hfits), if_pos (by omega)]
    exact congrArg some (by omega)
  · rw [if_neg (by simpa using hfits), if_neg (by omega)]

/-- Decimal digits are read if they fit in 64 bits, and all codes do. -/
theorem filter_int64 (v : ℤ) :
    ((((some v).filter fun n => -2 ^ 63 ≤ n ∧ n < 2 ^ 63).filter fun n =>
      -2 ^ 31 ≤ n ∧ n < 2 ^ 32).map fun n => (n % 2 ^ 32).toNat) = code? v := by
  unfold code?
  rw [Option.filter_filter, Option.filter_some]
  by_cases hfits : -2 ^ 31 ≤ v ∧ v < 2 ^ 32
  · rw [if_pos hfits, if_pos (by simp; omega)]
    rfl
  · rw [if_neg hfits, if_neg (by simp; omega)]
    rfl

/-- **A number is read as the code that it stands for**, whatever way it is printed in. -/
theorem readResultCode?_chars {n : CodeNumeral} (h : n.IsIn base) :
    readResultCode? base n.chars = code? n.value := by
  unfold readResultCode?
  simp only [trim_chars]
  cases n with
  | hex t =>
    have hread := readUnsigned?_digits t
    by_cases hlead : t.lead = .bare
    · have hchars : t.chars = t.digits := by
        unfold HexText.chars
        rw [hlead]
        rfl
      have hsign : (t.digits.head? == some '-') = false := by
        rw [beq_eq_false_iff_ne]
        intro hhead
        have hhex := HexText.isHexDigit_of_mem (List.mem_of_mem_head? hhead)
        exact absurd hhex (by decide)
      obtain rfl : base = .sixteen := h hlead
      simp only [chars, hchars, HexText.hasPrefix_digits, hsign]
      exact hread
    · have hprefix : Address.hasPrefix t.chars = true := by
        rw [← List.append_nil t.chars]
        exact HexText.hasPrefix_chars_append hlead []
      simp only [chars, hprefix, HexText.body_chars]
      exact hread
  | decimal r =>
    obtain rfl : base = .ten := h
    simp only [chars, Address.hasPrefix_of_run r.isHexDigit_of_mem,
      readInt64?_of_run r.ne_nil r.isDigit_of_mem, filter_int64]
    simp [value, DecimalRun.value]
  | negative r =>
    have hprefix : Address.hasPrefix ('-' :: r.digits) = false := rfl
    simp only [chars, hprefix, readInt64?_minus_run r.ne_nil r.isDigit_of_mem, filter_int64]
    simp [value, DecimalRun.value]

theorem formatResultCode?_chars {n : CodeNumeral} (h : n.IsIn base) :
    formatResultCode? base n.chars = (code? n.value).map resultCodeText := by
  unfold formatResultCode?
  rw [readResultCode?_chars h]

/-- A number that stands for a code is read as the code. -/
theorem StandsFor.code?_value {n : CodeNumeral} {code : UInt32} (h : n.StandsFor code) :
    code? n.value = some code.toNat := by
  have hcode := code.toNat_lt
  unfold code?
  rcases h with h | ⟨hbit, h⟩
  · rw [h, if_pos (by omega)]
    exact congrArg some (by omega)
  · rw [h, if_pos (by omega)]
    exact congrArg some (by omega)

end CodeNumeral

/-- A result code as it is printed: a number and blanks around it. -/
structure PrintedCode where
  number : CodeNumeral
  front : List Char := []
  behind : List Char := []
  blanks : (front ++ behind).all isBlank = true := by decide

namespace PrintedCode

/-- The characters of a printed code. -/
def chars (s : PrintedCode) : List Char := s.front ++ (s.number.chars ++ s.behind)

/-- Blanks around a number do not matter. -/
theorem formatResultCode?_chars (s : PrintedCode) (base : BareBase) :
    formatResultCode? base s.chars = formatResultCode? base s.number.chars := by
  have hblanks := List.forall_mem_append.1 (List.all_eq_true.1 s.blanks)
  have htrim : trim s.chars = trim s.number.chars :=
    trimWhere_margin hblanks.1 hblanks.2 s.number.chars
  unfold formatResultCode? readResultCode?
  rw [htrim]

end PrintedCode

/-! ## The printed form -/

/-- The eight digits of a code, behind a prefix or bare. -/
def codeDigits (lead : HexPrefix) (code : ℕ) : HexText where
  lead := lead
  digits := hexPadded 8 code
  isRun := Address.isHexRun_of_run (hexPadded_ne_nil 8 code) fun _ => isHexDigit_of_mem_hexPadded

theorem toList_resultCodeText (code : ℕ) :
    (resultCodeText code).toList = (codeDigits .small code).chars := String.toList_ofList

/-- **The digits of a code are read as the code**, behind a prefix in either base. -/
theorem formatResultCode?_codeDigits (lead : HexPrefix) {base : BareBase}
    (h : lead = .bare → base = .sixteen) (code : UInt32) :
    formatResultCode? base (codeDigits lead code.toNat).chars =
      some (resultCodeText code.toNat) := by
  have hvalue : (codeDigits lead code.toNat).value = code.toNat := numeral_hexPadded 8 _
  have hcode : CodeNumeral.StandsFor (.hex (codeDigits lead code.toNat)) code :=
    .inl (congrArg Int.ofNat hvalue)
  have hbase : CodeNumeral.IsIn base (.hex (codeDigits lead code.toNat)) := h
  have hformat := CodeNumeral.formatResultCode?_chars hbase
  rw [hcode.code?_value] at hformat
  exact hformat

theorem readResultCode?_lt {base : BareBase} {cs : List Char} {code : ℕ}
    (h : readResultCode? base cs = some code) : code < 2 ^ 32 := by
  have hunsigned : ∀ w, readUnsigned? 16 32 w = some code → code < 2 ^ 32 := by
    intro w hw
    exact of_decide_eq_true (Option.filter_eq_some_iff.1 hw).2
  unfold readResultCode? at h
  simp only at h
  split at h
  · exact hunsigned _ h
  · split at h
    · obtain ⟨n, -, rfl⟩ := Option.map_eq_some_iff.1 h
      omega
    · exact hunsigned _ h

/-- **All spellings of a code have one printed form**: a prefix and eight small digits, which are
read as the code again. A number beyond the bounds has none. -/
theorem formatResultCode?_normalizes :
    (∀ (code : UInt32) (base : BareBase) (s : PrintedCode), s.number.IsIn base →
      s.number.StandsFor code →
        formatResultCode? base s.chars = some (resultCodeText code.toNat)) ∧
    (∀ code : UInt32, ∃ t : HexText, (resultCodeText code.toNat).toList = t.chars ∧
      t.lead = .small ∧ t.digits.length = 8 ∧ (∀ c ∈ t.digits, c.isUpper = false) ∧
        t.value = code.toNat) ∧
    (∀ (base base' : BareBase) (cs : List Char) (text : String),
      formatResultCode? base cs = some text → formatResultCode? base' text.toList = some text) ∧
    (∀ (base : BareBase) (s : PrintedCode), s.number.IsIn base →
      s.number.value < -2 ^ 31 ∨ 2 ^ 32 ≤ s.number.value →
        formatResultCode? base s.chars = none) := by
  refine ⟨fun code base s hbase hcode => ?_, fun code => ?_, fun base base' cs text h => ?_,
    fun base s hbase hout => ?_⟩
  · rw [s.formatResultCode?_chars, CodeNumeral.formatResultCode?_chars hbase, hcode.code?_value]
    rfl
  · have hlength : (hexPadded 8 code.toNat).length = 8 :=
      length_hexPadded (by decide) code.toNat_lt
    have hsmall : ∀ c ∈ hexPadded 8 code.toNat, c.isUpper = false :=
      forall_mem_hexPadded (p := (Char.isUpper · = false)) (by decide) 8 code.toNat
    exact ⟨codeDigits .small code.toNat, toList_resultCodeText _, rfl, hlength, hsmall,
      numeral_hexPadded 8 _⟩
  · obtain ⟨code, hread, rfl⟩ := Option.map_eq_some_iff.1 h
    have hcode : (UInt32.ofNat code).toNat = code :=
      UInt32.toNat_ofNat_of_lt' (readResultCode?_lt hread)
    rw [toList_resultCodeText, ← hcode]
    exact formatResultCode?_codeDigits .small (fun h => by cases h) _
  · rw [s.formatResultCode?_chars, CodeNumeral.formatResultCode?_chars hbase]
    unfold CodeNumeral.code?
    rw [if_neg (by omega)]
    rfl

/-- A code is printed behind a capital prefix, and as a padded negative number where bare digits are
hexadecimal. A number below the lowest one is no code. -/
theorem formatResultCode?_normalizes_invalidOperation :
    let code : UInt32 := 0x80131509
    let prefixed : PrintedCode :=
      { number := .hex ⟨.capital, "0080131509".toList, by decide⟩, front := " \t".toList }
    let signed : PrintedCode :=
      { number := .negative { digits := "002146233079".toList }, behind := "\r".toList }
    let below : PrintedCode := { number := .negative { digits := "2147483649".toList } }
    prefixed.number.IsIn .ten ∧ prefixed.number.StandsFor code ∧
      signed.number.IsIn .sixteen ∧ signed.number.StandsFor code ∧
      below.number.IsIn .ten ∧ below.number.value < -2 ^ 31 ∧
      formatResultCode? .ten prefixed.chars = some "0x80131509" ∧
      formatResultCode? .sixteen signed.chars = some "0x80131509" ∧
      formatResultCode? .ten "0x80131509".toList = some "0x80131509" ∧
      formatResultCode? .ten below.chars = none := by
  intro code prefixed signed below
  obtain ⟨hread, -, hagain, hbeyond⟩ := formatResultCode?_normalizes
  have hprefixed : prefixed.number.IsIn .ten := by decide
  have hsigned : signed.number.IsIn .sixteen := by decide
  have hbelow : below.number.IsIn .ten := by decide
  have hlow : below.number.value < -2 ^ 31 := by decide
  have hcode : prefixed.number.StandsFor code := by decide
  have hcode' : signed.number.StandsFor code := by decide
  have htext : resultCodeText code.toNat = "0x80131509" := by decide +kernel
  have hfirst := hread code .ten prefixed hprefixed hcode
  have hsecond := hread code .sixteen signed hsigned hcode'
  rw [htext] at hfirst hsecond
  exact ⟨hprefixed, hcode, hsigned, hcode', hbelow, hlow, hfirst, hsecond,
    hagain .sixteen .ten _ _ hsecond, hbeyond .ten below hbelow (.inl hlow)⟩

end Postmortem
