import Postmortem.Proofs.Text.SmallLetters
import Postmortem.Text.Numeral

/-!
# Runs of digits

A run of digits stands for one number in each base that has all of them. In base sixteen
that number determines the run up to capitals and leading zeros.

* `readDigits?_of_run`, `readUnsigned?_of_run`: a run is read as its number.
* `dropWhile_zero_asciiLower`: without capitals and leading zeros, a hexadecimal run is
  the text of its number.
* `length_dropWhile_zero_le`: so leading zeros apart, its length is bounded by its number.
-/

namespace Postmortem.Text

/-! ## Hexadecimal digits -/

/-- The digits of base sixteen, in either case. -/
def hexAlphabet : List Char := "0123456789abcdefABCDEF".toList

theorem mem_hexAlphabet {c : Char} (h : isHexDigit c = true) : c ∈ hexAlphabet := by
  have hc : c = Char.ofNat c.toNat := (Char.ofNat_toNat c).symm
  have hrange : (48 ≤ c.toNat ∧ c.toNat ≤ 57) ∨ (97 ≤ c.toNat ∧ c.toNat ≤ 102) ∨
      (65 ≤ c.toNat ∧ c.toNat ≤ 70) := by
    simp only [isHexDigit, Char.isDigit, Bool.or_eq_true, Bool.and_eq_true, decide_eq_true_eq,
      Char.le_def, UInt32.le_iff_toNat_le] at h
    have hd : c.val.toNat = c.toNat := rfl
    rw [hd] at h
    rcases h with (⟨h₁, h₂⟩ | ⟨h₁, h₂⟩) | ⟨h₁, h₂⟩
    · exact .inl ⟨h₁, h₂⟩
    · exact .inr (.inl ⟨h₁, h₂⟩)
    · exact .inr (.inr ⟨h₁, h₂⟩)
  rw [hc]
  generalize c.toNat = n at hrange
  rcases hrange with ⟨h₁, h₂⟩ | ⟨h₁, h₂⟩ | ⟨h₁, h₂⟩ <;> interval_cases n <;> decide

/-- What can be checked of the digits one by one holds of each of them. -/
theorem forall_isHexDigit {p : Char → Prop} [DecidablePred p]
    (hall : hexAlphabet.all (fun c => decide (p c)) = true) (c : Char) (h : isHexDigit c = true) :
    p c :=
  of_decide_eq_true (List.all_eq_true.1 hall c (mem_hexAlphabet h))

/-- What no character of an alphabet satisfies, no character of a text in it does. -/
theorem forall_eq_false_of_subset {p : Char → Bool} {alphabet cs : List Char}
    (h : cs ⊆ alphabet) (hp : alphabet.all (fun c => !p c) = true) : ∀ c ∈ cs, p c = false := by
  intro c hc
  simpa using List.all_eq_true.1 hp c (h hc)

theorem subset_hexAlphabet {cs : List Char} (h : ∀ c ∈ cs, isHexDigit c = true) :
    cs ⊆ hexAlphabet := fun c hc => mem_hexAlphabet (h c hc)

theorem prefixed_subset {cs : List Char} (h : ∀ c ∈ cs, isHexDigit c = true) :
    '0' :: 'x' :: cs ⊆ 'x' :: hexAlphabet := by
  have hdigits := List.subset_cons_of_subset 'x' (subset_hexAlphabet h)
  exact List.cons_subset.2 ⟨by decide, List.cons_subset.2 ⟨by decide, hdigits⟩⟩

/-- What no hexadecimal digit satisfies, no member of a run does. -/
theorem forall_eq_false_of_run {p : Char → Bool} {cs : List Char}
    (h : ∀ c ∈ cs, isHexDigit c = true) (hp : hexAlphabet.all (fun c => !p c) = true) :
    ∀ c ∈ cs, p c = false := forall_eq_false_of_subset (subset_hexAlphabet h) hp

/-- **A hexadecimal digit is its value's digit**, but for capitals. -/
theorem digitValue?_of_isHexDigit {c : Char} (h : isHexDigit c = true) :
    ∃ d < 16, digitValue? 16 c = some d ∧ d.digitChar = c.toLower := by
  have hall : ∀ c, isHexDigit c = true →
      ∃ d < 16, digitValue? 16 c = some d ∧ d.digitChar = c.toLower :=
    forall_isHexDigit (by decide)
  exact hall c h

theorem isHexDigit_of_isDigit {c : Char} (h : c.isDigit = true) : isHexDigit c = true := by
  simp [isHexDigit, h]

/-- A decimal digit has the same value in both bases. -/
theorem digitValue?_of_isDigit {c : Char} (h : c.isDigit = true) :
    ∃ d < 10, digitValue? 10 c = some d ∧ digitValue? 16 c = some d := by
  have hall : ∀ c, isHexDigit c = true → c.isDigit = true →
      ∃ d < 10, digitValue? 10 c = some d ∧ digitValue? 16 c = some d :=
    forall_isHexDigit (by decide)
  exact hall c (isHexDigit_of_isDigit h) h

/-! ## Numbers of runs -/

/-- The number that the digits of a text stand for. -/
def numeral (base : ℕ) (cs : List Char) : ℕ := ofDigits base (cs.filterMap (digitValue? base))

variable {base : ℕ} {cs : List Char}

theorem numeral_append_singleton (cs : List Char) {c : Char} {d : ℕ}
    (hc : digitValue? base c = some d) :
    numeral base (cs ++ [c]) = base * numeral base cs + d := by
  unfold numeral ofDigits
  simp only [List.filterMap_append, List.filterMap_cons_some hc, List.filterMap_nil,
    List.foldl_append, List.foldl_cons, List.foldl_nil]
  rw [Nat.mul_comm]

theorem readDigits?_of_run (hne : cs ≠ []) (h : ∀ c ∈ cs, (digitValue? base c).isSome) :
    readDigits? base cs = some (numeral base cs) := by
  have hvalues : cs.mapM (digitValue? base) = some (cs.filterMap (digitValue? base)) := by
    clear hne
    induction cs with
    | nil => rfl
    | cons c rest ih =>
      obtain ⟨d, hd⟩ := Option.isSome_iff_exists.1 (h c List.mem_cons_self)
      rw [List.mapM_cons, hd, ih fun c hc => h c (List.mem_cons_of_mem _ hc),
        List.filterMap_cons_some hd]
      rfl
  unfold readDigits?
  rw [hvalues, if_neg (by simpa using hne)]
  rfl

/-- A run of digits is read as its number, if that fits. -/
theorem readUnsigned?_of_run (bits : ℕ) (hne : cs ≠ [])
    (h : ∀ c ∈ cs, (digitValue? base c).isSome) :
    readUnsigned? base bits cs = (some (numeral base cs)).filter (· < 2 ^ bits) := by
  have hplus : ∀ rest, cs ≠ '+' :: rest := by
    rintro rest rfl
    have hp : digitValue? base '+' = none := by simp [digitValue?]
    have := h '+' List.mem_cons_self
    rw [hp] at this
    cases this
  have hdigits : readUnsigned? base bits cs = (readDigits? base cs).filter (· < 1 <<< bits) := by
    unfold readUnsigned?
    split
    · rename_i rest
      exact absurd rfl (hplus rest)
    · rfl
  rw [hdigits, readDigits?_of_run hne h, Nat.one_shiftLeft]

/-! ## Hexadecimal runs -/

theorem digitValue?_isSome_of_isHexDigit (h : ∀ c ∈ cs, isHexDigit c = true) :
    ∀ c ∈ cs, (digitValue? 16 c).isSome := by
  intro c hc
  obtain ⟨d, -, hd, -⟩ := digitValue?_of_isHexDigit (h c hc)
  rw [hd]
  rfl

/-- A run is below the power of its length. -/
theorem numeral_lt_pow (h : ∀ c ∈ cs, isHexDigit c = true) : numeral 16 cs < 16 ^ cs.length := by
  induction cs using List.reverseRecOn with
  | nil => decide
  | append_singleton cs c ih =>
    have ih := ih fun c hc => h c (List.mem_append_left _ hc)
    obtain ⟨d, hd, hv, -⟩ := digitValue?_of_isHexDigit (h c (by simp))
    rw [numeral_append_singleton _ hv, List.length_append, List.length_singleton, pow_succ]
    omega

/-- **Without capitals and leading zeros, a hexadecimal run is the text of its number**; of
zero nothing is left. -/
theorem dropWhile_zero_asciiLower (h : ∀ c ∈ cs, isHexDigit c = true) :
    (asciiLower cs).dropWhile (· == '0') =
      if numeral 16 cs = 0 then [] else hexDigits (numeral 16 cs) := by
  unfold asciiLower hexDigits
  -- digits are added at the end, as in the number's text
  induction cs using List.reverseRecOn with
  | nil => rfl
  | append_singleton cs c ih =>
    have ih := ih fun c hc => h c (List.mem_append_left _ hc)
    obtain ⟨d, hd, hv, hchar⟩ := digitValue?_of_isHexDigit (h c (by simp))
    have hdigit : Nat.toDigits 16 d = [c.toLower] := by rw [Nat.toDigits_of_lt_base hd, hchar]
    rw [numeral_append_singleton _ hv, List.map_append, List.map_singleton, ← hdigit,
      List.dropWhile_append, ih]
    by_cases hzero : numeral 16 cs = 0
    · have hzero? : (d.digitChar == '0') = decide (d = 0) := by
        interval_cases d <;> decide
      rw [if_pos hzero, hzero, Nat.toDigits_of_lt_base hd]
      by_cases h0 : d = 0 <;> simp [hzero?, h0, Nat.toDigits_of_lt_base hd]
    · have hpos : 0 < numeral 16 cs := Nat.pos_of_ne_zero hzero
      have hne : ¬ (Nat.toDigits 16 (numeral 16 cs)).isEmpty = true := by
        simp [Nat.toDigits_ne_nil]
      rw [if_neg hzero, if_neg hne, if_neg (by omega : ¬ 16 * numeral 16 cs + d = 0),
        Nat.toDigits_append_toDigits (by omega) hpos hd]

/-- What can be checked of the digits one by one holds of each digit of a number. -/
theorem forall_mem_hexDigits {p : Char → Prop} (hdigit : ∀ d < 16, p d.digitChar) (n : ℕ) :
    ∀ c ∈ hexDigits n, p c := by
  unfold hexDigits
  induction n using Nat.strongRecOn with
  | ind n ih =>
    rw [Nat.toDigits_eq_if (by omega)]
    split
    · rename_i hn
      exact List.forall_mem_singleton.2 (hdigit n hn)
    · exact List.forall_mem_append.2 ⟨ih (n / 16) (Nat.div_lt_self (by omega) (by omega)),
        List.forall_mem_singleton.2 (hdigit (n % 16) (Nat.mod_lt n (by omega)))⟩

/-- The digits of a number are hexadecimal ones. -/
theorem isHexDigit_of_mem_hexDigits {n : ℕ} {c : Char} (h : c ∈ hexDigits n) :
    isHexDigit c = true :=
  forall_mem_hexDigits (p := (isHexDigit · = true)) (by decide) n c h

/-- The text of a number takes one byte a digit. -/
theorem byteLength_hexDigits (n : ℕ) : byteLength (hexDigits n) = (hexDigits n).length := by
  have hsize : ∀ c, isHexDigit c = true → c.utf8Size = 1 := forall_isHexDigit (by decide)
  have hmap : (hexDigits n).map Char.utf8Size = (hexDigits n).map fun _ => 1 :=
    List.map_congr_left fun c hc => hsize c (isHexDigit_of_mem_hexDigits hc)
  unfold byteLength
  rw [hmap, ← List.sum_eq_foldr]
  simp

/-- **What a run of decimal digits is worth in base sixteen follows from what it is worth in
base ten.** -/
theorem numeral_sixteen_eq (h : ∀ c ∈ cs, c.isDigit = true) :
    numeral 16 cs = numeral 16 (Nat.toDigits 10 (numeral 10 cs)) := by
  have hdigit : ∀ d < 10, digitValue? 16 d.digitChar = some d := by decide
  induction cs using List.reverseRecOn with
  | nil => rfl
  | append_singleton cs c ih =>
    have ih := ih fun c hc => h c (List.mem_append_left _ hc)
    obtain ⟨d, hd, hten, hsixteen⟩ := digitValue?_of_isDigit (h c (by simp))
    rw [numeral_append_singleton _ hten, numeral_append_singleton _ hsixteen, ih]
    rcases Nat.eq_zero_or_pos (numeral 10 cs) with hzero | hpos
    · rw [hzero, Nat.mul_zero, Nat.zero_add, Nat.toDigits_of_lt_base hd]
      exact (numeral_append_singleton [] (hdigit d hd)).symm
    · rw [← Nat.toDigits_append_toDigits (by omega) hpos hd, Nat.toDigits_of_lt_base hd,
        numeral_append_singleton _ (hdigit d hd)]

/-- The text of a number is a run of that number. -/
theorem numeral_toDigits (hone : 1 < base) (hbase : base ≤ 16) (n : ℕ) :
    numeral base (Nat.toDigits base n) = n := by
  have hdigit : ∀ b ≤ 16, ∀ d < b, digitValue? b d.digitChar = some d := by decide
  induction n using Nat.strongRecOn with
  | ind n ih =>
    have hrest := Nat.mod_lt n (by omega : base > 0)
    rw [Nat.toDigits_eq_if hone]
    split
    · rename_i hn
      have hsingle := numeral_append_singleton [] (hdigit base hbase n hn)
      simpa [numeral, ofDigits] using hsingle
    · rw [numeral_append_singleton _ (hdigit base hbase (n % base) hrest),
        ih (n / base) (Nat.div_lt_self (by omega) hone)]
      exact Nat.div_add_mod n base

theorem numeral_hexDigits (n : ℕ) : numeral 16 (hexDigits n) = n :=
  numeral_toDigits (by decide) le_rfl n

theorem hexDigits_inj {m n : ℕ} : hexDigits m = hexDigits n ↔ m = n := by
  refine ⟨fun h => ?_, congrArg hexDigits⟩
  rw [← numeral_hexDigits m, h, numeral_hexDigits]

/-! ## Decimal runs -/

theorem digitValue?_isSome_of_isDigit (h : ∀ c ∈ cs, c.isDigit = true) :
    ∀ c ∈ cs, (digitValue? 10 c).isSome := by
  intro c hc
  obtain ⟨d, -, hd, -⟩ := digitValue?_of_isDigit (h c hc)
  rw [hd]
  rfl

theorem isDigit_of_mem_toDigits {n : ℕ} {c : Char} (h : c ∈ Nat.toDigits 10 n) :
    c.isDigit = true := Nat.isDigit_of_mem_toDigits (by decide) (by decide) h

theorem isHexDigit_of_mem_toDigits (n : ℕ) : ∀ c ∈ Nat.toDigits 10 n, isHexDigit c = true :=
  fun _ h => isHexDigit_of_isDigit (isDigit_of_mem_toDigits h)

/-- The decimal text of a number is read as the number. -/
theorem readDigits?_toDigits (n : ℕ) : readDigits? 10 (Nat.toDigits 10 n) = some n := by
  rw [readDigits?_of_run Nat.toDigits_ne_nil
    (digitValue?_isSome_of_isDigit fun _ => isDigit_of_mem_toDigits),
    numeral_toDigits (by decide) (by decide)]

/-- A run of decimal digits is worth at least as much in base sixteen as in base ten. -/
theorem numeral_ten_le_sixteen (h : ∀ c ∈ cs, c.isDigit = true) :
    numeral 10 cs ≤ numeral 16 cs := by
  induction cs using List.reverseRecOn with
  | nil => exact le_rfl
  | append_singleton cs c ih =>
    have ih := ih fun c hc => h c (List.mem_append_left _ hc)
    obtain ⟨d, -, hten, hsixteen⟩ := digitValue?_of_isDigit (h c (by simp))
    rw [numeral_append_singleton _ hten, numeral_append_singleton _ hsixteen]
    omega

/-- Read in base sixteen, the decimal text of a number is the text of what it is worth there. -/
theorem hexDigits_numeral_toDigits (n : ℕ) :
    hexDigits (numeral 16 (Nat.toDigits 10 n)) = Nat.toDigits 10 n := by
  have hdigit : ∀ d < 10, numeral 16 [d.digitChar] = d := by decide
  have hvalue : ∀ d < 10, digitValue? 16 d.digitChar = some d := by decide
  unfold hexDigits
  induction n using Nat.strongRecOn with
  | ind n ih =>
    rw [Nat.toDigits_eq_if (b := 10) (n := n) (by omega)]
    split
    · rename_i hn
      rw [hdigit n hn, Nat.toDigits_of_lt_base (by omega)]
    · rename_i hn
      have hlast : n % 10 < 10 := Nat.mod_lt n (by omega)
      have hpos : 0 < numeral 16 (Nat.toDigits 10 (n / 10)) := by
        have hle := numeral_ten_le_sixteen fun _ => isDigit_of_mem_toDigits (n := n / 10)
        rw [numeral_toDigits (by decide) (by decide)] at hle
        omega
      rw [numeral_append_singleton _ (hvalue _ hlast),
        ← Nat.toDigits_append_toDigits (by omega) hpos (by omega),
        ih _ (Nat.div_lt_self (by omega) (by omega)),
        Nat.toDigits_of_lt_base (show n % 10 < 16 by omega)]

/-- **A run of decimal digits has one text in both bases**: what it is worth in base ten is
printed in base ten as what it is worth in base sixteen is in base sixteen. -/
theorem hexDigits_numeral_eq_toDigits (h : ∀ c ∈ cs, c.isDigit = true) :
    hexDigits (numeral 16 cs) = Nat.toDigits 10 (numeral 10 cs) := by
  rw [numeral_sixteen_eq h, hexDigits_numeral_toDigits]

theorem readUnsigned?_toDigits {n bits : ℕ} (h : n < 2 ^ bits) :
    readUnsigned? 10 bits (Nat.toDigits 10 n) = some n := by
  rw [readUnsigned?_of_run bits Nat.toDigits_ne_nil
    (digitValue?_isSome_of_isDigit fun _ => isDigit_of_mem_toDigits),
    numeral_toDigits (by decide) (by decide)]
  exact Option.filter_eq_some_iff.2 ⟨rfl, decide_eq_true h⟩

/-- Decimal digits do not begin with a sign. -/
theorem run_ne_cons (h : ∀ c ∈ cs, c.isDigit = true) {sign : Char} (hsign : sign.isDigit = false)
    (rest : List Char) : cs ≠ sign :: rest := by
  rintro rfl
  rw [h sign List.mem_cons_self] at hsign
  cases hsign

/-- Decimal digits are read as their number, if that fits. -/
theorem readInt64?_of_run (hne : cs ≠ []) (h : ∀ c ∈ cs, c.isDigit = true) :
    readInt64? cs = (some (numeral 10 cs : ℤ)).filter fun n => -2 ^ 63 ≤ n ∧ n < 2 ^ 63 := by
  unfold readInt64?
  split
  · rename_i rest
    exact absurd rfl (run_ne_cons h (by decide) rest)
  · rename_i rest
    exact absurd rfl (run_ne_cons h (by decide) rest)
  · rw [readDigits?_of_run hne (digitValue?_isSome_of_isDigit h)]
    rfl

/-- Behind a minus sign they are read as its negative. -/
theorem readInt64?_minus_run (hne : cs ≠ []) (h : ∀ c ∈ cs, c.isDigit = true) :
    readInt64? ('-' :: cs) =
      (some (-(numeral 10 cs : ℤ))).filter fun n => -2 ^ 63 ≤ n ∧ n < 2 ^ 63 := by
  unfold readInt64?
  simp only [readDigits?_of_run hne (digitValue?_isSome_of_isDigit h)]
  rfl

/-- Decimal digits with any number of leading zeros. -/
structure DecimalRun where
  digits : List Char
  ne_nil : digits ≠ [] := by decide
  allDigits : digits.all Char.isDigit = true := by decide

namespace DecimalRun

variable (r : DecimalRun)

/-- The number that is printed. -/
def value : ℕ := numeral 10 r.digits

theorem isDigit_of_mem : ∀ c ∈ r.digits, c.isDigit = true := List.all_eq_true.1 r.allDigits

theorem isHexDigit_of_mem : ∀ c ∈ r.digits, isHexDigit c = true :=
  fun c hc => isHexDigit_of_isDigit (r.isDigit_of_mem c hc)

/-- What no digit satisfies, none of the run does. -/
theorem eq_false_of_mem {p : Char → Bool} (hp : hexAlphabet.all (fun c => !p c) = true) :
    ∀ c ∈ r.digits, p c = false := forall_eq_false_of_run r.isHexDigit_of_mem hp

theorem notMem {c : Char} (hc : c.isDigit = false) : c ∉ r.digits := by
  intro hmem
  rw [r.isDigit_of_mem c hmem] at hc
  cases hc

theorem trim_digits : trim r.digits = r.digits :=
  trimWhere_of_forall (r.eq_false_of_mem (by decide))

/-- The text of a number. -/
def ofNat (n : ℕ) : DecimalRun where
  digits := Nat.toDigits 10 n
  ne_nil h := Nat.toDigits_ne_nil h
  allDigits := List.all_eq_true.2 fun _ => isDigit_of_mem_toDigits

end DecimalRun

/-! ## Leading zeros -/

theorem numeral_zero_cons (hbase : 0 < base) (cs : List Char) :
    numeral base ('0' :: cs) = numeral base cs := by
  have hzero : digitValue? base '0' = some 0 := by simp [digitValue?, hbase]
  unfold numeral ofDigits
  rw [List.filterMap_cons_some hzero, List.foldl_cons, Nat.zero_mul, Nat.add_zero]

theorem numeral_replicate_append (hbase : 0 < base) (k : ℕ) (cs : List Char) :
    numeral base (List.replicate k '0' ++ cs) = numeral base cs := by
  induction k with
  | zero => rfl
  | succ k ih => rw [List.replicate_succ, List.cons_append, numeral_zero_cons hbase, ih]

theorem numeral_dropWhile_zero (cs : List Char) :
    numeral 16 (cs.dropWhile (· == '0')) = numeral 16 cs := by
  induction cs with
  | nil => rfl
  | cons c cs ih =>
    rw [List.dropWhile_cons]
    split
    · rename_i hc
      rw [beq_iff_eq.1 hc, numeral_zero_cons (by decide), ih]
    · rfl

/-- **Behind its leading zeros, a run of a number below `16 ^ width` has at most `width`
digits.** -/
theorem length_dropWhile_zero_le (h : ∀ c ∈ cs, isHexDigit c = true) {width : ℕ}
    (hwidth : 0 < width) (hfit : numeral 16 cs < 16 ^ width) :
    (cs.dropWhile (· == '0')).length ≤ width := by
  have hsame : (asciiLower cs).dropWhile (· == '0') = asciiLower (cs.dropWhile (· == '0')) :=
    dropWhile_asciiLower (apply_toLower (by decide)) cs
  have hlen := congrArg List.length (hsame.symm.trans (dropWhile_zero_asciiLower h))
  unfold asciiLower at hlen
  rw [List.length_map] at hlen
  rw [hlen]
  split
  · exact Nat.zero_le width
  · exact Nat.toDigits_length 16 _ width hwidth hfit

theorem forall_mem_hexPadded {p : Char → Prop} (hdigit : ∀ d < 16, p d.digitChar)
    (width n : ℕ) : ∀ c ∈ hexPadded width n, p c := by
  refine List.forall_mem_append.2 ⟨fun c hc => ?_, forall_mem_hexDigits hdigit n⟩
  rw [List.eq_of_mem_replicate hc]
  exact hdigit 0 (by decide)

theorem isHexDigit_of_mem_hexPadded {width n : ℕ} {c : Char} (h : c ∈ hexPadded width n) :
    isHexDigit c = true :=
  forall_mem_hexPadded (p := (isHexDigit · = true)) (by decide) width n c h

/-- A number keeps its value when its digits are padded with zeros. -/
theorem numeral_hexPadded (width n : ℕ) : numeral 16 (hexPadded width n) = n :=
  (numeral_replicate_append (by decide) _ _).trans (numeral_hexDigits n)

theorem length_hexPadded {width n : ℕ} (hwidth : 0 < width) (hfit : n < 16 ^ width) :
    (hexPadded width n).length = width := by
  have hlen := Nat.toDigits_length 16 n width hwidth hfit
  unfold hexPadded hexDigits
  rw [List.length_append, List.length_replicate]
  omega

theorem hexPadded_ne_nil (width n : ℕ) : hexPadded width n ≠ [] :=
  List.append_ne_nil_of_right_ne_nil _ Nat.toDigits_ne_nil

end Postmortem.Text
