import Postmortem.Proofs.Address.Tokens
import Postmortem.Proofs.Text.Numerals

/-!
# Reading addresses

A run of hexadecimal digits is a single token without brackets, prefix, backticks or offset, so
all that reading an address removes of other texts stays here.

* `token?_of_plain`: a token without blanks and decorations is the token of its text.
* `read?_of_run`, `read?_of_prefixed_run`: a run whose number fits in 64 bits is read as the address
  with that number, with or without a prefix.
* `read?_hexPadded`: an address printed with sixteen digits is read back.
-/

namespace Postmortem.Address

open Text

variable {cs : List Char}

theorem hasPrefix_of_run (h : ∀ c ∈ cs, isHexDigit c = true) : hasPrefix cs = false := by
  unfold hasPrefix
  split
  · exact absurd (h 'x' (by simp)) (by decide)
  · exact absurd (h 'X' (by simp)) (by decide)
  · rfl

theorem body_of_run (h : ∀ c ∈ cs, isHexDigit c = true) : body cs = cs := by
  unfold body
  split
  · exact absurd (h 'x' (by simp)) (by decide)
  · exact absurd (h 'X' (by simp)) (by decide)
  · rfl

theorem joinHalves_of_run (h : ∀ c ∈ cs, isHexDigit c = true) : joinHalves cs = cs := by
  have hnone := forall_eq_false_of_run (p := (· == backtick)) h (by decide)
  exact List.filter_eq_self.2 fun c hc => by simpa using hnone c hc

theorem beforeOffset_of_run (h : ∀ c ∈ cs, isHexDigit c = true) : beforeOffset cs = cs := by
  have hnone := forall_eq_false_of_run (p := (· == '+')) h (by decide)
  exact List.takeWhile_eq_self_iff.2 fun c hc => by simpa using hnone c hc

theorem isHexRun_of_run (hne : cs ≠ []) (h : ∀ c ∈ cs, isHexDigit c = true) :
    isHexRun cs = true := by
  unfold isHexRun
  rw [List.all_eq_true.2 h, Bool.and_true]
  simpa using hne

/-- **A token without blanks and decorations is the token of its text.** -/
theorem token?_of_plain (hne : cs ≠ []) (hblank : ∀ c ∈ cs, isBlank c = false)
    (hplain : ∀ c ∈ cs, isDecoration c = false) (hplus : ∀ c ∈ cs, (c == '+') = false)
    (hlooks : looksLikeAddress cs = true) : token? cs = some cs := by
  have htokens : tokens cs = [] ++ cs :: [] := by
    rw [tokens_of_run hblank, trimWhere_of_forall hplain, if_neg hne, List.nil_append]
  have hoffset : beforeOffset cs = cs :=
    List.takeWhile_eq_self_iff.2 fun c hc => by simpa using hplus c hc
  rw [token?_of_tokens htokens hlooks (fun _ h => absurd h List.not_mem_nil) (.inr ⟨rfl, rfl⟩),
    hoffset]

/-- **The token of a run is the run.** -/
theorem token?_of_run (hne : cs ≠ []) (h : ∀ c ∈ cs, isHexDigit c = true) :
    token? cs = some cs := by
  have hlooks : looksLikeAddress cs = true := by
    unfold looksLikeAddress
    rw [joinHalves_of_run h, body_of_run h, beforeOffset_of_run h]
    exact isHexRun_of_run hne h
  -- no digit is a blank, a bracket or a decoration, so the run is its only token
  exact token?_of_plain hne (forall_eq_false_of_run h (by decide))
    (forall_eq_false_of_run h (by decide)) (forall_eq_false_of_run h (by decide)) hlooks

/-- **A token is read as the number of its digits**, unless that takes more than 64 bits. -/
theorem read?_of_token {token digits : List Char} (htoken : token? cs = some token)
    (hbody : body (joinHalves token) = digits) (hne : digits ≠ [])
    (h : ∀ c ∈ digits, isHexDigit c = true) : read? cs = ofNat? (numeral 16 digits) := by
  have hvalue := numeral_dropWhile_zero digits
  have hdigits : ∀ c ∈ digits.dropWhile (· == '0'), isHexDigit c = true :=
    fun c hc => h c ((List.dropWhile_suffix _).subset hc)
  -- a number fits iff sixteen digits are left without its leading zeros
  have hlength : (digits.dropWhile (· == '0')).length ≤ 16 ↔ numeral 16 digits < 2 ^ 64 := by
    refine ⟨fun hle => ?_, length_dropWhile_zero_le h (by decide : 0 < 16)⟩
    rw [← hvalue]
    exact (numeral_lt_pow hdigits).trans_le (Nat.pow_le_pow_right (by decide) hle)
  unfold read?
  rw [htoken]
  simp only [bind, Option.bind, hbody, isHexRun_of_run hne h, guard, if_true, pure]
  split
  · rename_i hzero
    rw [hzero] at hvalue
    rw [← hvalue]
    rfl
  · rename_i hsome
    have hread := readDigits?_of_run hsome (digitValue?_isSome_of_isHexDigit hdigits)
    by_cases hfit : numeral 16 digits < 2 ^ 64
    · rw [if_pos (hlength.2 hfit)]
      simp only [hread, hvalue]
    · rw [if_neg (mt hlength.1 hfit), ofNat?, if_neg hfit]
      rfl

theorem ofNat?_of_lt {n : ℕ} (h : n < 2 ^ 64) : ofNat? n = some ⟨UInt64.ofNat n⟩ := if_pos h

/-- **A run whose number fits in 64 bits is read as the address with that number.** -/
theorem read?_of_run (hne : cs ≠ []) (h : ∀ c ∈ cs, isHexDigit c = true)
    (hfit : numeral 16 cs < 2 ^ 64) : read? cs = some ⟨UInt64.ofNat (numeral 16 cs)⟩ := by
  rw [← ofNat?_of_lt hfit]
  refine read?_of_token (token?_of_run hne h) ?_ hne h
  rw [joinHalves_of_run h, body_of_run h]

/-- **A prefix `0x` in front of a run does not matter.** -/
theorem read?_of_prefixed_run (hne : cs ≠ []) (h : ∀ c ∈ cs, isHexDigit c = true)
    (hfit : numeral 16 cs < 2 ^ 64) :
    read? ('0' :: 'x' :: cs) = some ⟨UInt64.ofNat (numeral 16 cs)⟩ := by
  have hmember : ∀ {p : Char → Bool}, ('x' :: hexAlphabet).all (fun c => !p c) = true →
      ∀ c ∈ '0' :: 'x' :: cs, p c = false := forall_eq_false_of_subset (prefixed_subset h)
  have hjoin : joinHalves ('0' :: 'x' :: cs) = '0' :: 'x' :: cs := by
    have hnone := hmember (p := (· == backtick)) (by decide)
    exact List.filter_eq_self.2 fun c hc => by simpa using hnone c hc
  have hlooks : looksLikeAddress ('0' :: 'x' :: cs) = true := by
    unfold looksLikeAddress
    rw [hjoin]
    show isHexRun (beforeOffset cs) = true
    rw [beforeOffset_of_run h]
    exact isHexRun_of_run hne h
  rw [← ofNat?_of_lt hfit]
  refine read?_of_token (token?_of_plain (List.cons_ne_nil _ _) (hmember (by decide))
    (hmember (by decide)) (hmember (by decide)) hlooks) ?_ hne h
  rw [hjoin]
  rfl

/-- **An address printed with sixteen digits is read back.** -/
theorem read?_hexPadded (a : Address) : read? (hexPadded 16 a.toNat) = some a := by
  have hvalue := numeral_hexPadded 16 a.toNat
  have hfit : numeral 16 (hexPadded 16 a.toNat) < 2 ^ 64 := by
    rw [hvalue]
    exact a.value.toNat_lt
  rw [read?_of_run (hexPadded_ne_nil 16 _) (fun _ => isHexDigit_of_mem_hexPadded) hfit, hvalue]
  exact congrArg (fun value => some (Address.mk value)) UInt64.ofNat_toNat

end Postmortem.Address
