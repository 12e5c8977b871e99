import Mathlib.Tactic
import Postmortem.Thread.Id

/-!
# When two thread ids can be one

Ids are compared leniently, by tests that look at one side only. Nothing is assumed of an id
here: its text and its values may contradict one another.

* `isSame_iff`: two ids are taken for one another by their bare texts, by their values, or because
  one bare text lies within the other.
* `isSame_comm`: **it does not matter which of two ids is compared with the other.**
-/

namespace Postmortem

namespace Text

variable {s t : List Char}

theorem byteLength_append (s t : List Char) :
    byteLength (s ++ t) = byteLength s + byteLength t := by
  unfold byteLength
  rw [List.map_append, ← List.sum_eq_foldr, ← List.sum_eq_foldr, ← List.sum_eq_foldr,
    List.sum_append]

theorem eq_nil_of_byteLength_eq_zero (h : byteLength s = 0) : s = [] := by
  cases s with
  | nil => rfl
  | cons c cs =>
    have hpos := c.utf8Size_pos
    have hlen : byteLength (c :: cs) = c.utf8Size + byteLength cs := rfl
    omega

/-- A part of a text that is as long as the text is the text. -/
theorem eq_of_infix_of_byteLength_le (h : s <:+: t) (hle : byteLength t ≤ byteLength s) :
    s = t := by
  obtain ⟨front, behind, rfl⟩ := h
  rw [byteLength_append, byteLength_append] at hle
  rw [eq_nil_of_byteLength_eq_zero (s := front) (by omega),
    eq_nil_of_byteLength_eq_zero (s := behind) (by omega), List.nil_append, List.append_nil]

end Text

open Text

namespace ThreadId

/-- The first text is long enough to be recognised, and it is a part of the second. -/
def Within (s t : List Char) : Prop := minContainedLength ≤ byteLength s ∧ s <:+: t

theorem agree_iff {x y : Option ℕ} : agree x y = true ↔ ∃ n, x = some n ∧ y = some n := by
  unfold agree
  rw [Bool.and_eq_true, beq_iff_eq, Option.isSome_iff_exists]
  constructor
  · rintro ⟨⟨n, rfl⟩, rfl⟩
    exact ⟨n, rfl, rfl⟩
  · rintro ⟨n, rfl, rfl⟩
    exact ⟨⟨n, rfl⟩, rfl⟩

/-- Looking for the shorter text in the longer one finds either in the other. -/
theorem within_of_shorter_iff {s t : List Char} (h : byteLength s ≤ byteLength t) :
    (decide (minContainedLength ≤ byteLength s) && occursIn s t) = true ↔
      Within s t ∨ Within t s := by
  rw [Bool.and_eq_true, decide_eq_true_eq, occursIn_iff]
  refine ⟨.inl, ?_⟩
  rintro (hst | hts)
  · exact hst
  · obtain rfl := eq_of_infix_of_byteLength_le hts.2 h
    exact hts

/-- **When two ids are taken for one another.** -/
theorem isSame_iff {a b : ThreadId} : a.isSame b = true ↔
    (a.bareText ≠ [] ∧ a.bareText = b.bareText) ∨
    ((∃ n, a.hex = some n ∧ b.hex = some n) ∧
      (a.isExplicitHex = true ∨ b.isExplicitHex = true)) ∨
    (∃ n, a.decimal = some n ∧ b.decimal = some n) ∨
    (a.isExplicitHex = true ∧ ∃ n, a.hex = some n ∧ b.decimal = some n) ∨
    (b.isExplicitHex = true ∧ ∃ n, a.decimal = some n ∧ b.hex = some n) ∨
    Within a.bareText b.bareText ∨ Within b.bareText a.bareText := by
  have hwithin : ∀ pair, pair = (if byteLength a.bareText ≤ byteLength b.bareText
      then (a.bareText, b.bareText) else (b.bareText, a.bareText)) →
      ((decide (minContainedLength ≤ byteLength pair.1) && occursIn pair.1 pair.2) = true ↔
        Within a.bareText b.bareText ∨ Within b.bareText a.bareText) := by
    rintro _ rfl
    by_cases h : byteLength a.bareText ≤ byteLength b.bareText
    · rw [if_pos h, within_of_shorter_iff h]
    · rw [if_neg h, or_comm, within_of_shorter_iff (not_le.1 h).le]
  unfold isSame
  simp only [Bool.or_eq_true, hwithin _ rfl]
  simp only [Bool.and_eq_true, Bool.or_eq_true, agree_iff, beq_iff_eq, Bool.not_eq_true',
    List.isEmpty_eq_false_iff, or_assoc]

/-- Every test that two ids pass has its mirror image among the tests. -/
theorem isSame_symm {a b : ThreadId} (h : a.isSame b = true) : b.isSame a = true := by
  rw [isSame_iff] at h ⊢
  rcases h with ⟨hne, htext⟩ | ⟨⟨n, ha, hb⟩, hexplicit⟩ | ⟨n, ha, hb⟩ | ⟨hexplicit, n, ha, hb⟩ |
    ⟨hexplicit, n, ha, hb⟩ | hwithin | hwithin
  · exact .inl ⟨htext ▸ hne, htext.symm⟩
  · exact .inr (.inl ⟨⟨n, hb, ha⟩, hexplicit.symm⟩)
  · exact .inr (.inr (.inl ⟨n, hb, ha⟩))
  -- the number of one in base sixteen is that of the other in base ten
  · exact .inr (.inr (.inr (.inr (.inl ⟨hexplicit, n, hb, ha⟩))))
  · exact .inr (.inr (.inr (.inl ⟨hexplicit, n, hb, ha⟩)))
  · exact .inr (.inr (.inr (.inr (.inr (.inr hwithin)))))
  · exact .inr (.inr (.inr (.inr (.inr (.inl hwithin)))))

/-- **It does not matter which of two ids is compared with the other.** -/
theorem isSame_comm (a b : ThreadId) : a.isSame b = b.isSame a :=
  Bool.eq_iff_iff.2 ⟨isSame_symm, isSame_symm⟩

end ThreadId

end Postmortem
