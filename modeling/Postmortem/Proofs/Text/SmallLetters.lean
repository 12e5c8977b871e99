import Postmortem.Proofs.Text.Words
import Postmortem.Text.Search

/-!
# Small letters

Texts are compared in small letters. Only the capitals of ASCII are changed (`toLower_eq_self`),
and there are few of them, so what can be checked of each capital holds of all
(`forall_isUpper`).

* `apply_toLower`: classes that hold both cases of every letter, or neither, are kept.
* `trim_asciiLower`: **a text can be trimmed before or after its capitals are made small.**
-/

namespace Postmortem.Text

variable {c : Char}

/-! ## Capitals -/

/-- The capitals of ASCII. -/
def capitals : List Char := "ABCDEFGHIJKLMNOPQRSTUVWXYZ".toList

theorem mem_capitals (h : c.isUpper = true) : c ∈ capitals := by
  have hrange : 65 ≤ c.toNat ∧ c.toNat ≤ 90 := by
    unfold Char.isUpper at h
    simp only [UInt32.le_iff_toNat_le, decide_eq_true_eq] at h
    exact h
  rw [← Char.ofNat_toNat c]
  generalize c.toNat = n at hrange
  obtain ⟨h₁, h₂⟩ := hrange
  interval_cases n <;> decide

/-- What can be checked of the capitals one by one holds of each of them. -/
theorem forall_isUpper {p : Char → Prop} [DecidablePred p]
    (hall : capitals.all (fun c => decide (p c)) = true) (c : Char) (h : c.isUpper = true) : p c :=
  of_decide_eq_true (List.all_eq_true.1 hall c (mem_capitals h))

theorem toLower_eq_self (h : c.isUpper = false) : c.toLower = c := by
  unfold Char.isUpper at h
  exact dif_neg (of_decide_eq_false h)

/-- What is no letter and no digit is no capital. -/
theorem toLower_of_isAlphanum_eq_false (h : c.isAlphanum = false) : c.toLower = c := by
  unfold Char.isAlphanum Char.isAlpha at h
  rw [Bool.or_eq_false_iff, Bool.or_eq_false_iff] at h
  exact toLower_eq_self h.1.1

/-- A class that holds both cases of every letter, or neither, is kept. -/
theorem apply_toLower {p : Char → Bool}
    (h : capitals.all (fun c => decide (p c.toLower = p c)) = true) (c : Char) :
    p c.toLower = p c := by
  cases hc : c.isUpper with
  | true => exact forall_isUpper h c hc
  | false => rw [toLower_eq_self hc]

/-- What is no letter is in a text iff it is in the text in small letters. -/
theorem mem_asciiLower_iff {cs : List Char}
    (h : capitals.all (fun d => decide ((d.toLower == c) = (d == c))) = true) :
    c ∈ asciiLower cs ↔ c ∈ cs := by
  unfold asciiLower
  rw [List.mem_map]
  have hkept : ∀ d : Char, d.toLower = c ↔ d = c := fun d => by
    rw [← beq_iff_eq, apply_toLower (p := (· == c)) h, beq_iff_eq]
  simp only [hkept, exists_eq_right]

theorem isBlank_toLower (c : Char) : isBlank c.toLower = isBlank c :=
  apply_toLower (by decide) c

/-! ## Edges -/

section Classes

variable {p : Char → Bool} (h : ∀ c, p c.toLower = p c) (cs : List Char)
include h

theorem dropWhile_asciiLower : (asciiLower cs).dropWhile p = asciiLower (cs.dropWhile p) := by
  have hp : p ∘ Char.toLower = p := funext h
  unfold asciiLower
  rw [List.dropWhile_map, hp]

/-- Members of a class are removed before or after capitals are made small. -/
theorem trimWhere_asciiLower : trimWhere p (asciiLower cs) = asciiLower (trimWhere p cs) := by
  have hreverse : ∀ w, (asciiLower w).reverse = asciiLower w.reverse :=
    fun _ => List.map_reverse.symm
  unfold trimWhere dropEndWhile
  rw [dropWhile_asciiLower h, hreverse, dropWhile_asciiLower h, hreverse]

end Classes

/-- **A text can be trimmed before or after its capitals are made small.** -/
theorem trim_asciiLower (cs : List Char) : trim (asciiLower cs) = asciiLower (trim cs) :=
  trimWhere_asciiLower isBlank_toLower cs

end Postmortem.Text
