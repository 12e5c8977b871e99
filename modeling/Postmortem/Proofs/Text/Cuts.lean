import Mathlib.Data.List.TakeWhile
import Mathlib.Tactic
import Postmortem.Text.Search

/-!
# Cutting texts

A text is cut at the first occurrence of a pattern, or at the last one. An occurrence is the
first one iff none ends earlier, so what stands before a cut does not hold the pattern, even if
all of the pattern but its last character follows. Likewise it is the last one iff none begins
later.

* `cutAt?_eq_none_iff`, `cutAt?_eq_some_iff`: **when a text is cut, and where.**
* `cutAtLast?_append_append`: **where a text is cut at the last occurrence.**
* `behindLast_append`, `cutAtLast?_append`: what stands around the last mark.
-/

namespace Postmortem.Text

variable {p : Char → Bool} {c : Char} {pattern cs w before behind : List Char}

/-! ## Patterns in longer texts -/

/-- A pattern does not reach over a character that it does not have. -/
theorem infix_append_cons (hc : c ∉ pattern) (h : pattern <:+: before ++ c :: behind) :
    pattern <:+: before ∨ pattern <:+: behind := by
  rcases List.infix_append_iff.1 h with h | h | ⟨front, back, rfl, hfront, hback⟩
  · exact .inl h
  · rcases List.infix_cons_iff.1 h with h | h
    · cases pattern with
      | nil => exact .inl (List.nil_infix)
      | cons d pattern =>
        rw [List.cons_prefix_cons] at h
        exact absurd (h.1 ▸ List.mem_cons_self) hc
    · exact .inr h
  · cases back with
    | nil =>
      rw [List.append_nil]
      exact .inl hfront.isInfix
    | cons d back =>
      rw [List.cons_prefix_cons] at hback
      exact absurd (hback.1 ▸ List.mem_append_right front List.mem_cons_self) hc

theorem infix_append_cons_iff (hc : c ∉ pattern) :
    pattern <:+: before ++ c :: behind ↔ pattern <:+: before ∨ pattern <:+: behind := by
  refine ⟨infix_append_cons hc, ?_⟩
  rintro (h | h)
  · exact h.trans (List.prefix_append _ _).isInfix
  · exact h.trans ((List.suffix_cons c behind).trans (List.suffix_append before _)).isInfix

/-! ## First occurrences -/

/-- A text is not cut iff it does not have the pattern. -/
theorem cutAt?_eq_none_iff : cutAt? pattern cs = none ↔ ¬ pattern <:+: cs := by
  rw [← occursIn_iff, Bool.not_eq_true]
  induction cs with
  | nil => cases pattern <;> simp [cutAt?, occursIn]
  | cons c cs ih =>
    unfold cutAt? occursIn
    split
    · rename_i hstart
      simp [hstart]
    · rename_i hstart
      simp [ih, hstart]

/-- What stands before a cut does not hold the pattern. -/
theorem not_infix_of_cutAt? (hne : pattern ≠ []) : ∀ {cs before behind : List Char},
    cutAt? pattern cs = some (before, behind) → ¬ pattern <:+: before ++ pattern.dropLast
  | [], before, behind, h => by
    unfold cutAt? at h
    rw [if_neg (by simpa using hne)] at h
    cases h
  | c :: cs, before, behind, h => by
    have hwhole := eq_of_cutAt? h
    unfold cutAt? at h
    split at h
    · obtain ⟨rfl, -⟩ := Prod.mk.inj (Option.some.inj h)
      intro hin
      have hlength := hin.length_le
      rw [List.nil_append, List.length_dropLast] at hlength
      have := List.length_pos_iff.2 hne
      omega
    · rename_i hstart
      obtain ⟨⟨start, rest⟩, hcut, hpair⟩ := Option.map_eq_some_iff.1 h
      obtain ⟨rfl, rfl⟩ := Prod.mk.inj hpair
      intro hin
      rcases List.infix_cons_iff.1 hin with hbegins | hin
      · -- the pattern would begin the text, and the text would be cut there
        have hfront : c :: (start ++ pattern.dropLast) <+: c :: cs := by
          rw [hwhole, List.append_assoc, List.cons_append, List.cons_prefix_cons,
            List.prefix_append_right_inj]
          exact ⟨rfl, (List.dropLast_prefix pattern).trans (List.prefix_append _ _)⟩
        exact hstart (List.isPrefixOf_iff_prefix.2 (hbegins.trans hfront))
      · exact not_infix_of_cutAt? hne hcut hin

/-- Of two occurrences that are first ones, none comes before the other. -/
theorem length_le_of_first {before' behind' : List Char}
    (h : cs = before ++ (pattern ++ behind)) (h' : cs = before' ++ (pattern ++ behind'))
    (hfirst : ¬ pattern <:+: before' ++ pattern.dropLast) : before'.length ≤ before.length := by
  by_contra hlt
  push Not at hlt
  have hearly : before ++ pattern <+: cs := by
    rw [h, ← List.append_assoc]
    exact List.prefix_append _ _
  have hlate : before' ++ pattern.dropLast <+: cs := by
    rw [h', List.prefix_append_right_inj]
    exact (List.dropLast_prefix pattern).trans (List.prefix_append _ _)
  have hin : before ++ pattern <+: before' ++ pattern.dropLast := by
    refine List.prefix_of_prefix_length_le hearly hlate ?_
    simp only [List.length_append, List.length_dropLast]
    omega
  exact hfirst ((List.suffix_append before pattern).isInfix.trans hin.isInfix)

/-- **A text is cut where a pattern occurs first.** -/
theorem cutAt?_eq_some_iff (hne : pattern ≠ []) : cutAt? pattern cs = some (before, behind) ↔
    cs = before ++ (pattern ++ behind) ∧ ¬ pattern <:+: before ++ pattern.dropLast := by
  constructor
  · intro h
    refine ⟨?_, not_infix_of_cutAt? hne h⟩
    rw [← List.append_assoc]
    exact eq_of_cutAt? h
  · rintro ⟨h, hfirst⟩
    cases hcut : cutAt? pattern cs with
    | none =>
      have hin : pattern <:+: cs := by
        rw [h]
        exact (List.prefix_append pattern behind).isInfix.trans (List.suffix_append _ _).isInfix
      exact absurd hin (cutAt?_eq_none_iff.1 hcut)
    | some parts =>
      obtain ⟨before', behind'⟩ := parts
      have h' : cs = before' ++ (pattern ++ behind') := by
        rw [← List.append_assoc]
        exact eq_of_cutAt? hcut
      have hlength : before.length = before'.length :=
        le_antisymm (length_le_of_first h' h hfirst)
          (length_le_of_first h h' (not_infix_of_cutAt? hne hcut))
      obtain ⟨rfl, hrest⟩ := List.append_inj (h.symm.trans h') hlength
      rw [List.append_cancel_left hrest]

/-- A cut in the front of a text is a cut in the text. -/
theorem cutAt?_append_of_eq_some (hne : pattern ≠ [])
    (h : cutAt? pattern cs = some (before, behind)) (rest : List Char) :
    cutAt? pattern (cs ++ rest) = some (before, behind ++ rest) := by
  obtain ⟨rfl, hfirst⟩ := (cutAt?_eq_some_iff hne).1 h
  refine (cutAt?_eq_some_iff hne).2 ⟨?_, hfirst⟩
  simp only [List.append_assoc]

/-! ## Last occurrences -/

/-- A text is not cut at its last pattern iff it has none. -/
theorem cutAtLast?_eq_none_iff : cutAtLast? pattern cs = none ↔ ¬ pattern <:+: cs := by
  rw [← occursIn_iff, Bool.not_eq_true]
  induction cs with
  | nil => cases pattern <;> simp [cutAtLast?, occursIn]
  | cons c cs ih =>
    unfold cutAtLast? occursIn
    cases hcut : cutAtLast? pattern cs with
    | some parts =>
      have hin : occursIn pattern cs = true := by simpa [hcut] using ih
      simp [hin]
    | none =>
      rw [ih.1 hcut]
      cases pattern.isPrefixOf (c :: cs) <;> simp

/-- A cut at the last pattern puts the pattern between its parts. -/
theorem eq_of_cutAtLast? {before behind : List Char}
    (h : cutAtLast? pattern cs = some (before, behind)) : cs = before ++ (pattern ++ behind) := by
  induction cs generalizing before behind with
  | nil =>
    unfold cutAtLast? at h
    split at h <;> simp_all
  | cons c cs ih =>
    unfold cutAtLast? at h
    split at h
    · rename_i start rest hcut
      obtain ⟨rfl, rfl⟩ := Prod.mk.inj (Option.some.inj h)
      rw [List.cons_append, ← ih hcut]
    · split at h
      · rename_i hstart
        obtain ⟨t, ht⟩ := List.isPrefixOf_iff_prefix.1 hstart
        obtain ⟨rfl, rfl⟩ := Prod.mk.inj (Option.some.inj h)
        rw [← ht, List.drop_left, List.nil_append]
      · cases h

/-- **A text is cut where a pattern occurs last**, that is, where none begins later. -/
theorem cutAtLast?_append_append (hne : pattern ≠ [])
    (hlast : ¬ pattern <:+: pattern.tail ++ behind) (before : List Char) :
    cutAtLast? pattern (before ++ (pattern ++ behind)) = some (before, behind) := by
  induction before with
  | nil =>
    cases pattern with
    | nil => exact absurd rfl hne
    | cons d pattern =>
      have hnone : cutAtLast? (d :: pattern) (pattern ++ behind) = none :=
        cutAtLast?_eq_none_iff.2 hlast
      have hstart : (d :: pattern).isPrefixOf (d :: (pattern ++ behind)) = true :=
        List.isPrefixOf_iff_prefix.2 (List.prefix_append (d :: pattern) behind)
      rw [List.nil_append, List.cons_append, cutAtLast?, hnone, hstart]
      simp
  | cons d before ih => rw [List.cons_append, cutAtLast?, ih]

/-! ## Last segments -/

/-- **What stands behind the last mark** is the run without marks at the end. -/
theorem behindLast_append (hc : p c = true) (hw : ∀ d ∈ w, p d = false) (cs : List Char) :
    behindLast p (cs ++ c :: w) = w := by
  have hrun : ∀ d ∈ w.reverse, (!p d) = true := by
    intro d hd
    rw [hw d (List.mem_reverse.1 hd)]
    rfl
  unfold behindLast
  rw [List.reverse_append, List.reverse_cons, List.append_assoc, List.singleton_append,
    List.takeWhile_append_of_pos hrun, List.takeWhile_cons_of_neg (by simp [hc]), List.append_nil,
    List.reverse_reverse]

/-- **A text is cut at its last mark.** -/
theorem cutAtLast?_append (hw : c ∉ w) (cs : List Char) :
    cutAtLast? [c] (cs ++ c :: w) = some (cs, w) :=
  cutAtLast?_append_append (List.cons_ne_nil c [])
    (fun h => hw ((List.singleton_infix_iff c w).1 h)) cs

theorem eq_false_of_mem_behindLast (h : c ∈ behindLast p cs) : p c = false := by
  have hc := List.mem_takeWhile_imp (List.mem_reverse.1 h)
  simpa using hc

end Postmortem.Text
