import Mathlib.Tactic
import Postmortem.Proofs.Stack.Rank

/-!
# Estimates between ascending ranks

Where the known ranks of a list of frames never decrease (`Ascending`), the estimates
between and beyond them never decrease either. An estimate stays between the known ranks
around it (`Ascending.estimate_bounds`), so two positions with a known rank between them
are in order. Two positions without one have the same known ranks around them, and their
estimates lie on one straight line.

* `interpolate_eq`: between ascending ranks, interpolation is a division that rounds down.
* `Ascending.estimate_mono`: **estimates ascend with their positions.**
-/

namespace Postmortem

/-- The first member of a list that satisfies `p` comes before all others that do. -/
theorem eq_or_of_find?_eq_some {α : Type} {R : α → α → Prop} {p : α → Bool} {l : List α} {a : α}
    (hl : l.Pairwise R) (h : l.find? p = some a) : ∀ b ∈ l, p b = true → b = a ∨ R a b := by
  intro b hb hpb
  obtain ⟨-, start, rest, rfl, hstart⟩ := List.find?_eq_some_iff_append.1 h
  rcases List.mem_append.1 hb with hb | hb
  · have hnot := hstart b hb
    rw [hpb] at hnot
    cases hnot
  · rcases List.mem_cons.1 hb with rfl | hb
    · exact .inl rfl
    · exact .inr ((List.pairwise_cons.1 (List.pairwise_append.1 hl).2.1).1 b hb)

namespace StackLayout

/-- **Known ranks that never decrease**, listed by position. -/
structure Ascending (known : List (ℕ × ℕ)) : Prop where
  listed : known.Pairwise fun p q => p.1 < q.1
  mono : ∀ p ∈ known, ∀ q ∈ known, p.1 ≤ q.1 → p.2 ≤ q.2
  le_max : ∀ p ∈ known, p.2 ≤ maxAddress

variable {layout : StackLayout} {known : List (ℕ × ℕ)} {i j e : ℕ}

/-! ## The known ranks around a position -/

/-- The last known rank that does not come behind a position. -/
def before? (known : List (ℕ × ℕ)) (i : ℕ) : Option (ℕ × ℕ) :=
  known.reverse.find? fun p => p.1 ≤ i

/-- The first known rank that does not come before a position. -/
def behind? (known : List (ℕ × ℕ)) (i : ℕ) : Option (ℕ × ℕ) :=
  known.find? fun p => i ≤ p.1

theorem estimate_eq (known : List (ℕ × ℕ)) (i : ℕ) : layout.estimate known i =
    match before? known i, behind? known i with
    | some (i₁, r₁), some (i₂, r₂) =>
      if i₁ = i₂ then some r₁ else some (interpolate i₁ r₁ i₂ r₂ i)
    | some (i₁, r₁), none => some (min (r₁ + layout.stride * (i - i₁)) maxAddress)
    | none, some (i₂, r₂) => some (r₂ - layout.stride * (i₂ - i))
    | none, none => none := rfl

theorem Ascending.before?_eq_some (h : Ascending known) {p : ℕ × ℕ}
    (hp : before? known i = some p) :
    p ∈ known ∧ p.1 ≤ i ∧ ∀ q ∈ known, q.1 ≤ i → q.2 ≤ p.2 := by
  have hmem : p ∈ known := List.mem_reverse.1 (List.mem_of_find?_eq_some hp)
  have hpi := List.find?_some hp
  refine ⟨hmem, of_decide_eq_true hpi, fun q hq hqi => ?_⟩
  have hlast := eq_or_of_find?_eq_some (List.pairwise_reverse.2 h.listed) hp q
    (List.mem_reverse.2 hq) (decide_eq_true hqi)
  rcases hlast with rfl | hlt
  · exact le_rfl
  · exact h.mono q hq p hmem hlt.le

theorem Ascending.behind?_eq_some (h : Ascending known) {p : ℕ × ℕ}
    (hp : behind? known i = some p) :
    p ∈ known ∧ i ≤ p.1 ∧ ∀ q ∈ known, i ≤ q.1 → p.2 ≤ q.2 := by
  have hmem : p ∈ known := List.mem_of_find?_eq_some hp
  have hip := List.find?_some hp
  refine ⟨hmem, of_decide_eq_true hip, fun q hq hiq => ?_⟩
  rcases eq_or_of_find?_eq_some h.listed hp q hq (decide_eq_true hiq) with rfl | hlt
  · exact le_rfl
  · exact h.mono p hmem q hq hlt.le

theorem lt_of_before?_eq_none (h : before? known i = none) {q : ℕ × ℕ} (hq : q ∈ known) :
    i < q.1 := by
  simpa using List.find?_eq_none.1 h q (List.mem_reverse.2 hq)

theorem lt_of_behind?_eq_none (h : behind? known i = none) {q : ℕ × ℕ} (hq : q ∈ known) :
    q.1 < i := by
  simpa using List.find?_eq_none.1 h q hq

/-! ## Interpolation -/

section Interpolation

variable {i₁ r₁ i₂ r₂ : ℕ}

/-- **Between ascending ranks, interpolation is a division that rounds down.** -/
theorem interpolate_eq (h₁ : i₁ ≤ i) (h₂ : i ≤ i₂) (hlt : i₁ < i₂) (hr : r₁ ≤ r₂)
    (hmax : r₂ ≤ maxAddress) :
    interpolate i₁ r₁ i₂ r₂ i = r₁ + (r₂ - r₁) * (i - i₁) / (i₂ - i₁) := by
  have hspan : (r₂ - r₁) * (i - i₁) / (i₂ - i₁) ≤ r₂ - r₁ := by
    calc (r₂ - r₁) * (i - i₁) / (i₂ - i₁)
        ≤ (r₂ - r₁) * (i₂ - i₁) / (i₂ - i₁) :=
          Nat.div_le_div_right (Nat.mul_le_mul_left _ (by omega))
      _ = r₂ - r₁ := Nat.mul_div_cancel _ (by omega)
  -- nothing is negative, so the integers are natural numbers
  have hvalue : (r₁ : ℤ) + (((r₂ : ℤ) - r₁) * ((i : ℤ) - i₁)).tdiv ((i₂ : ℤ) - i₁) =
      ((r₁ + (r₂ - r₁) * (i - i₁) / (i₂ - i₁) : ℕ) : ℤ) := by
    rw [← Int.ofNat_sub hr, ← Int.ofNat_sub h₁, ← Int.ofNat_sub hlt.le, ← Int.natCast_mul,
      ← Int.ofNat_tdiv, ← Int.natCast_add]
  unfold interpolate
  simp only [hvalue, Int.toNat_natCast]
  exact Nat.min_eq_left (by omega)

theorem interpolate_mono (h₁ : i₁ ≤ i) (hij : i ≤ j) (h₂ : j ≤ i₂) (hlt : i₁ < i₂) (hr : r₁ ≤ r₂)
    (hmax : r₂ ≤ maxAddress) : interpolate i₁ r₁ i₂ r₂ i ≤ interpolate i₁ r₁ i₂ r₂ j := by
  rw [interpolate_eq h₁ (hij.trans h₂) hlt hr hmax, interpolate_eq (h₁.trans hij) h₂ hlt hr hmax]
  have hle : (r₂ - r₁) * (i - i₁) / (i₂ - i₁) ≤ (r₂ - r₁) * (j - i₁) / (i₂ - i₁) :=
    Nat.div_le_div_right (Nat.mul_le_mul_left _ (by omega))
  omega

theorem interpolate_bounds (h₁ : i₁ ≤ i) (h₂ : i ≤ i₂) (hlt : i₁ < i₂) (hr : r₁ ≤ r₂)
    (hmax : r₂ ≤ maxAddress) :
    r₁ ≤ interpolate i₁ r₁ i₂ r₂ i ∧ interpolate i₁ r₁ i₂ r₂ i ≤ r₂ := by
  have hend : interpolate i₁ r₁ i₂ r₂ i₂ = r₂ := by
    rw [interpolate_eq hlt.le le_rfl hlt hr hmax, Nat.mul_div_cancel _ (by omega)]
    omega
  have hle := interpolate_mono h₁ h₂ le_rfl hlt hr hmax
  rw [hend] at hle
  refine ⟨?_, hle⟩
  rw [interpolate_eq h₁ h₂ hlt hr hmax]
  exact Nat.le_add_right _ _

end Interpolation

/-! ## Estimates -/

/-- **An estimate stays between the known ranks around it.** -/
theorem Ascending.estimate_bounds (h : Ascending known) (he : layout.estimate known i = some e) :
    (∀ p ∈ known, p.1 ≤ i → p.2 ≤ e) ∧ ∀ p ∈ known, i ≤ p.1 → e ≤ p.2 := by
  rw [estimate_eq] at he
  cases hb : before? known i with
  | none =>
    have hnone : ∀ p ∈ known, ¬ p.1 ≤ i := fun p hp => not_le.2 (lt_of_before?_eq_none hb hp)
    cases ha : behind? known i with
    | none => simp [hb, ha] at he
    | some q =>
      rw [hb, ha] at he
      obtain rfl := Option.some.inj he
      refine ⟨fun p hp hpi => absurd hpi (hnone p hp), fun p hp hip => ?_⟩
      exact (Nat.sub_le _ _).trans ((h.behind?_eq_some ha).2.2 p hp hip)
  | some p =>
    obtain ⟨hp, hpi, hbefore⟩ := h.before?_eq_some hb
    cases ha : behind? known i with
    | none =>
      have hnone : ∀ q ∈ known, ¬ i ≤ q.1 := fun q hq => not_le.2 (lt_of_behind?_eq_none ha hq)
      rw [hb, ha] at he
      obtain rfl := Option.some.inj he
      refine ⟨fun q hq hqi => ?_, fun q hq hiq => absurd hiq (hnone q hq)⟩
      exact le_min ((hbefore q hq hqi).trans (Nat.le_add_right _ _)) (h.le_max q hq)
    | some q =>
      obtain ⟨hq, hiq, hbehind⟩ := h.behind?_eq_some ha
      have hrank : p.2 ≤ q.2 := h.mono p hp q hq (hpi.trans hiq)
      have hbounds : p.2 ≤ e ∧ e ≤ q.2 := by
        rw [hb, ha] at he
        by_cases heq : p.1 = q.1
        · simp only [if_pos heq] at he
          obtain rfl := Option.some.inj he
          exact ⟨le_rfl, hrank⟩
        · simp only [if_neg heq] at he
          obtain rfl := Option.some.inj he
          exact interpolate_bounds hpi hiq (lt_of_le_of_ne (hpi.trans hiq) heq) hrank
            (h.le_max q hq)
      exact ⟨fun o ho hoi => (hbefore o ho hoi).trans hbounds.1,
        fun o ho hio => hbounds.2.trans (hbehind o ho hio)⟩

/-- Estimates between the same known ranks lie on one straight line. -/
theorem Ascending.estimate_mono_of_gap (h : Ascending known) {d : ℕ} (hij : i ≤ j)
    (hbefore : before? known i = before? known j)
    (hbehind : behind? known i = behind? known j)
    (hd : layout.estimate known i = some d) (he : layout.estimate known j = some e) : d ≤ e := by
  rw [estimate_eq, hbefore, hbehind] at hd
  rw [estimate_eq] at he
  cases hb : before? known j with
  | none =>
    cases ha : behind? known j with
    | none => simp [hb, ha] at he
    | some q =>
      rw [hb, ha] at hd he
      obtain rfl := Option.some.inj hd
      obtain rfl := Option.some.inj he
      have hfar : layout.stride * (q.1 - j) ≤ layout.stride * (q.1 - i) :=
        Nat.mul_le_mul_left _ (by omega)
      omega
  | some p =>
    cases ha : behind? known j with
    | none =>
      rw [hb, ha] at hd he
      obtain rfl := Option.some.inj hd
      obtain rfl := Option.some.inj he
      have hfar : layout.stride * (i - p.1) ≤ layout.stride * (j - p.1) :=
        Nat.mul_le_mul_left _ (by omega)
      exact min_le_min_right _ (Nat.add_le_add_left hfar _)
    | some q =>
      obtain ⟨hp, hpi, -⟩ := h.before?_eq_some (hbefore.trans hb)
      obtain ⟨hq, hjq, -⟩ := h.behind?_eq_some ha
      rw [hb, ha] at hd he
      by_cases heq : p.1 = q.1
      · simp only [if_pos heq] at hd he
        obtain rfl := Option.some.inj hd
        obtain rfl := Option.some.inj he
        exact le_rfl
      · have hlt : p.1 < q.1 := lt_of_le_of_ne (hpi.trans (hij.trans hjq)) heq
        simp only [if_neg heq] at hd he
        obtain rfl := Option.some.inj hd
        obtain rfl := Option.some.inj he
        exact interpolate_mono hpi hij hjq hlt (h.mono p hp q hq hlt.le) (h.le_max q hq)

/-- **Estimates ascend with their positions**, if the known ranks do. -/
theorem Ascending.estimate_mono (h : Ascending known) {d : ℕ} (hij : i ≤ j)
    (hd : layout.estimate known i = some d) (he : layout.estimate known j = some e) : d ≤ e := by
  by_cases hbetween : ∃ p ∈ known, i ≤ p.1 ∧ p.1 ≤ j
  · obtain ⟨p, hp, hip, hpj⟩ := hbetween
    exact ((h.estimate_bounds hd).2 p hp hip).trans ((h.estimate_bounds he).1 p hp hpj)
  · push Not at hbetween
    have hbefore : ∀ p ∈ known, decide (p.1 ≤ i) = decide (p.1 ≤ j) := by
      intro p hp
      have := hbetween p hp
      rw [decide_eq_decide]
      omega
    have hbehind : ∀ p ∈ known, decide (i ≤ p.1) = decide (j ≤ p.1) := by
      intro p hp
      have := hbetween p hp
      rw [decide_eq_decide]
      omega
    refine h.estimate_mono_of_gap hij ?_ ?_ hd he
    · exact List.find?_congr fun p hp => hbefore p (List.mem_reverse.1 hp)
    · exact List.find?_congr hbehind

end StackLayout

end Postmortem
