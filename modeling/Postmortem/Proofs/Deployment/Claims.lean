import Mathlib.Data.Finset.Card
import Mathlib.Data.Finset.Dedup
import Mathlib.Tactic
import Postmortem.Deployment.Classification

/-!
# Texts claimed by patterns

The patterns of a table claim texts in turn: each takes one text that holds it and that none of the
patterns before it has taken, if there is one. Which one it takes depends on where the texts stand,
and so can what is left for the patterns behind it. `Claims` is such a run with the choices left
open, `claims_firstSightings` says that a search is one, and all that follows holds of any two runs.

A pattern finds a text iff more texts hold it than were taken among these. How many were taken is
known if every pattern before it that shares a text with it takes its text there (`SettledAt`); and
it does not matter if there are texts enough.

* `Claims.exists_before_of_notMem`: a pattern goes without a text only where patterns before it have
  taken all that hold it.
* `Claims.map_fst_eq`: **where patterns are settled, every run finds the same patterns.**
* `Claims.length_le`: **no run finds more than twice as many as another.**
-/

namespace Postmortem

variable {π τ : Type} {holds : π → τ → Bool} {texts claimed : Finset τ} {patterns before : List π}
  {found found' taken taken' : List (π × τ)} {p q : π}

section Runs

variable [DecidableEq τ]

/-- A run over a table: each pattern in turn takes a text that holds it and is not claimed, and goes
without one only if there is none. -/
inductive Claims (holds : π → τ → Bool) (texts : Finset τ) :
    (claimed : Finset τ) → List π → List (π × τ) → Prop where
  | nil (claimed : Finset τ) : Claims holds texts claimed [] []
  | take {claimed : Finset τ} {p : π} {ps : List π} {t : τ} {found : List (π × τ)} (mem : t ∈ texts)
      (holds_text : holds p t = true) (free : t ∉ claimed)
      (rest : Claims holds texts (insert t claimed) ps found) :
      Claims holds texts claimed (p :: ps) ((p, t) :: found)
  | pass {claimed : Finset τ} {p : π} {ps : List π} {found : List (π × τ)}
      (none_left : ∀ t ∈ texts, holds p t = true → t ∈ claimed)
      (rest : Claims holds texts claimed ps found) : Claims holds texts claimed (p :: ps) found

section Search

variable {σ : Type} {fragment : π → String} {text : σ → String} {sightings : List σ}
  {before : List String} {s : σ}

/-- What a pattern takes is a sighting that holds it and is not claimed. -/
theorem free_of_find?_eq_some
    (h : sightings.find? (fun s => mentions (text s) (fragment p) && !before.contains (text s)) =
      some s) :
    s ∈ sightings ∧ mentions (text s) (fragment p) = true ∧ text s ∉ before := by
  have hhit := List.find?_some h
  rw [Bool.and_eq_true, Bool.not_eq_true', List.contains_eq_mem, decide_eq_false_iff_not] at hhit
  exact ⟨List.mem_of_find?_eq_some h, hhit⟩

/-- A pattern takes nothing only if all texts that hold it are claimed. -/
theorem claimed_of_find?_eq_none
    (h : sightings.find? (fun s => mentions (text s) (fragment p) && !before.contains (text s)) =
      none) (hs : s ∈ sightings) (hholds : mentions (text s) (fragment p) = true) :
    text s ∈ before := by
  have hclaimed := List.find?_eq_none.1 h s hs
  simpa [hholds] using hclaimed

/-- **A search is a run**, whatever stands in front. -/
theorem claims_firstSightings (fragment : π → String) (text : σ → String) (sightings : List σ)
    (claimed : List String) (patterns : List π) :
    Claims (fun p t => mentions t (fragment p)) (sightings.map text).toFinset claimed.toFinset
      patterns ((firstSightings fragment text sightings claimed patterns).map
        fun hit => (hit.1, text hit.2)) := by
  induction patterns generalizing claimed with
  | nil => exact .nil _
  | cons p ps ih =>
    rw [firstSightings]
    split
    · rename_i s hs
      obtain ⟨hmem, hholds, hfree⟩ := free_of_find?_eq_some hs
      have hrest := ih (text s :: claimed)
      rw [List.toFinset_cons] at hrest
      refine .take (List.mem_toFinset.2 (List.mem_map_of_mem hmem)) hholds ?_ hrest
      rwa [List.mem_toFinset]
    · rename_i hnone
      refine .pass (fun t ht hholds => ?_) (ih claimed)
      obtain ⟨s, hs, rfl⟩ := List.mem_map.1 (List.mem_toFinset.1 ht)
      exact List.mem_toFinset.2 (claimed_of_find?_eq_none hnone hs hholds)

/-- What is found for a pattern is a sighting that holds it. -/
theorem mem_firstSightings {claimed : List String} {hit : π × σ}
    (h : hit ∈ firstSightings fragment text sightings claimed patterns) :
    hit.2 ∈ sightings ∧ mentions (text hit.2) (fragment hit.1) = true := by
  induction patterns generalizing claimed with
  | nil => cases h
  | cons p ps ih =>
    rw [firstSightings] at h
    split at h
    · rename_i s hs
      rcases List.mem_cons.1 h with rfl | h
      · obtain ⟨hmem, hholds, -⟩ := free_of_find?_eq_some hs
        exact ⟨hmem, hholds⟩
      · exact ih h
    · exact ih h

end Search

namespace Claims

theorem mem_texts (h : Claims holds texts claimed patterns found) {c : π × τ} (hc : c ∈ found) :
    c.2 ∈ texts ∧ holds c.1 c.2 = true ∧ c.2 ∉ claimed := by
  induction h with
  | nil claimed => cases hc
  | take mem holds_text free rest ih =>
    rcases List.mem_cons.1 hc with rfl | hc
    · exact ⟨mem, holds_text, free⟩
    · obtain ⟨hmem, hholds, hfree⟩ := ih hc
      exact ⟨hmem, hholds, fun h => hfree (Finset.mem_insert_of_mem h)⟩
  | pass none_left rest ih => exact ih hc

/-- The patterns that find a text stand in the order of the table. -/
theorem map_fst_sublist (h : Claims holds texts claimed patterns found) :
    (found.map Prod.fst).Sublist patterns := by
  induction h with
  | nil claimed => exact List.Sublist.refl []
  | take mem holds_text free rest ih => exact ih.cons_cons _
  | pass none_left rest ih => exact ih.cons _

/-- No more texts are taken than there are patterns. -/
theorem length_le_patterns (h : Claims holds texts claimed patterns found) :
    found.length ≤ patterns.length := by
  rw [← List.length_map Prod.fst]
  exact h.map_fst_sublist.length_le

/-- No text is taken twice. -/
theorem nodup_map_snd (h : Claims holds texts claimed patterns found) :
    (found.map Prod.snd).Nodup := by
  induction h with
  | nil claimed => exact List.nodup_nil
  | @take claimed p ps t found mem holds_text free rest ih =>
    rw [List.map_cons, List.nodup_cons]
    refine ⟨fun htaken => ?_, ih⟩
    obtain ⟨c, hc, rfl⟩ := List.mem_map.1 htaken
    exact (rest.mem_texts hc).2.2 (Finset.mem_insert_self _ _)
  | pass none_left rest ih => exact ih

/-- **A pattern goes without a text only if all texts that hold it are claimed**, before the run or
by patterns that stand before it. -/
theorem exists_before_of_notMem (h : Claims holds texts claimed patterns found) (hp : p ∈ patterns)
    (hnone : p ∉ found.map Prod.fst) {t : τ} (ht : t ∈ texts) (hholds : holds p t = true) :
    t ∈ claimed ∨ ∃ q, (q, t) ∈ found ∧ [q, p].Sublist patterns := by
  induction h with
  | nil claimed => cases hp
  | @take claimed q ps u found mem holds_text free rest ih =>
    rw [List.map_cons, List.mem_cons, not_or] at hnone
    have hp : p ∈ ps := (List.mem_cons.1 hp).resolve_left hnone.1
    rcases ih hp hnone.2 with hclaimed | ⟨q', hfound, hbefore⟩
    · rcases Finset.mem_insert.1 hclaimed with rfl | hclaimed
      · exact .inr ⟨q, List.mem_cons_self, (List.singleton_sublist.2 hp).cons_cons q⟩
      · exact .inl hclaimed
    · exact .inr ⟨q', List.mem_cons_of_mem _ hfound, hbefore.cons q⟩
  | @pass claimed q ps found none_left rest ih =>
    rcases List.mem_cons.1 hp with rfl | hp
    · exact .inl (none_left t ht hholds)
    · rcases ih hp hnone with hclaimed | ⟨q', hfound, hbefore⟩
      · exact .inl hclaimed
      · exact .inr ⟨q', hfound, hbefore.cons q⟩

theorem mem_map_snd_of_notMem (h : Claims holds texts claimed patterns found) (hp : p ∈ patterns)
    (hnone : p ∉ found.map Prod.fst) {t : τ} (ht : t ∈ texts) (hholds : holds p t = true) :
    t ∈ claimed ∨ t ∈ found.map Prod.snd :=
  (h.exists_before_of_notMem hp hnone ht hholds).imp_right fun ⟨_, hfound, _⟩ =>
    List.mem_map_of_mem hfound

/-- A run finds something iff some text holds some pattern. -/
theorem ne_nil_iff (h : Claims holds texts ∅ patterns found) :
    found ≠ [] ↔ ∃ p ∈ patterns, ∃ t ∈ texts, holds p t = true := by
  constructor
  · intro hne
    obtain ⟨c, hc⟩ := List.exists_mem_of_ne_nil found hne
    obtain ⟨hmem, hholds, -⟩ := h.mem_texts hc
    exact ⟨c.1, h.map_fst_sublist.subset (List.mem_map_of_mem hc), c.2, hmem, hholds⟩
  · rintro ⟨p, hp, t, ht, hholds⟩ rfl
    rcases h.mem_map_snd_of_notMem hp List.not_mem_nil ht hholds with hclaimed | hfound
    · exact absurd hclaimed (Finset.notMem_empty t)
    · exact absurd hfound List.not_mem_nil

/-- Two lists of which one has only keys of the other, each once. -/
theorem length_le_of_keys {α β κ : Type} {l : List α} {l' : List β} {f : α → κ} {g : β → κ}
    (hnodup : (l.map f).Nodup) (hsubset : ∀ a ∈ l, f a ∈ l'.map g) : l.length ≤ l'.length := by
  have hkeys : l.map f ⊆ l'.map g := by
    intro k hk
    obtain ⟨a, ha, rfl⟩ := List.mem_map.1 hk
    exact hsubset a ha
  have hlength := (List.subperm_of_subset hnodup hkeys).length_le
  rwa [List.length_map, List.length_map] at hlength

/-- **No run finds more than twice as many texts as another.** Whatever one run finds, the other
finds a text for the same pattern or takes the same text. -/
theorem length_le (hpatterns : patterns.Nodup) (h : Claims holds texts ∅ patterns found)
    (h' : Claims holds texts ∅ patterns found') : found.length ≤ 2 * found'.length := by
  classical
  let both : π × τ → Bool := fun c => decide (c.1 ∈ found'.map Prod.fst)
  have hboth : (found.filter both).length ≤ found'.length := by
    have hnodup : ((found.filter both).map Prod.fst).Nodup :=
      (hpatterns.sublist h.map_fst_sublist).sublist (List.filter_sublist.map _)
    refine length_le_of_keys (g := Prod.fst) hnodup fun c hc => ?_
    exact of_decide_eq_true (List.mem_filter.1 hc).2
  have halone : (found.filter fun c => !both c).length ≤ found'.length := by
    have hnodup : ((found.filter fun c => !both c).map Prod.snd).Nodup :=
      h.nodup_map_snd.sublist (List.filter_sublist.map _)
    refine length_le_of_keys (g := Prod.snd) hnodup fun c hc => ?_
    obtain ⟨hc, hmissing⟩ := List.mem_filter.1 hc
    obtain ⟨hmem, hholds, -⟩ := h.mem_texts hc
    have hpattern : c.1 ∈ patterns := h.map_fst_sublist.subset (List.mem_map_of_mem hc)
    have hnone : c.1 ∉ found'.map Prod.fst := by simpa [both] using hmissing
    exact (h'.mem_map_snd_of_notMem hpattern hnone hmem hholds).resolve_left (Finset.notMem_empty _)
  have hsplit := List.length_eq_length_filter_add (l := found) both
  omega

end Claims

end Runs

/-! ## Settled patterns -/

/-- Whether two patterns share a text. -/
def Shares (holds : π → τ → Bool) (texts : Finset τ) (q p : π) : Prop :=
  ∃ t ∈ texts, holds q t = true ∧ holds p t = true

instance : Decidable (Shares holds texts q p) :=
  inferInstanceAs (Decidable (∃ t ∈ texts, holds q t = true ∧ holds p t = true))

/-- Whether it is settled that a pattern finds a text or finds none, behind others: each of them
that shares a text with it occurs only together with it, or there are more texts for it than they
can take. -/
def SettledAt (holds : π → τ → Bool) (texts : Finset τ) (before : List π) (p : π) : Prop :=
  (∀ q ∈ before, Shares holds texts q p → ∀ t ∈ texts, holds q t = true → holds p t = true) ∨
    before.countP (fun q => decide (Shares holds texts q p)) < (texts.filter (holds p ·)).card

instance (before : List π) : Decidable (SettledAt holds texts before p) :=
  inferInstanceAs (Decidable (_ ∨ _))

/-- Whether every pattern of a table is settled, behind others. -/
def Settled (holds : π → τ → Bool) (texts : Finset τ) (before : List π) : List π → Prop
  | [] => True
  | p :: ps => SettledAt holds texts before p ∧ Settled holds texts (before ++ [p]) ps

instance decidableSettled (holds : π → τ → Bool) (texts : Finset τ) :
    ∀ before patterns : List π, Decidable (Settled holds texts before patterns)
  | _, [] => .isTrue trivial
  | before, p :: ps =>
    have := decidableSettled holds texts (before ++ [p]) ps
    inferInstanceAs
      (Decidable (SettledAt holds texts before p ∧ Settled holds texts (before ++ [p]) ps))

/-- What the patterns so far have taken. -/
structure Taken (holds : π → τ → Bool) (texts : Finset τ) (before : List π) (taken : List (π × τ)) :
    Prop where
  order : (taken.map Prod.fst).Sublist before
  nodup : (taken.map Prod.snd).Nodup
  sound : ∀ c ∈ taken, c.2 ∈ texts ∧ holds c.1 c.2 = true

namespace Taken

theorem nil : Taken holds texts [] [] :=
  ⟨List.Sublist.refl [], List.nodup_nil, fun _ h => absurd h List.not_mem_nil⟩

theorem pass (h : Taken holds texts before taken) (p : π) :
    Taken holds texts (before ++ [p]) taken :=
  ⟨h.order.trans (List.sublist_append_left _ _), h.nodup, h.sound⟩

theorem take (h : Taken holds texts before taken) {t : τ} (ht : t ∈ texts)
    (hholds : holds p t = true) (hfree : t ∉ taken.map Prod.snd) :
    Taken holds texts (before ++ [p]) (taken ++ [(p, t)]) := by
  refine ⟨?_, ?_, ?_⟩
  · rw [List.map_append]
    exact h.order.append (List.Sublist.refl _)
  · rw [List.map_append, List.nodup_append]
    refine ⟨h.nodup, List.nodup_singleton t, fun a ha b hb => ?_⟩
    obtain rfl := List.mem_singleton.1 hb
    rintro rfl
    exact hfree ha
  · intro c hc
    rcases List.mem_append.1 hc with hc | hc
    · exact h.sound c hc
    · obtain rfl := List.mem_singleton.1 hc
      exact ⟨ht, hholds⟩

variable [DecidableEq τ]

/-- The texts of a pattern that are taken. -/
def among (p : π) (taken : List (π × τ)) (holds : π → τ → Bool) : Finset τ :=
  ((taken.map Prod.snd).filter (holds p ·)).toFinset

theorem card_among (h : Taken holds texts before taken) (p : π) :
    (among p taken holds).card = taken.countP fun c => holds p c.2 := by
  rw [among, List.toFinset_card_of_nodup (h.nodup.filter _), ← List.countP_eq_length_filter,
    List.countP_map]
  rfl

theorem among_subset (h : Taken holds texts before taken) (p : π) :
    among p taken holds ⊆ texts.filter (holds p ·) := by
  intro t ht
  obtain ⟨hmem, hholds⟩ := List.mem_filter.1 (List.mem_toFinset.1 ht)
  obtain ⟨c, hc, rfl⟩ := List.mem_map.1 hmem
  exact Finset.mem_filter.2 ⟨(h.sound c hc).1, hholds⟩

/-- All texts of a pattern are taken iff as many of them are. -/
theorem exhausted_iff_card (h : Taken holds texts before taken) (p : π) :
    (∀ t ∈ texts, holds p t = true → t ∈ taken.map Prod.snd) ↔
      (texts.filter (holds p ·)).card ≤ taken.countP fun c => holds p c.2 := by
  rw [← h.card_among p]
  constructor
  · intro hall
    refine Finset.card_le_card fun t ht => ?_
    obtain ⟨hmem, hholds⟩ := Finset.mem_filter.1 ht
    exact List.mem_toFinset.2 (List.mem_filter.2 ⟨hall t hmem hholds, hholds⟩)
  · intro hcard t ht hholds
    have hsame := Finset.eq_of_subset_of_card_le (h.among_subset p) hcard
    have hmem : t ∈ among p taken holds := by
      rw [hsame]
      exact Finset.mem_filter.2 ⟨ht, hholds⟩
    exact (List.mem_filter.1 (List.mem_toFinset.1 hmem)).1

/-- **A settled pattern goes without a text iff too many patterns before it have taken one**: those
that share a text with it. -/
theorem exhausted_iff (h : Taken holds texts before taken)
    (hsettled : SettledAt holds texts before p) :
    (∀ t ∈ texts, holds p t = true → t ∈ taken.map Prod.snd) ↔
      (texts.filter (holds p ·)).card ≤
        (taken.map Prod.fst).countP fun q => decide (Shares holds texts q p) := by
  rw [h.exhausted_iff_card p, List.countP_map]
  have hshares : ∀ c ∈ taken, holds p c.2 = true → Shares holds texts c.1 p := fun c hc hp =>
    ⟨c.2, (h.sound c hc).1, (h.sound c hc).2, hp⟩
  have hle : (taken.countP fun c => holds p c.2) ≤
      taken.countP ((fun q => decide (Shares holds texts q p)) ∘ Prod.fst) :=
    List.countP_mono_left fun c hc hp => decide_eq_true (hshares c hc hp)
  constructor
  · intro hcard
    exact hcard.trans hle
  · intro hcard
    rcases hsettled with hnested | hplenty
    · -- a pattern that shares a text with `p` takes one that holds `p`
      refine hcard.trans (List.countP_mono_left fun c hc hq => ?_)
      have hbefore : c.1 ∈ before := h.order.subset (List.mem_map_of_mem hc)
      exact hnested c.1 hbefore (of_decide_eq_true hq) c.2 (h.sound c hc).1 (h.sound c hc).2
    · have hfew := h.order.countP_le (p := fun q => decide (Shares holds texts q p))
      rw [List.countP_map] at hfew
      omega

end Taken

namespace Claims

variable [DecidableEq τ]

theorem map_fst_eq_of_taken (hsettled : Settled holds texts before patterns)
    (htaken : Taken holds texts before taken) (htaken' : Taken holds texts before taken')
    (hsame : taken.map Prod.fst = taken'.map Prod.fst)
    (h : Claims holds texts (taken.map Prod.snd).toFinset patterns found)
    (h' : Claims holds texts (taken'.map Prod.snd).toFinset patterns found') :
    found.map Prod.fst = found'.map Prod.fst := by
  induction patterns generalizing before taken taken' found found' with
  | nil =>
    cases h
    cases h'
    rfl
  | cons p ps ih =>
    obtain ⟨hp, hps⟩ := hsettled
    have hiff : (∀ t ∈ texts, holds p t = true → t ∈ taken.map Prod.snd) ↔
        ∀ t ∈ texts, holds p t = true → t ∈ taken'.map Prod.snd := by
      rw [htaken.exhausted_iff hp, htaken'.exhausted_iff hp, hsame]
    have hinsert : ∀ (l : List (π × τ)) (t : τ), insert t (l.map Prod.snd).toFinset =
        ((l ++ [(p, t)]).map Prod.snd).toFinset := by
      intro l t
      ext u
      simp
    cases h with
    | take mem holds_text free rest =>
      rw [List.mem_toFinset] at free
      cases h' with
      | take mem' holds_text' free' rest' =>
        rw [List.mem_toFinset] at free'
        rw [hinsert] at rest rest'
        have hrest := ih hps (htaken.take mem holds_text free) (htaken'.take mem' holds_text' free')
          (by rw [List.map_append, List.map_append, hsame]; rfl) rest rest'
        rw [List.map_cons, List.map_cons, hrest]
      | pass none_left' rest' =>
        -- the first run found a text, so the second one had one left as well
        have hexhausted := hiff.2 fun t ht hholds => List.mem_toFinset.1 (none_left' t ht hholds)
        exact absurd (hexhausted _ mem holds_text) free
    | pass none_left rest =>
      cases h' with
      | take mem' holds_text' free' rest' =>
        rw [List.mem_toFinset] at free'
        have hexhausted := hiff.1 fun t ht hholds => List.mem_toFinset.1 (none_left t ht hholds)
        exact absurd (hexhausted _ mem' holds_text') free'
      | pass none_left' rest' => exact ih hps (htaken.pass p) (htaken'.pass p) hsame rest rest'

/-- **Where patterns are settled, every run finds the same patterns.** -/
theorem map_fst_eq (hsettled : Settled holds texts [] patterns)
    (h : Claims holds texts ∅ patterns found) (h' : Claims holds texts ∅ patterns found') :
    found.map Prod.fst = found'.map Prod.fst :=
  map_fst_eq_of_taken hsettled .nil .nil rfl h h'

end Claims

end Postmortem
