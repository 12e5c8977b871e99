import Mathlib.Data.List.DropRight
import Mathlib.Tactic
import Postmortem.Text.Blank

/-!
# Words and edges

A text is trimmed if no blank stands at either of its edges, and a run without blanks is a
word. Both stay as they are whatever blanks stand around them.

* `trim_eq_self_iff`: a text is trimmed iff neither its first nor its last character is blank.
* `dropEndWhile_append`: what is cut off at the end of a text stops at a member that stays.
* `words_append_cons`: a blank separates words.
-/

namespace Postmortem.Text

variable {p : Char → Bool} {c : Char} {w cs : List Char}

theorem forall_eq_false_of_any (h : cs.any p = false) : ∀ c ∈ cs, p c = false :=
  fun c hc => Bool.eq_false_iff.2 (List.any_eq_false.1 h c hc)

/-- A run of a class ends at a character that is not of the class, or with the text. -/
theorem takeWhile_append_run (hw : ∀ c ∈ w, p c = true) (hend : ∀ c ∈ cs.head?, p c = false) :
    (w ++ cs).takeWhile p = w ∧ (w ++ cs).dropWhile p = cs := by
  have hstop : cs.takeWhile p = [] ∧ cs.dropWhile p = cs := by
    cases cs with
    | nil => exact ⟨rfl, rfl⟩
    | cons c cs =>
      have hc : ¬ p c = true := by simp [hend c rfl]
      exact ⟨List.takeWhile_cons_of_neg hc, List.dropWhile_cons_of_neg hc⟩
  rw [List.takeWhile_append_of_pos hw, List.dropWhile_append_of_pos hw, hstop.1, hstop.2,
    List.append_nil]
  exact ⟨rfl, rfl⟩

/-! ## Edges -/

theorem dropEndWhile_eq_rdropWhile (p : Char → Bool) (cs : List Char) :
    dropEndWhile p cs = cs.rdropWhile p := rfl

theorem dropEndWhile_append (hne : w ≠ []) (h : p (w.getLast hne) = false) (cs : List Char) :
    dropEndWhile p (w ++ cs) = w ++ dropEndWhile p cs := by
  simp only [dropEndWhile_eq_rdropWhile]
  -- the text behind `w` is cut from its end on
  induction cs using List.reverseRecOn with
  | nil =>
    rw [List.append_nil, List.rdropWhile_nil, List.append_nil]
    exact List.rdropWhile_eq_self_iff.2 fun _ => by simp [h]
  | append_singleton cs c ih =>
    rw [← List.append_assoc, List.rdropWhile_concat, List.rdropWhile_concat, ih]
    split
    · rfl
    · exact List.append_assoc w cs [c]

theorem trimStart_eq_self_iff :
    trimStart cs = cs ↔ ∀ hne : cs ≠ [], isBlank (cs.head hne) = false := by
  unfold trimStart
  cases cs <;> simp [List.dropWhile_eq_self_iff]

/-- What is cut off at the start of a text stops at a member that stays. -/
theorem trimStart_append_of_ne_nil (h : trimStart w ≠ []) (cs : List Char) :
    trimStart (w ++ cs) = trimStart w ++ cs := by
  unfold trimStart at h ⊢
  rw [List.dropWhile_append, if_neg fun hempty => h (List.isEmpty_iff.1 hempty)]

theorem trimEnd_eq_self_iff :
    trimEnd cs = cs ↔ ∀ hne : cs ≠ [], isBlank (cs.getLast hne) = false := by
  unfold trimEnd
  rw [dropEndWhile_eq_rdropWhile, List.rdropWhile_eq_self_iff]
  simp only [Bool.not_eq_true]

/-- **A text is trimmed iff neither its first nor its last character is blank.** -/
theorem trim_eq_self_iff : trim cs = cs ↔
    ∀ hne : cs ≠ [], isBlank (cs.head hne) = false ∧ isBlank (cs.getLast hne) = false := by
  have hcut : trim cs = trimEnd (trimStart cs) := rfl
  constructor
  · intro h hne
    have hpre : trim cs <+: trimStart cs := List.rdropWhile_prefix isBlank _
    have hsuf : trimStart cs <:+ cs := List.dropWhile_suffix isBlank
    have hkept : trimStart cs = cs :=
      hsuf.eq_of_length (le_antisymm hsuf.length_le (by simpa [h] using hpre.length_le))
    rw [hkept, h] at hcut
    exact ⟨trimStart_eq_self_iff.1 hkept hne, trimEnd_eq_self_iff.1 hcut.symm hne⟩
  · intro h
    rw [hcut, trimStart_eq_self_iff.2 fun hne => (h hne).1,
      trimEnd_eq_self_iff.2 fun hne => (h hne).2]

theorem trimWhere_cons (hc : p c = true) (cs : List Char) :
    trimWhere p (c :: cs) = trimWhere p cs := by
  unfold trimWhere
  rw [List.dropWhile_cons_of_pos hc]

theorem trimWhere_concat (hc : p c = true) (cs : List Char) :
    trimWhere p (cs ++ [c]) = trimWhere p cs := by
  unfold trimWhere
  simp only [dropEndWhile_eq_rdropWhile]
  rw [List.dropWhile_append]
  split
  · rename_i hnone
    rw [List.isEmpty_iff.1 hnone, List.dropWhile_cons_of_pos hc, List.dropWhile_nil]
  · rw [List.rdropWhile_concat, if_pos hc]

/-- What is cut off at the edges does not matter. -/
theorem trimWhere_margin {front behind : List Char} (hfront : ∀ c ∈ front, p c = true)
    (hbehind : ∀ c ∈ behind, p c = true) (cs : List Char) :
    trimWhere p (front ++ (cs ++ behind)) = trimWhere p cs := by
  have hend : trimWhere p (cs ++ behind) = trimWhere p cs := by
    induction behind using List.reverseRecOn with
    | nil => rw [List.append_nil]
    | append_singleton behind c ih =>
      rw [List.forall_mem_append, List.forall_mem_singleton] at hbehind
      rw [← List.append_assoc, trimWhere_concat hbehind.2, ih hbehind.1]
  induction front with
  | nil => exact hend
  | cons c front ih =>
    rw [List.forall_mem_cons] at hfront
    rw [List.cons_append, trimWhere_cons hfront.1, ih hfront.2]

/-- A text begins with what is cut off at its beginning, and ends with what is cut off at its end. -/
theorem exists_eq_append_trimWhere (p : Char → Bool) (cs : List Char) : ∃ front behind,
    (∀ c ∈ front, p c = true) ∧ (∀ c ∈ behind, p c = true) ∧
      cs = front ++ (trimWhere p cs ++ behind) := by
  refine ⟨cs.takeWhile p, (cs.dropWhile p).rtakeWhile p, fun _ => List.mem_takeWhile_imp,
    fun _ => List.mem_rtakeWhile_imp, ?_⟩
  unfold trimWhere
  rw [dropEndWhile_eq_rdropWhile, List.rdropWhile_append_rtakeWhile, List.takeWhile_append_dropWhile]

/-- A text between trimmed ones is trimmed together with them. -/
theorem trim_between {start ending : List Char} (hs : trim start = start) (hsne : start ≠ [])
    (he : trim ending = ending) (hene : ending ≠ []) (cs : List Char) :
    trim (start ++ (cs ++ ending)) = start ++ (cs ++ ending) := by
  refine trim_eq_self_iff.2 fun hne => ⟨?_, ?_⟩
  · rw [List.head_append_of_ne_nil hsne]
    exact (trim_eq_self_iff.1 hs hsne).1
  · have hlast : (start ++ (cs ++ ending)).getLast hne = ending.getLast hene := by
      rw [List.getLast_append_of_ne_nil _ (List.append_ne_nil_of_right_ne_nil _ hene),
        List.getLast_append_of_ne_nil _ hene]
    rw [hlast]
    exact (trim_eq_self_iff.1 he hene).2

/-- In front of a trimmed text, only blanks at the beginning are cut off. -/
theorem trim_append_of_trimStart (hw : trimStart w = w) (hcs : trim cs = cs)
    (hne : cs ≠ []) : trim (w ++ cs) = w ++ cs := by
  refine trim_eq_self_iff.2 fun hboth => ?_
  have hends := trim_eq_self_iff.1 hcs hne
  rw [List.getLast_append_of_ne_nil _ hne]
  refine ⟨?_, hends.2⟩
  cases w with
  | nil => exact hends.1
  | cons c w => exact trimStart_eq_self_iff.1 hw (List.cons_ne_nil c w)

theorem trimStart_replicate_append (n : ℕ) (cs : List Char) :
    trimStart (List.replicate n ' ' ++ cs) = trimStart cs := by
  refine List.dropWhile_append_of_pos fun c hc => ?_
  rw [List.eq_of_mem_replicate hc]
  decide

/-- Spaces in front do not matter. -/
theorem trim_replicate_append (n : ℕ) (cs : List Char) :
    trim (List.replicate n ' ' ++ cs) = trim cs :=
  congrArg trimEnd (trimStart_replicate_append n cs)

/-- Nor do spaces at the end. -/
theorem trim_append_replicate (h : trim cs = cs) (n : ℕ) :
    trim (cs ++ List.replicate n ' ') = cs := by
  have hspaces : ∀ c ∈ List.replicate n ' ', isBlank c = true := by
    intro c hc
    rw [List.eq_of_mem_replicate hc]
    decide
  exact (trimWhere_margin (List.forall_mem_nil _) hspaces cs).trans h

/-! ## Words -/

/-- Blanks at the end do not belong to the first word. -/
theorem takeWhile_trimEnd (cs : List Char) :
    (trimEnd cs).takeWhile (!isBlank ·) = cs.takeWhile (!isBlank ·) := by
  unfold trimEnd
  rw [dropEndWhile_eq_rdropWhile]
  induction cs using List.reverseRecOn with
  | nil => rfl
  | append_singleton cs c ih =>
    rw [List.rdropWhile_concat]
    split
    · rename_i hblank
      have hstop : [c].takeWhile (!isBlank ·) = [] :=
        List.takeWhile_cons_of_neg (by simp [hblank])
      rw [ih, List.takeWhile_append, hstop, List.append_nil]
      split
      · rename_i hlength
        exact (List.takeWhile_prefix _).eq_of_length hlength
      · rfl
    · rfl

/-- A run without blanks belongs to the word that is being read. -/
theorem words_go_append (h : ∀ c ∈ w, isBlank c = false) (run cs : List Char) :
    words.go run (w ++ cs) = words.go (w.reverse ++ run) cs := by
  induction w generalizing run with
  | nil => rfl
  | cons c w ih =>
    rw [List.cons_append, words.go, h c List.mem_cons_self, if_neg (by simp),
      ih (fun d hd => h d (List.mem_cons_of_mem _ hd))]
    simp

theorem words_of_run (hne : w ≠ []) (h : ∀ c ∈ w, isBlank c = false) : words w = [w] := by
  have hgo := words_go_append h [] []
  rw [List.append_nil, List.append_nil] at hgo
  unfold words
  rw [hgo, words.go, if_neg (by simpa using hne), List.reverse_reverse]

/-- **A blank separates words.** -/
theorem words_append_cons (hc : isBlank c = true) (cs rest : List Char) :
    words (cs ++ c :: rest) = words cs ++ words rest := by
  have hgo : ∀ run, words.go run (cs ++ c :: rest) = words.go run cs ++ words.go [] rest := by
    induction cs with
    | nil =>
      intro run
      simp only [List.nil_append, words.go, hc, if_true]
      split <;> rfl
    | cons d cs ih =>
      intro run
      rw [List.cons_append, words.go, words.go, ih, ih]
      split
      · split <;> rfl
      · rfl
  exact hgo []

/-- A text is a run without blanks, or such a run stands in front of its first blank. -/
theorem exists_run_append (cs : List Char) : (∀ c ∈ cs, isBlank c = false) ∨
    ∃ w c rest, (∀ c ∈ w, isBlank c = false) ∧ isBlank c = true ∧ cs = w ++ c :: rest := by
  induction cs with
  | nil => exact .inl fun _ h => absurd h List.not_mem_nil
  | cons d cs ih =>
    cases hd : isBlank d with
    | true => exact .inr ⟨[], d, cs, fun _ h => absurd h List.not_mem_nil, hd, rfl⟩
    | false =>
      rcases ih with hrun | ⟨w, c, rest, hw, hc, rfl⟩
      · exact .inl (List.forall_mem_cons.2 ⟨hd, hrun⟩)
      · exact .inr ⟨d :: w, c, rest, List.forall_mem_cons.2 ⟨hd, hw⟩, hc, rfl⟩

/-- A text is a run without blanks, or such a run stands behind its last blank. -/
theorem exists_append_run (cs : List Char) : (∀ c ∈ cs, isBlank c = false) ∨
    ∃ front c w, (∀ c ∈ w, isBlank c = false) ∧ isBlank c = true ∧ cs = front ++ c :: w := by
  rcases exists_run_append cs.reverse with hrun | ⟨w, c, rest, hw, hc, hcs⟩
  · exact .inl fun c h => hrun c (List.mem_reverse.2 h)
  · refine .inr ⟨rest.reverse, c, w.reverse, fun d h => hw d (List.mem_reverse.1 h), hc, ?_⟩
    rw [← cs.reverse_reverse, hcs]
    simp

theorem words_replicate_append (n : ℕ) (cs : List Char) :
    words (List.replicate n ' ' ++ cs) = words cs := by
  induction n with
  | zero => rfl
  | succ n ih =>
    rw [List.replicate_succ, List.cons_append, ← ih]
    exact words_append_cons (by decide) [] _

theorem words_append (hne : w ≠ []) (h : ∀ c ∈ w, isBlank c = false) (cs : List Char) :
    words (w ++ ' ' :: cs) = w :: words cs := by
  rw [words_append_cons (by decide), words_of_run hne h, List.singleton_append]

end Postmortem.Text
