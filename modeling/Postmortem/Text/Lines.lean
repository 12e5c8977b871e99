/-!
# Lines

A text is a sequence of lines, each ended by a line feed or by a carriage return and a line feed;
the last one may lack its end. Cutting a text behind a line feed cuts its lines (`lines_append`).
-/

namespace Postmortem.Text

/-- The lines of a text, without their ends. -/
def lines : List Char → List (List Char)
  | [] => []
  | '\n' :: rest => [] :: lines rest
  | '\r' :: '\n' :: rest => [] :: lines rest
  | c :: rest =>
    match lines rest with
    | [] => [[c]]
    | l :: ls => (c :: l) :: ls

/-- The lines written one after the other, each ended by a line feed. -/
def unlines (ls : List (List Char)) : List Char := ls.flatMap (· ++ ['\n'])

theorem lines_ne_nil {cs : List Char} (h : cs ≠ []) : lines cs ≠ [] := by
  fun_cases lines cs <;> simp_all

/-- A text that ends in a line feed keeps its lines when more text follows. -/
theorem lines_append (a b : List Char) : lines (a ++ '\n' :: b) = lines (a ++ ['\n']) ++ lines b := by
  fun_induction lines a with
  | case1 => simp [lines]
  | case2 rest ih => simp [lines, ih]
  | case3 rest ih => simp [lines, ih]
  | case4 c rest hn hr hnil ih =>
    have : rest = [] := Decidable.byContradiction fun h => lines_ne_nil h hnil
    subst this
    by_cases hc : c = '\r'
    · subst hc; simp [lines]
    · have h1 : lines (c :: '\n' :: b) = [c] :: lines b := by
        rw [lines.eq_4 _ _ (by simpa using hn) (fun _ h => absurd h hc)]
        simp [lines]
      have h2 : lines [c, '\n'] = [[c]] := by
        rw [lines.eq_4 _ _ (by simpa using hn) (fun _ h => absurd h hc)]
        simp [lines]
      simp [h1, h2]
  | case5 c rest hn hr l ls hcons ih =>
    have hne : rest ≠ [] := by rintro rfl; simp [lines] at hcons
    obtain ⟨d, rest', rfl⟩ := List.exists_cons_of_ne_nil hne
    have key : ∀ s, lines (c :: (d :: rest' ++ s)) =
        match lines (d :: rest' ++ s) with
        | [] => [[c]]
        | l :: ls => (c :: l) :: ls := by
      intro s
      refine lines.eq_4 _ _ (by simpa using hn) ?_
      rintro t rfl ht
      simp only [List.cons_append, List.cons.injEq] at ht
      exact hr _ rfl (by rw [ht.1])
    have h1 := key ('\n' :: b)
    have h2 := key ['\n']
    simp only [List.cons_append] at h1 h2 ih ⊢
    rw [h1, h2, ih]
    cases hl : lines (d :: (rest' ++ ['\n'])) with
    | nil => exact absurd hl (lines_ne_nil (by simp))
    | cons x xs => simp

end Postmortem.Text
