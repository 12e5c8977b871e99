import Postmortem.Address
import Postmortem.Proofs.Text.Words

/-!
# Tokens of an address text

An address is looked for among the words of a text, and what surrounds a word does not count. So
the tokens of a text are its words without the punctuation around them, as far as anything is left.

* `tokens_append_cons`: a blank separates tokens.
* `tokens_margin`: blanks and punctuation around a text do not change its tokens.
* `token?_eq_find?`: **the address is found among the tokens of the text.**
* `token?_of_tokens`: it is the first one with a prefix, or the only token.
-/

namespace Postmortem

open Text

namespace Address

variable {c : Char} {w cs rest front behind : List Char}

/-- The words of a text without the punctuation around them. Punctuation alone is no token. -/
def tokens (cs : List Char) : List (List Char) :=
  ((words cs).map (trimWhere isDecoration)).filter fun w => !w.isEmpty

/-- Whether a character does not count at the edges of a token. -/
def isMargin (c : Char) : Bool := isBlank c || isDecoration c

theorem tokens_append_cons (hc : isBlank c = true) (cs rest : List Char) :
    tokens (cs ++ c :: rest) = tokens cs ++ tokens rest := by
  unfold tokens
  rw [words_append_cons hc, List.map_append, List.filter_append]

/-- A run without blanks has itself as a token, unless it is punctuation. -/
theorem tokens_of_run (hw : ∀ c ∈ w, isBlank c = false) :
    tokens w = if trimWhere isDecoration w = [] then [] else [trimWhere isDecoration w] := by
  unfold tokens
  rcases eq_or_ne w [] with rfl | hne
  · rfl
  · rw [words_of_run hne hw, List.map_singleton, List.filter_singleton]
    by_cases hnil : trimWhere isDecoration w = []
    · rw [hnil]
      rfl
    · rw [if_neg hnil, List.isEmpty_eq_false_iff.2 hnil]
      rfl

theorem tokens_margin_cons (hc : isMargin c = true) (cs : List Char) :
    tokens (c :: cs) = tokens cs := by
  unfold isMargin at hc
  rcases Bool.or_eq_true_iff.1 hc with hblank | hdecoration
  · exact tokens_append_cons hblank [] cs
  · cases hblank : isBlank c with
    | true => exact tokens_append_cons hblank [] cs
    | false =>
      -- the punctuation belongs to the run at the beginning of the text
      have hrun : ∀ w, (∀ c ∈ w, isBlank c = false) → tokens (c :: w) = tokens w := by
        intro w hw
        rw [tokens_of_run hw, tokens_of_run (List.forall_mem_cons.2 ⟨hblank, hw⟩),
          trimWhere_cons hdecoration]
      rcases exists_run_append cs with hcs | ⟨w, d, rest, hw, hd, rfl⟩
      · exact hrun cs hcs
      · rw [← List.cons_append, tokens_append_cons hd, tokens_append_cons hd, hrun w hw]

theorem tokens_margin_concat (hc : isMargin c = true) (cs : List Char) :
    tokens (cs ++ [c]) = tokens cs := by
  have hconcat : isBlank c = true → tokens (cs ++ [c]) = tokens cs := by
    intro hblank
    rw [tokens_append_cons hblank]
    exact List.append_nil _
  unfold isMargin at hc
  rcases Bool.or_eq_true_iff.1 hc with hblank | hdecoration
  · exact hconcat hblank
  · cases hblank : isBlank c with
    | true => exact hconcat hblank
    | false =>
      -- the punctuation belongs to the run at the end of the text
      have hrun : ∀ w, (∀ c ∈ w, isBlank c = false) → tokens (w ++ [c]) = tokens w := by
        intro w hw
        have hboth : ∀ d ∈ w ++ [c], isBlank d = false :=
          List.forall_mem_append.2 ⟨hw, List.forall_mem_singleton.2 hblank⟩
        rw [tokens_of_run hw, tokens_of_run hboth, trimWhere_concat hdecoration]
      rcases exists_append_run cs with hcs | ⟨front, d, w, hw, hd, rfl⟩
      · exact hrun cs hcs
      · rw [List.append_assoc, List.cons_append, tokens_append_cons hd, tokens_append_cons hd,
          hrun w hw]

/-- **Blanks and punctuation around a text do not change its tokens.** -/
theorem tokens_margin (hfront : ∀ c ∈ front, isMargin c = true)
    (hbehind : ∀ c ∈ behind, isMargin c = true) (cs : List Char) :
    tokens (front ++ (cs ++ behind)) = tokens cs := by
  have hend : tokens (cs ++ behind) = tokens cs := by
    induction behind using List.reverseRecOn with
    | nil => rw [List.append_nil]
    | append_singleton behind c ih =>
      rw [← List.append_assoc, tokens_margin_concat (hbehind c (by simp)),
        ih fun d hd => hbehind d (List.mem_append_left _ hd)]
  induction front with
  | nil => exact hend
  | cons c front ih =>
    rw [List.cons_append, tokens_margin_cons (hfront c List.mem_cons_self),
      ih fun d hd => hfront d (List.mem_cons_of_mem _ hd)]

theorem tokens_trimWhere {p : Char → Bool} (hp : ∀ c, p c = true → isMargin c = true)
    (cs : List Char) : tokens (trimWhere p cs) = tokens cs := by
  obtain ⟨front, behind, hfront, hbehind, hcs⟩ := exists_eq_append_trimWhere p cs
  conv_rhs => rw [hcs]
  exact (tokens_margin (fun c hc => hp c (hfront c hc)) (fun c hc => hp c (hbehind c hc)) _).symm

/-- **The address is found among the tokens of the text**, a token with a prefix first. -/
theorem token?_eq_find? (cs : List Char) : token? cs =
    ((tokens cs).find? (fun t => hasPrefix t && looksLikeAddress t) <|>
      (tokens cs).find? looksLikeAddress).map beforeOffset := by
  have hblank : ∀ c, isBlank c = true → isMargin c = true := fun c h => by simp [isMargin, h]
  have hbracket : ∀ c, (isBracket c || c == ',') = true → isMargin c = true := by
    intro c h
    unfold isMargin isDecoration
    rcases Bool.or_eq_true_iff.1 h with h | h
    · simp [h]
    · simp [beq_iff_eq.1 h]
  have hinner : tokens (trimWhere (fun c => isBracket c || c == ',') (trim cs)) = tokens cs := by
    rw [tokens_trimWhere hbracket]
    exact tokens_trimWhere hblank cs
  -- no search finds an empty word
  have hfind : ∀ (p : List Char → Bool) (ws : List (List Char)), p [] = false →
      (ws.filter fun w => !w.isEmpty).find? p = ws.find? p := by
    intro p ws hp
    rw [List.find?_filter]
    refine congrArg (ws.find? ·) (funext fun w => ?_)
    cases w with
    | nil => rw [hp]; rfl
    | cons c w => simp
  rw [← hinner]
  unfold tokens
  rw [hfind _ _ (by decide), hfind _ _ (by decide)]
  rfl

/-- **The address is the first token with a prefix**, or the only token. -/
theorem token?_of_tokens {t : List Char} {before after : List (List Char)}
    (htokens : tokens cs = before ++ t :: after) (hlooks : looksLikeAddress t = true)
    (hbefore : ∀ w ∈ before, hasPrefix w = false)
    (hfirst : hasPrefix t = true ∨ before = [] ∧ after = []) :
    token? cs = some (beforeOffset t) := by
  rw [token?_eq_find?, htokens]
  rcases hfirst with hlead | ⟨rfl, rfl⟩
  · have hnone : before.find? (fun t => hasPrefix t && looksLikeAddress t) = none :=
      List.find?_eq_none.2 fun w hw => by simp [hbefore w hw]
    rw [List.find?_append, hnone, List.find?_cons_of_pos (by simp [hlead, hlooks])]
    rfl
  · rw [List.nil_append, List.find?_singleton, List.find?_singleton, hlooks]
    cases hasPrefix t <;> rfl

end Address

end Postmortem
