import Postmortem.Proofs.Text.Cuts
import Postmortem.Proofs.Text.SmallLetters
import Postmortem.Thread.State

/-!
# Names of waits

Whether a text names a wait is found out from its pieces and from whole phrases. Neither reaches
over a character that separates names, so the parts of a text around such a character are judged
on their own (`namesWait_append_cons`), and a list of names is judged name by name
(`mentionsWait_intercalate`).

* `mentionsWait_compositional`: **a text around a separator names a wait iff one of its parts
  does**, as a module and a function do, or a function and an offset.

The state of a thread is printed as a list of the names of its bits. Of these names only those of
the two waiting bits name a wait.

* `mentionsWait_describeState`: **the names of the state bits tell whether the thread waits.**
-/

namespace Postmortem

open Text

/-! ## Separators -/

/-- Whether a piece of a name is the beginning of a wait. -/
def isWaitPiece (piece : List Char) : Bool :=
  waitWords.any fun word => word.toList.isPrefixOf piece

/-- Whether the characters of a text name a wait. -/
def namesWait (cs : List Char) : Bool :=
  (waitPhrases.any fun phrase => occursIn phrase.toList (asciiLower cs)) ||
    (namePieces cs).any isWaitPiece

theorem mentionsWait_eq (s : String) : mentionsWait s = namesWait s.toList := rfl

/-- Whether a character stands in no piece of a name and in no phrase. -/
def separatesNames (c : Char) : Bool := !c.isAlphanum && !(['.', ' ', '_'].contains c)

variable {c : Char} {cs pattern : List Char}

theorem namesWait_iff : namesWait cs = true ↔
    (∃ phrase ∈ waitPhrases, phrase.toList <:+: asciiLower cs) ∨
      ∃ piece ∈ namePieces cs, isWaitPiece piece = true := by
  unfold namesWait
  rw [Bool.or_eq_true, List.any_eq_true, List.any_eq_true]
  simp only [occursIn_iff]

theorem isAlphanum_of_separatesNames (h : separatesNames c = true) : c.isAlphanum = false := by
  unfold separatesNames at h
  rw [Bool.and_eq_true, Bool.not_eq_true'] at h
  exact h.1

theorem notMem_phrase (hc : separatesNames c = true) {phrase : String} (h : phrase ∈ waitPhrases) :
    c ∉ phrase.toList := by
  have hall : (waitPhrases.all fun phrase => !phrase.toList.any separatesNames) = true := by decide
  intro hmem
  have hphrase := List.all_eq_true.1 hall phrase h
  rw [Bool.not_eq_true'] at hphrase
  exact List.any_eq_false.1 hphrase c hmem hc

theorem close_eq_append (piece : List Char) (pieces : List (List Char)) :
    namePieces.close piece pieces = namePieces.close piece [] ++ pieces := by
  unfold namePieces.close
  split <;> rfl

/-- What is no letter and no digit separates pieces. -/
theorem namePieces_append_cons (hc : c.isAlphanum = false) (cs rest : List Char) :
    namePieces (cs ++ c :: rest) = namePieces cs ++ namePieces rest := by
  have hgo : ∀ piece afterLower, namePieces.go piece afterLower (cs ++ c :: rest) =
      namePieces.go piece afterLower cs ++ namePieces.go [] false rest := by
    -- the induction is on the text in front, whatever piece is being read
    induction cs with
    | nil =>
      intro piece afterLower
      have hend : namePieces.go piece afterLower (c :: rest) =
          namePieces.close piece (namePieces.go [] false rest) := by
        rw [namePieces.go, hc]
        rfl
      rw [List.nil_append, hend, close_eq_append]
      rfl
    | cons d cs ih =>
      intro piece afterLower
      rw [List.cons_append, namePieces.go, namePieces.go]
      split
      · rw [ih, close_eq_append piece (_ ++ _), close_eq_append piece (namePieces.go _ _ _),
          List.append_assoc]
      · dsimp only
        split
        · rw [ih, List.cons_append]
        · rw [ih]
  exact hgo [] false

/-- **The parts of a text around a separator are judged on their own.** -/
theorem namesWait_append_cons (hc : separatesNames c = true) (cs rest : List Char) :
    namesWait (cs ++ c :: rest) = (namesWait cs || namesWait rest) := by
  have halnum := isAlphanum_of_separatesNames hc
  have hlower : asciiLower (cs ++ c :: rest) = asciiLower cs ++ c :: asciiLower rest := by
    unfold asciiLower
    rw [List.map_append, List.map_cons, toLower_of_isAlphanum_eq_false halnum]
  have hphrases : (∃ phrase ∈ waitPhrases, phrase.toList <:+: asciiLower (cs ++ c :: rest)) ↔
      (∃ phrase ∈ waitPhrases, phrase.toList <:+: asciiLower cs) ∨
        ∃ phrase ∈ waitPhrases, phrase.toList <:+: asciiLower rest := by
    rw [← exists_or, hlower]
    refine exists_congr fun phrase => ?_
    rw [← and_or_left]
    exact and_congr_right fun h => infix_append_cons_iff (notMem_phrase hc h)
  have hpieces : (∃ piece ∈ namePieces (cs ++ c :: rest), isWaitPiece piece = true) ↔
      (∃ piece ∈ namePieces cs, isWaitPiece piece = true) ∨
        ∃ piece ∈ namePieces rest, isWaitPiece piece = true := by
    rw [← exists_or, namePieces_append_cons halnum]
    refine exists_congr fun piece => ?_
    rw [← or_and_right, List.mem_append]
  rw [Bool.eq_iff_iff, Bool.or_eq_true, namesWait_iff, namesWait_iff, namesWait_iff, hphrases,
    hpieces, or_or_or_comm]

theorem mentionsWait_append_separator (hc : separatesNames c = true) (a b : String) :
    mentionsWait (a ++ String.singleton c ++ b) = (mentionsWait a || mentionsWait b) := by
  have htext : (a ++ String.singleton c ++ b).toList = a.toList ++ c :: b.toList := by
    rw [String.toList_append, String.toList_append, String.toList_singleton, List.append_assoc]
    rfl
  rw [mentionsWait_eq, htext, namesWait_append_cons hc]
  rfl

/-- **A text around a separator names a wait iff one of its parts does**: so do a module and a
function, and a function and an offset. -/
theorem mentionsWait_compositional (a b : String) :
    (∀ c, separatesNames c = true → (mentionsWait (a ++ String.singleton c ++ b) = true ↔
      mentionsWait a = true ∨ mentionsWait b = true)) ∧
      (mentionsWait s!"{a}!{b}" = true ↔ mentionsWait a = true ∨ mentionsWait b = true) ∧
      (mentionsWait s!"{a}+{b}" = true ↔ mentionsWait a = true ∨ mentionsWait b = true) := by
  have hparts : ∀ c, separatesNames c = true →
      (mentionsWait (a ++ String.singleton c ++ b) = true ↔
        mentionsWait a = true ∨ mentionsWait b = true) := by
    intro c hc
    rw [mentionsWait_append_separator hc, Bool.or_eq_true]
  exact ⟨hparts, hparts '!' (by decide), hparts '+' (by decide)⟩

/-- A phrase that arises across a separator is none. -/
theorem mentionsWait_compositional_slash :
    separatesNames '/' = true ∧ mentionsWait "thread.join" = true ∧
      mentionsWait ("thread" ++ String.singleton '/' ++ "join") = false := by
  refine ⟨by decide, by decide +kernel, ?_⟩
  rw [Bool.eq_false_iff, ne_eq, (mentionsWait_compositional "thread" "join").1 '/' (by decide)]
  decide +kernel

/-- No phrase begins with a space. -/
theorem namesWait_space_cons (cs : List Char) : namesWait (' ' :: cs) = namesWait cs := by
  have hstart : ∀ phrase ∈ waitPhrases, phrase.toList ≠ [] ∧ phrase.toList.head? ≠ some ' ' := by
    decide
  have hphrase : ∀ phrase ∈ waitPhrases,
      (phrase.toList <:+: asciiLower (' ' :: cs) ↔ phrase.toList <:+: asciiLower cs) := by
    intro phrase hmem
    obtain ⟨hne, hhead⟩ := hstart phrase hmem
    obtain ⟨d, pattern, hphrase⟩ := List.exists_cons_of_ne_nil hne
    rw [hphrase] at hhead ⊢
    refine List.infix_cons_iff.trans (or_iff_right fun h => hhead ?_)
    rw [(List.cons_prefix_cons.1 h).1]
    rfl
  have hpieces : namePieces (' ' :: cs) = namePieces cs :=
    namePieces_append_cons (c := ' ') (by decide) [] cs
  rw [Bool.eq_iff_iff, namesWait_iff, namesWait_iff, hpieces]
  exact or_congr_left (exists_congr fun phrase => and_congr_right (hphrase phrase))

/-- **A list of names is judged name by name.** -/
theorem mentionsWait_intercalate (names : List String) :
    mentionsWait (", ".intercalate names) = names.any mentionsWait := by
  induction names with
  | nil => decide
  | cons name names ih =>
    cases names with
    | nil => rw [String.intercalate_singleton, List.any_cons, List.any_nil, Bool.or_false]
    | cons next names =>
      have hsplit : (", ".intercalate (name :: next :: names)).toList =
          name.toList ++ ',' :: ' ' :: (", ".intercalate (next :: names)).toList := by
        rw [String.intercalate_cons_cons, String.toList_append, String.toList_append,
          List.append_assoc]
        rfl
      rw [mentionsWait_eq, hsplit, namesWait_append_cons (by decide), namesWait_space_cons,
        List.any_cons, ← ih]
      rfl

/-! ## State bits -/

/-- The names of the two waiting bits name a wait, and no other name of a bit does. -/
theorem filter_mentionsWait_stateFlags :
    (stateFlags.zipIdx.filter fun (name, _) => mentionsWait name) =
      [("Sync Suspended", 19), ("Interruptible", 25)] := by
  decide +kernel

/-- **The names of the state bits tell whether the thread waits.** -/
theorem mentionsWait_describeState (bits : ℕ) :
    (describeState bits).any mentionsWait = isWaitingState bits := by
  have hswap : (describeState bits).any mentionsWait =
      (stateFlags.zipIdx.filter fun (name, _) => mentionsWait name).any
        fun (_, i) => bits.testBit i := by
    unfold describeState
    rw [List.any_map, List.any_filter, List.any_filter]
    exact List.any_congr rfl fun _ => Bool.and_comm _ _
  rw [hswap, filter_mentionsWait_stateFlags]
  unfold isWaitingState
  simp

end Postmortem
