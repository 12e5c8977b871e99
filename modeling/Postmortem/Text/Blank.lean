/-!
# Blank characters

The white space that debuggers print between columns and around values, and the operations that
remove it. A character is blank iff it has the Unicode property `White_Space`.
-/

namespace Postmortem.Text

/-- Whether a number lies in one of the closed ranges. -/
def inRanges (ranges : List (Nat × Nat)) (n : Nat) : Bool :=
  ranges.any fun (lo, hi) => decide (lo ≤ n ∧ n ≤ hi)

/-- The code points of white space. -/
def blankRanges : List (Nat × Nat) :=
  [(0x09, 0x0D), (0x20, 0x20), (0x85, 0x85), (0xA0, 0xA0), (0x1680, 0x1680), (0x2000, 0x200A),
   (0x2028, 0x2029), (0x202F, 0x202F), (0x205F, 0x205F), (0x3000, 0x3000)]

/-- White space. -/
def isBlank (c : Char) : Bool := inRanges blankRanges c.toNat

/-- Removes the longest end whose members satisfy `p`. -/
def dropEndWhile (p : Char → Bool) (cs : List Char) : List Char :=
  (cs.reverse.dropWhile p).reverse

/-- Removes leading and trailing members that satisfy `p`. -/
def trimWhere (p : Char → Bool) (cs : List Char) : List Char :=
  dropEndWhile p (cs.dropWhile p)

/-- Nothing is removed from a text without such members. -/
theorem trimWhere_of_forall {p : Char → Bool} {cs : List Char} (h : ∀ c ∈ cs, p c = false) :
    trimWhere p cs = cs := by
  have hkeep : ∀ cs : List Char, (∀ c ∈ cs, p c = false) → cs.dropWhile p = cs := by
    intro cs h
    cases cs with
    | nil => rfl
    | cons c cs => exact List.dropWhile_cons_of_neg (by simp [h c List.mem_cons_self])
  unfold trimWhere dropEndWhile
  rw [hkeep cs h, hkeep cs.reverse fun c hc => h c (List.mem_reverse.1 hc), List.reverse_reverse]

/-- Removes leading blanks. -/
def trimStart (cs : List Char) : List Char := cs.dropWhile isBlank

/-- Removes trailing blanks. -/
def trimEnd (cs : List Char) : List Char := dropEndWhile isBlank cs

/-- Removes blanks at both ends. -/
def trim (cs : List Char) : List Char := trimWhere isBlank cs

/-- The maximal runs without blanks, in order. -/
def words (cs : List Char) : List (List Char) :=
  go [] cs
where
  /-- `run` is the word being read, last character first. -/
  go (run : List Char) : List Char → List (List Char)
    | [] => if run.isEmpty then [] else [run.reverse]
    | c :: cs =>
      if isBlank c then
        if run.isEmpty then go [] cs else run.reverse :: go [] cs
      else go (c :: run) cs

/-- The words joined by single spaces. -/
def squeeze (cs : List Char) : List Char := List.intercalate [' '] (words cs)

end Postmortem.Text

namespace Postmortem

open Text

/-- The text without blanks at either end. -/
def trimmed (s : String) : String := .ofList (trim s.toList)

end Postmortem
