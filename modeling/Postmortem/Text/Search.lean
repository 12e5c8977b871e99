/-!
# Searching texts

Where one text occurs in another, and what stands before and behind it.
-/

namespace Postmortem.Text

/-- Whether `pattern` occurs in the text. -/
def occursIn (pattern : List Char) : List Char → Bool
  | [] => pattern.isEmpty
  | c :: cs => pattern.isPrefixOf (c :: cs) || occursIn pattern cs

/-- The parts of the text around the first occurrence of `pattern`. -/
def cutAt? (pattern : List Char) : List Char → Option (List Char × List Char)
  | [] => if pattern.isEmpty then some ([], []) else none
  | c :: cs =>
    if pattern.isPrefixOf (c :: cs) then some ([], (c :: cs).drop pattern.length)
    else (cutAt? pattern cs).map fun (before, behind) => (c :: before, behind)

/-- The parts of the text around the last occurrence of `pattern`. -/
def cutAtLast? (pattern : List Char) : List Char → Option (List Char × List Char)
  | [] => if pattern.isEmpty then some ([], []) else none
  | c :: cs =>
    match cutAtLast? pattern cs with
    | some (before, behind) => some (c :: before, behind)
    | none =>
      if pattern.isPrefixOf (c :: cs) then some ([], (c :: cs).drop pattern.length) else none

/-- The part of the text behind `start`, if the text begins with it. -/
def afterStart? (start : String) (cs : List Char) : Option (List Char) :=
  start.toList.isPrefixOf? cs

/-- The part behind the last character that satisfies `p`: all of the text if there is none. -/
def behindLast (p : Char → Bool) (cs : List Char) : List Char :=
  (cs.reverse.takeWhile fun c => !p c).reverse

/-- The number of bytes of a text in UTF-8. -/
def byteLength (cs : List Char) : Nat := (cs.map Char.utf8Size).foldr (· + ·) 0

/-- ASCII capitals made small. -/
def asciiLower (cs : List Char) : List Char := cs.map Char.toLower

/-- A pattern occurs exactly where it is a run of the text. -/
theorem occursIn_iff {pattern cs : List Char} : occursIn pattern cs = true ↔ pattern <:+: cs := by
  induction cs with
  | nil => simp [occursIn]
  | cons c cs ih => simp [occursIn, ih, List.infix_cons_iff]

/-- A cut puts the pattern between its parts. -/
theorem eq_of_cutAt? {pattern cs before behind : List Char}
    (h : cutAt? pattern cs = some (before, behind)) : cs = before ++ pattern ++ behind := by
  induction cs generalizing before behind with
  | nil =>
    simp only [cutAt?] at h
    split at h <;> simp_all
  | cons c cs ih =>
    simp only [cutAt?] at h
    split at h
    · rename_i hp
      obtain ⟨t, ht⟩ := List.isPrefixOf_iff_prefix.1 hp
      simp only [Option.some.injEq, Prod.mk.injEq] at h
      obtain ⟨rfl, rfl⟩ := h
      simp [← ht]
    · obtain ⟨⟨b, e⟩, hb, he⟩ := Option.map_eq_some_iff.1 h
      simp only [Prod.mk.injEq] at he
      obtain ⟨rfl, rfl⟩ := he
      simp [ih hb]

/-- A text is not cut at a character that it does not have. -/
theorem cutAt?_eq_none {c : Char} {cs : List Char} (h : c ∉ cs) : cutAt? [c] cs = none := by
  cases hcut : cutAt? [c] cs with
  | none => rfl
  | some parts =>
    refine absurd ?_ h
    rw [eq_of_cutAt? hcut]
    simp

end Postmortem.Text

namespace Postmortem

open Text

/-- Whether `pattern` occurs in `s`. -/
def mentions (s pattern : String) : Bool := occursIn pattern.toList s.toList

end Postmortem
