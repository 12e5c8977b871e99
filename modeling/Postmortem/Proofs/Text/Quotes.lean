import Mathlib.Data.List.Basic
import Mathlib.Tactic
import Postmortem.Proofs.Text.PrintedLines

/-!
# Quoted texts

A message quotes what it is about. A form of messages begins with some words and a quote, so a
search for the form goes from quote to quote: it looks at what stands in front of each, and only
where its words stand there it reads on.

* `first?_of_front?`: a form at the beginning of a text is found.
* `first?_quote`: **a search passes over a quote unless the form begins with it.**
* `first?_unquoted`: a search finds nothing without quotes.
-/

namespace Postmortem.Text.Scan

variable {α : Type} {p : Char → Bool} {c : Char} {w cs before behind : List Char} {s : String}

/-- A run of a class is read up to the first character that is not of the class. -/
theorem span_append (hw : ∀ d ∈ w, p d = true) (hc : p c = false) (cs : List Char) :
    span p (w ++ c :: cs) = some (w, c :: cs) := by
  have hend : ∀ d ∈ (c :: cs).head?, p d = false := by simp [hc]
  obtain ⟨htake, hdrop⟩ := takeWhile_append_run hw hend
  unfold span
  rw [htake, hdrop]

theorem span1_append (hne : w ≠ []) (hw : ∀ d ∈ w, p d = true) (hc : p c = false)
    (cs : List Char) : span1 p (w ++ c :: cs) = some (w, c :: cs) := by
  obtain ⟨htake, hdrop⟩ := Prod.mk.inj (Option.some.inj (span_append hw hc cs))
  unfold span1
  rw [htake, hdrop]
  split
  · contradiction
  · rfl

/-- A scan that reads nothing makes way for the other one. -/
theorem orElse_of_eq_none {scan : Scan α} (h : scan cs = none) (other : Scan α) :
    (scan <|> other) cs = other cs := by
  show (scan cs <|> other cs) = _
  rw [h]
  rfl

theorem optional_of_eq_some {scan : Scan α} {a : α} {rest : List Char}
    (h : scan cs = some (a, rest)) : optional scan cs = some (some a, rest) := by
  have hsome : (some <$> scan) cs = some (some a, rest) := by
    show (scan cs).bind _ = _
    rw [h]
    rfl
  exact orElse_of_eq_some hsome _

theorem optional_of_eq_none {scan : Scan α} (h : scan cs = none) :
    optional scan cs = some (none, cs) := by
  have hnone : (some <$> scan) cs = none := by
    show (scan cs).bind _ = _
    rw [h]
    rfl
  exact orElse_of_eq_none hnone _

/-- A fixed text is not read where another character begins the text. -/
theorem literal_cons_eq_none {c d : Char} (hs : s.toList.head? = some d) (hne : d ≠ c) :
    literal s (c :: cs) = none := by
  refine literal_eq_none fun ⟨rest, hrest⟩ => hne ?_
  have hhead : (s.toList ++ rest).head? = some d := by rw [List.head?_append, hs, Option.some_or]
  rw [hrest, List.head?_cons] at hhead
  exact (Option.some.inj hhead).symm

/-! ## Texts without quotes -/

/-- A scan reads the front of a text: what it leaves is the end of the text. -/
def ReadsFront (scan : Scan α) : Prop :=
  ∀ ⦃cs : List Char⦄ ⦃a : α⦄ ⦃rest : List Char⦄, scan cs = some (a, rest) → rest <:+ cs

theorem readsFront_span (p : Char → Bool) : ReadsFront (span p) := by
  intro cs taken rest h
  obtain ⟨-, rfl⟩ := Prod.mk.inj (Option.some.inj h)
  exact List.dropWhile_suffix p

theorem readsFront_span1 (p : Char → Bool) : ReadsFront (span1 p) := by
  intro cs taken rest h
  unfold span1 at h
  split at h
  · cases h
  · obtain ⟨-, rfl⟩ := Prod.mk.inj (Option.some.inj h)
    exact List.dropWhile_suffix p

theorem readsFront_literal (s : String) : ReadsFront (literal s) := by
  intro cs taken rest h
  obtain ⟨rest', hrest, hpair⟩ := Option.map_eq_some_iff.1 h
  obtain ⟨-, rfl⟩ := Prod.mk.inj hpair
  exact ⟨s.toList, List.isPrefixOf?_eq_some_iff_append_eq.1 hrest⟩

theorem ReadsFront.optional {scan : Scan α} (h : ReadsFront scan) :
    ReadsFront (optional scan) := by
  intro cs a rest hread
  cases hscan : scan cs with
  | none =>
    rw [optional_of_eq_none hscan] at hread
    obtain ⟨-, rfl⟩ := Prod.mk.inj (Option.some.inj hread)
    exact List.suffix_rfl
  | some parts =>
    rw [optional_of_eq_some hscan] at hread
    obtain ⟨-, rfl⟩ := Prod.mk.inj (Option.some.inj hread)
    exact h hscan

/-- If nothing goes on in texts without quotes, nothing is read there. -/
theorem ReadsFront.bind_eq_none {β : Type} {scan : Scan α} {next : α → Scan β}
    (h : ReadsFront scan) (hnext : ∀ a rest, '\'' ∉ rest → next a rest = none)
    (hcs : '\'' ∉ cs) : (scan >>= next) cs = none := by
  cases hscan : scan cs with
  | none => exact bind_of_eq_none hscan next
  | some parts =>
    rw [bind_of_eq_some hscan]
    exact hnext _ _ fun hmem => hcs ((h hscan).subset hmem)

theorem literal_unquoted (hs : '\'' ∈ s.toList) (hcs : '\'' ∉ cs) : literal s cs = none :=
  literal_eq_none fun hstart => hcs (hstart.subset hs)

/-! ## Searches -/

/-- What a scan reads at the beginning of a text is what it finds first. -/
theorem first?_of_front? {scan : Scan α} {a : α} (h : front? scan cs = some a) :
    first? scan cs = some a := by
  cases cs with
  | nil => exact h
  | cons c cs => rw [first?, h]

variable {next : Unit → Scan α}

/-- What stands in front of the first quote. -/
theorem span_unquoted (hw : '\'' ∉ w) (cs : List Char) :
    span (· != '\'') (w ++ '\'' :: cs) = some (w, '\'' :: cs) :=
  span_append (fun _ hd => bne_iff_ne.2 (ne_of_mem_of_not_mem hd hw)) rfl cs

/-- A form of messages is read at a place only if its words stand between the place and the next
quote. -/
theorem front?_quote (hs : s.toList = w ++ ['\'']) (hw : '\'' ∉ w) (hbefore : '\'' ∉ before)
    (hnext : w = before → front? (next ()) behind = none) :
    front? (literal s >>= next) (before ++ '\'' :: behind) = none := by
  by_cases hstart : s.toList <+: before ++ '\'' :: behind
  · obtain ⟨rest, hrest⟩ := hstart
    rw [hs, List.append_assoc, List.singleton_append] at hrest
    -- the words of the form and the text in front of the quote both end at the first quote
    have hspan := span_unquoted hw rest
    rw [hrest, span_unquoted hbefore] at hspan
    obtain ⟨rfl, hbehind⟩ := Prod.mk.inj (Option.some.inj hspan)
    obtain ⟨-, rfl⟩ := List.cons.inj hbehind
    have hliteral : literal s (before ++ '\'' :: behind) = some ((), behind) := by
      have h := literal_append s behind
      rwa [hs, List.append_assoc, List.singleton_append] at h
    have hread : (literal s >>= next) (before ++ '\'' :: behind) = next () behind :=
      bind_of_eq_some hliteral next
    show Option.map Prod.fst ((literal s >>= next) (before ++ '\'' :: behind)) = none
    rw [hread]
    exact hnext rfl
  · exact front?_of_eq_none (bind_of_eq_none (literal_eq_none hstart) next)

/-- **A search passes over a quote** unless the words of the form stand in front of it and the form
goes on behind it. -/
theorem first?_quote (hs : s.toList = w ++ ['\'']) (hw : '\'' ∉ w) (hbefore : '\'' ∉ before)
    (hnext : w <:+ before → front? (next ()) behind = none) :
    first? (literal s >>= next) (before ++ '\'' :: behind) =
      first? (literal s >>= next) behind := by
  induction before with
  | nil =>
    have hfront := front?_quote hs hw hbefore fun h => hnext (h ▸ List.suffix_rfl)
    rw [List.nil_append] at hfront ⊢
    rw [first?, hfront]
  | cons c before ih =>
    have hfront := front?_quote hs hw hbefore fun h => hnext (h ▸ List.suffix_rfl)
    rw [List.cons_append] at hfront ⊢
    rw [first?, hfront]
    exact ih (fun h => hbefore (List.mem_cons_of_mem _ h)) fun h =>
      hnext (h.trans (List.suffix_cons c before))

/-- **A search finds nothing without quotes.** -/
theorem first?_unquoted (hs : '\'' ∈ s.toList) (hcs : '\'' ∉ cs) :
    first? (literal s >>= next) cs = none := by
  have hfront : ∀ cs : List Char, '\'' ∉ cs → front? (literal s >>= next) cs = none := by
    intro cs hcs
    exact front?_of_eq_none (bind_of_eq_none (literal_unquoted hs hcs) next)
  induction cs with
  | nil => exact hfront [] hcs
  | cons c cs ih =>
    rw [first?, hfront _ hcs]
    exact ih fun h => hcs (List.mem_cons_of_mem c h)

end Postmortem.Text.Scan
