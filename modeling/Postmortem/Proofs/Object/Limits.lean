import Mathlib.Tactic
import Postmortem.Object.Tree

/-!
# Limited trees

An inspection shows an object tree up to three limits: how deep objects and arrays are nested, how
many elements of an array are shown, and how long a text is. Each limit cuts at other nodes, and a
cut leaves a mark: the limit that was reached stands for what is nested too deep, and a shortened
text says so. A node is known by the way that leads to it from the root (`nodeAt?`).

* `nodeAt?_limitAt`: a node of a limited tree is what the limits leave of the node of the tree.
* `limitedTo_limitAt`: what the limits leave of a node.
* `limitAt_limitAt`: limits that are applied one after the other act as the smaller ones.
* `limit_composes`: **limits compose, and what they leave is unchanged.**
-/

namespace Postmortem

/-- The smaller one of each two limits. -/
instance : Min InspectLimits where
  min a b :=
    { maxDepth := min a.maxDepth b.maxDepth
      maxArrayElements := min a.maxArrayElements b.maxArrayElements
      maxStringLength := min a.maxStringLength b.maxStringLength }

namespace InspectLimits

variable (a b : InspectLimits)

theorem maxDepth_min : (min a b).maxDepth = min a.maxDepth b.maxDepth := rfl

theorem maxArrayElements_min :
    (min a b).maxArrayElements = min a.maxArrayElements b.maxArrayElements := rfl

theorem maxStringLength_min :
    (min a b).maxStringLength = min a.maxStringLength b.maxStringLength := rfl

theorem min_self : min a a = a := by
  show InspectLimits.mk _ _ _ = a
  rw [Nat.min_self, Nat.min_self, Nat.min_self]

theorem min_comm : min a b = min b a := by
  show InspectLimits.mk _ _ _ = InspectLimits.mk _ _ _
  rw [Nat.min_comm a.maxDepth, Nat.min_comm a.maxArrayElements, Nat.min_comm a.maxStringLength]

end InspectLimits

namespace ObjectTree

/-! ## Nodes -/

/-- A field or element of a value by its number. -/
def child? : ObjectTree → ℕ → Option ObjectTree
  | object _ _ fields, i => fields[i]?.map Prod.snd
  | array _ _ elements, i => elements[i]?
  | _, _ => none

/-- The node to which a way from the root leads. -/
def nodeAt? (tree : ObjectTree) : List ℕ → Option ObjectTree
  | [] => some tree
  | i :: path => (tree.child? i).bind fun child => child.nodeAt? path

/-- What holds of a value if it holds of its fields or elements holds of every tree. -/
@[elab_as_elim]
theorem nestedInduction {motive : ObjectTree → Prop} (null : motive null)
    (primitive : ∀ typeName value, motive (primitive typeName value))
    (string : ∀ value truncated, motive (string value truncated))
    (object : ∀ typeName address fields, (∀ f ∈ fields, motive f.2) →
      motive (object typeName address fields))
    (array : ∀ elementType length elements, (∀ element ∈ elements, motive element) →
      motive (array elementType length elements))
    (unavailable : ∀ reason, motive (unavailable reason)) (tree : ObjectTree) : motive tree :=
  match tree with
  | .null => null
  | .primitive typeName value => primitive typeName value
  | .string value truncated => string value truncated
  | .object typeName address fields => object typeName address fields fun f _ =>
      nestedInduction null primitive string object array unavailable f.2
  | .array elementType length elements => array elementType length elements fun element _ =>
      nestedInduction null primitive string object array unavailable element
  | .unavailable reason => unavailable reason
termination_by tree
decreasing_by
  · have hfield : sizeOf f.2 < sizeOf f := by
      cases f
      simp
    have := List.sizeOf_lt_of_mem ‹f ∈ fields›
    simp
    omega
  · have := List.sizeOf_lt_of_mem ‹element ∈ elements›
    simp
    omega

/-! ## Limiting a node -/

variable {limits : InspectLimits} {level : ℕ} {tree node : ObjectTree}

/-- Whether a value is an object or an array. -/
def isContainer : ObjectTree → Bool
  | object .. | array .. => true
  | _ => false

theorem limitFields_eq_map (fields : List (String × ObjectTree)) :
    limitFields limits level fields = fields.map fun f => (f.1, limitAt limits level f.2) := by
  induction fields with
  | nil => rw [limitFields, List.map_nil]
  | cons f fields ih => rw [limitFields, List.map_cons, ih]

theorem limitElements_eq_map (elements : List ObjectTree) :
    limitElements limits level elements = elements.map (limitAt limits level) := by
  induction elements with
  | nil => rw [limitElements, List.map_nil]
  | cons element elements ih => rw [limitElements, List.map_cons, ih]

section Equations

variable {typeName : String} {address : Option Address} {fields : List (String × ObjectTree)}
  {elementType : Option String} {length : ℕ} {elements : List ObjectTree} {value : String}
  {truncated : Bool}

theorem limitAt_null : limitAt limits level null = null := by simp only [limitAt]

theorem limitAt_primitive {typeName : Option String} :
    limitAt limits level (primitive typeName value) = primitive typeName value := by
  simp only [limitAt]

theorem limitAt_unavailable {reason : String} :
    limitAt limits level (unavailable reason) = unavailable reason := by simp only [limitAt]

theorem limitAt_object (h : level < limits.maxDepth) :
    limitAt limits level (object typeName address fields) =
      object typeName address (fields.map fun f => (f.1, limitAt limits (level + 1) f.2)) := by
  rw [limitAt, if_neg (by omega), limitFields_eq_map]

theorem limitAt_array (h : level < limits.maxDepth) :
    limitAt limits level (array elementType length elements) = array elementType length
      ((elements.take limits.maxArrayElements).map (limitAt limits (level + 1))) := by
  rw [limitAt, if_neg (by omega), limitElements_eq_map, List.map_take]

/-- A text is shown up to its limit, and says whether anything is missing. -/
theorem limitAt_string : limitAt limits level (string value truncated) =
    string (.ofList (value.toList.take limits.maxStringLength))
      (truncated || decide (limits.maxStringLength < value.length)) := by
  rw [limitAt]
  split
  · rename_i hlong
    rw [decide_eq_true hlong, Bool.or_true]
  · rename_i hshort
    rw [List.take_of_length_le (by rw [String.length_toList]; omega), String.ofList_toList,
      decide_eq_false hshort, Bool.or_false]

end Equations

theorem limitAt_of_le (hcontainer : tree.isContainer = true) (h : limits.maxDepth ≤ level) :
    limitAt limits level tree = cutOff limits := by
  cases tree with
  | object typeName address fields => rw [limitAt, if_pos h]
  | array elementType length elements => rw [limitAt, if_pos h]
  | null | primitive | string | unavailable => cases hcontainer

theorem isContainer_limitAt (h : level < limits.maxDepth) :
    (limitAt limits level tree).isContainer = tree.isContainer := by
  cases tree with
  | object typeName address fields => rw [limitAt_object h]; rfl
  | array elementType length elements => rw [limitAt_array h]; rfl
  | string value truncated => rw [limitAt_string]; rfl
  | null => rw [limitAt_null]
  | primitive typeName value => rw [limitAt_primitive]
  | unavailable reason => rw [limitAt_unavailable]

/-! ## Limits one after the other -/

theorem cutOff_congr {a b : InspectLimits} (h : a.maxDepth = b.maxDepth) : cutOff a = cutOff b := by
  rw [cutOff, cutOff, h]

/-- The mark of a cut stays as it is. -/
theorem limitAt_cutOff (a b : InspectLimits) : limitAt a level (cutOff b) = cutOff b := by
  rw [cutOff, limitAt_unavailable]

/-- The limit that is reached first is the one that is named. -/
theorem limitAt_limitAt_of_eq {a b : InspectLimits} (hcontainer : tree.isContainer = true)
    (h : level = (min a b).maxDepth) :
    limitAt a level (limitAt b level tree) = limitAt (min a b) level tree := by
  have hdepth := InspectLimits.maxDepth_min a b
  have hboth : limitAt (min a b) level tree = cutOff (min a b) :=
    limitAt_of_le hcontainer (by omega)
  rw [hboth]
  rcases lt_or_ge level b.maxDepth with hb | hb
  · rw [limitAt_of_le (by rwa [isContainer_limitAt hb]) (by omega)]
    exact cutOff_congr (by omega)
  · rw [limitAt_of_le hcontainer hb, limitAt_cutOff]
    exact cutOff_congr (by omega)

/-- **Limits that are applied one after the other act as the smaller ones**, unless one of them
has cut off something above. -/
theorem limitAt_limitAt (a b : InspectLimits) (tree : ObjectTree) :
    ∀ level ≤ (min a b).maxDepth,
      limitAt a level (limitAt b level tree) = limitAt (min a b) level tree := by
  have hdepth := InspectLimits.maxDepth_min a b
  induction tree using nestedInduction with
  | null => intro level _; rw [limitAt_null, limitAt_null, limitAt_null]
  | primitive typeName value =>
    intro level _
    rw [limitAt_primitive, limitAt_primitive, limitAt_primitive]
  | unavailable reason =>
    intro level _
    rw [limitAt_unavailable, limitAt_unavailable, limitAt_unavailable]
  | string value truncated =>
    intro level _
    have hlength : (String.ofList (value.toList.take b.maxStringLength)).length =
        min b.maxStringLength value.length := by
      rw [String.length_ofList, List.length_take, String.length_toList]
    have hmissing : (decide (b.maxStringLength < value.length) ||
          decide (a.maxStringLength < min b.maxStringLength value.length)) =
        decide (min a.maxStringLength b.maxStringLength < value.length) := by
      rw [← Bool.decide_or, decide_eq_decide]
      omega
    rw [limitAt_string, limitAt_string, limitAt_string, hlength, String.toList_ofList,
      List.take_take, Bool.or_assoc, hmissing, InspectLimits.maxStringLength_min]
  | object typeName address fields ih =>
    intro level hlevel
    rcases hlevel.eq_or_lt with heq | hlt
    · exact limitAt_limitAt_of_eq rfl heq
    · have hfields : ∀ f ∈ fields, limitAt a (level + 1) (limitAt b (level + 1) f.2) =
          limitAt (min a b) (level + 1) f.2 := fun f hf => ih f hf (level + 1) hlt
      rw [limitAt_object (by omega), limitAt_object (by omega), limitAt_object hlt, List.map_map]
      congr 1
      exact List.map_congr_left fun f hf => congrArg (f.1, ·) (hfields f hf)
  | array elementType length elements ih =>
    intro level hlevel
    rcases hlevel.eq_or_lt with heq | hlt
    · exact limitAt_limitAt_of_eq rfl heq
    · have helements : ∀ element ∈ elements.take (min a b).maxArrayElements,
          limitAt a (level + 1) (limitAt b (level + 1) element) =
            limitAt (min a b) (level + 1) element :=
        fun element he => ih element (List.mem_of_mem_take he) (level + 1) hlt
      rw [limitAt_array (by omega), limitAt_array (by omega), limitAt_array hlt, ← List.map_take,
        List.take_take, ← InspectLimits.maxArrayElements_min, List.map_map]
      congr 1
      exact List.map_congr_left helements

/-! ## What limits leave -/

/-- What the limits leave of a value at a nesting level. -/
inductive LimitedTo (limits : InspectLimits) (level : ℕ) : ObjectTree → ObjectTree → Prop where
  | null : LimitedTo limits level null null
  | primitive (typeName : Option String) (value : String) :
      LimitedTo limits level (primitive typeName value) (primitive typeName value)
  | unavailable (reason : String) :
      LimitedTo limits level (unavailable reason) (unavailable reason)
  /-- The front of a text, and whether the text was or is shortened. -/
  | string (value : String) (truncated : Bool) :
      LimitedTo limits level
        (string (.ofList (value.toList.take limits.maxStringLength))
          (truncated || decide (limits.maxStringLength < value.length)))
        (string value truncated)
  /-- All fields of an object, by their names. -/
  | object (typeName : String) (address : Option Address)
      {shown fields : List (String × ObjectTree)}
      (admitted : level < limits.maxDepth) (names : shown.map Prod.fst = fields.map Prod.fst) :
      LimitedTo limits level (object typeName address shown) (object typeName address fields)
  /-- The first elements of an array. -/
  | array (elementType : Option String) (length : ℕ) {shown elements : List ObjectTree}
      (admitted : level < limits.maxDepth)
      (count : shown.length = min limits.maxArrayElements elements.length) :
      LimitedTo limits level (array elementType length shown) (array elementType length elements)
  /-- The mark that stands for an object or an array that is nested too deep. -/
  | cut {tree : ObjectTree} (hcontainer : tree.isContainer = true)
      (reached : limits.maxDepth ≤ level) : LimitedTo limits level (cutOff limits) tree

theorem limitedTo_limitAt (limits : InspectLimits) (level : ℕ) (tree : ObjectTree) :
    LimitedTo limits level (limitAt limits level tree) tree := by
  cases tree with
  | null => rw [limitAt_null]; exact .null
  | primitive typeName value => rw [limitAt_primitive]; exact .primitive typeName value
  | unavailable reason => rw [limitAt_unavailable]; exact .unavailable reason
  | string value truncated => rw [limitAt_string]; exact .string value truncated
  | object typeName address fields =>
    rcases lt_or_ge level limits.maxDepth with h | h
    · rw [limitAt_object h]
      refine .object typeName address h ?_
      rw [List.map_map]
      rfl
    · rw [limitAt_of_le rfl h]
      exact .cut rfl h
  | array elementType length elements =>
    rcases lt_or_ge level limits.maxDepth with h | h
    · rw [limitAt_array h]
      refine .array elementType length h ?_
      rw [List.length_map, List.length_take]
    · rw [limitAt_of_le rfl h]
      exact .cut rfl h

/-- Whether a value is within the limits at a nesting level. -/
def FitsAt (limits : InspectLimits) (level : ℕ) : ObjectTree → Prop
  | object .. => level < limits.maxDepth
  | array _ _ elements => level < limits.maxDepth ∧ elements.length ≤ limits.maxArrayElements
  | string value _ => value.length ≤ limits.maxStringLength
  | null | primitive .. | unavailable .. => True

theorem LimitedTo.fitsAt {original : ObjectTree} (h : LimitedTo limits level node original) :
    node.FitsAt limits level := by
  cases h with
  | null => exact trivial
  | primitive typeName value => exact trivial
  | unavailable reason => exact trivial
  | string value truncated =>
    show (String.ofList _).length ≤ _
    rw [String.length_ofList]
    exact List.length_take_le _ _
  | object typeName address admitted names => exact admitted
  | array elementType length admitted count => exact ⟨admitted, by omega⟩
  | cut hcontainer reached => exact trivial

theorem child?_limitAt {i : ℕ} {child : ObjectTree}
    (h : (limitAt limits level tree).child? i = some child) :
    ∃ original, tree.child? i = some original ∧ child = limitAt limits (level + 1) original := by
  have hcut : ¬ (cutOff limits).child? i = some child := by
    intro h
    cases h
  cases tree with
  | object typeName address fields =>
    rcases lt_or_ge level limits.maxDepth with hlt | hle
    · rw [limitAt_object hlt] at h
      obtain ⟨f, hf, rfl⟩ := Option.map_eq_some_iff.1 h
      rw [List.getElem?_map] at hf
      obtain ⟨original, horiginal, rfl⟩ := Option.map_eq_some_iff.1 hf
      exact ⟨original.2, congrArg (Option.map Prod.snd) horiginal, rfl⟩
    · rw [limitAt_of_le rfl hle] at h
      exact absurd h hcut
  | array elementType length elements =>
    rcases lt_or_ge level limits.maxDepth with hlt | hle
    · rw [limitAt_array hlt] at h
      change ((elements.take limits.maxArrayElements).map (limitAt limits (level + 1)))[i]? =
        some child at h
      rw [List.getElem?_map] at h
      obtain ⟨original, horiginal, rfl⟩ := Option.map_eq_some_iff.1 h
      rw [List.getElem?_take] at horiginal
      split at horiginal
      · exact ⟨original, horiginal, rfl⟩
      · cases horiginal
    · rw [limitAt_of_le rfl hle] at h
      exact absurd h hcut
  | string value truncated => rw [limitAt_string] at h; cases h
  | null => rw [limitAt_null] at h; cases h
  | primitive typeName value => rw [limitAt_primitive] at h; cases h
  | unavailable reason => rw [limitAt_unavailable] at h; cases h

/-- **A node of a limited tree** is what the limits leave of the node of the tree. -/
theorem nodeAt?_limitAt {path : List ℕ} (h : (limitAt limits level tree).nodeAt? path = some node) :
    ∃ original, tree.nodeAt? path = some original ∧
      node = limitAt limits (level + path.length) original := by
  induction path generalizing tree level with
  | nil =>
    obtain rfl := Option.some.inj h
    exact ⟨tree, rfl, rfl⟩
  | cons i path ih =>
    obtain ⟨child, hchild, hnode⟩ := Option.bind_eq_some_iff.1 h
    obtain ⟨original, horiginal, rfl⟩ := child?_limitAt hchild
    obtain ⟨found, hfound, rfl⟩ := ih hnode
    refine ⟨found, ?_, ?_⟩
    · rw [nodeAt?, horiginal]
      exact hfound
    · rw [List.length_cons, Nat.add_assoc, Nat.add_comm 1]

/-- **How limits act on a tree**, alone and together with others. -/
structure LimitsCompose (a b : InspectLimits) (tree : ObjectTree) : Prop where
  /-- Limits that are applied one after the other act as the smaller ones. -/
  smaller : (tree.limit b).limit a = tree.limit (min a b)
  /-- Limits that are applied again change nothing. -/
  again : (tree.limit a).limit a = tree.limit a
  /-- Either limits may be applied first. -/
  either : (tree.limit b).limit a = (tree.limit a).limit b
  /-- Every node is within the limits, at the level that its path has. -/
  fits : ∀ path node, (tree.limit a).nodeAt? path = some node → node.FitsAt a path.length
  /-- Every node is what the limits leave of the node that stands there in the tree. -/
  unchanged : ∀ path node, (tree.limit a).nodeAt? path = some node →
    ∃ original, tree.nodeAt? path = some original ∧ node.LimitedTo a path.length original

/-- **Limits compose, and what they leave is unchanged.** -/
theorem limit_composes (a b : InspectLimits) (tree : ObjectTree) : LimitsCompose a b tree := by
  have hsmaller : ∀ a b : InspectLimits, (tree.limit b).limit a = tree.limit (min a b) :=
    fun a b => limitAt_limitAt a b tree 0 (Nat.zero_le _)
  have hnode : ∀ path node, (tree.limit a).nodeAt? path = some node →
      ∃ original, tree.nodeAt? path = some original ∧ node.LimitedTo a path.length original := by
    intro path node h
    obtain ⟨original, horiginal, rfl⟩ := nodeAt?_limitAt h
    rw [Nat.zero_add]
    exact ⟨original, horiginal, limitedTo_limitAt a path.length original⟩
  refine { smaller := hsmaller a b, again := ?_, either := ?_, fits := ?_, unchanged := hnode }
  · rw [hsmaller, InspectLimits.min_self]
  · rw [hsmaller, hsmaller, InspectLimits.min_comm]
  · intro path node h
    obtain ⟨original, -, hlimited⟩ := hnode path node h
    exact hlimited.fitsAt

end ObjectTree

end Postmortem
