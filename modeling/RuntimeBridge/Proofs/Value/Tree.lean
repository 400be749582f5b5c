/-
# Values as trees

Apart from arrays, values are leaves; nothing looks into an object on the way to the wire.  What
inspection says of an array is told here without the loops that find it: the SHAPE of a value is a
relation that its levels decide (`hasShape_iff`), and the tag of an array is the one that its leaves
share (`leafTag_eq_of_forall`, `leafTag_eq_any`).
-/
import RuntimeBridge.Wire.FromValues
import RuntimeBridge.Proofs.Type.Tag
namespace RuntimeBridge

namespace Value

/-! ## 1. Leaves and arrays -/

/-- **Induction over a value**: a leaf, or an array of values for which it is known. -/
theorem induct {P : Value → Prop} (leaf : ∀ v, v.items? = none → P v)
    (array : ∀ items, (∀ v ∈ items, P v) → P (.array items)) : ∀ v, P v
  | .null => leaf _ rfl
  | .scalar _ => leaf _ rfl
  | .string _ _ => leaf _ rfl
  | .object _ => leaf _ rfl
  | .foreign _ => leaf _ rfl
  | .callable _ => leaf _ rfl
  | .array items => array items fun v mem =>
    have : sizeOf v < sizeOf items := List.sizeOf_lt_of_mem mem
    induct leaf array v

theorem eq_array_of_items? {v : Value} {items : List Value} (h : v.items? = some items) :
    v = .array items := by
  cases v <;> simp_all [items?]

theorem eq_int_of_integer? {v : Value} {n : Int} (number : v.integer? = some n) :
    ∃ (j : IntKind) (x : Fixed j), v = .scalar (.int j x) ∧ x.val = n := by
  cases v with
  | scalar s =>
    cases s with
    | int j x => exact ⟨j, x, rfl, Option.some.inj number⟩
    | _ => cases number
  | _ => cases number

mutual

/-- The leaves of a value, from left to right. -/
def leaves : Value → List Value
  | array items => leavesOf items
  | v => [v]

/-- The leaves of some values. -/
def leavesOf : List Value → List Value
  | [] => []
  | v :: vs => v.leaves ++ leavesOf vs

end

theorem leaves_of_leaf {v : Value} (h : v.items? = none) : v.leaves = [v] := by
  cases v <;> simp_all [items?, leaves]

theorem leaves_array (items : List Value) : (array items).leaves = leavesOf items := by
  rw [leaves]

theorem leavesOf_eq_flatMap (vs : List Value) : leavesOf vs = vs.flatMap leaves := by
  induction vs with
  | nil => rfl
  | cons v vs ih => rw [leavesOf, ih, List.flatMap_cons]

theorem leaves_subset {items : List Value} {v : Value} (mem : v ∈ items) :
    v.leaves ⊆ leavesOf items := by
  intro leaf h
  rw [leavesOf_eq_flatMap]
  exact List.mem_flatMap.mpr ⟨v, mem, h⟩

theorem depth_le {items : List Value} {v : Value} (mem : v ∈ items) :
    v.depth ≤ depth.depthOf items := by
  induction items with
  | nil => simp at mem
  | cons first rest ih =>
    rw [depth.depthOf]
    rcases List.mem_cons.mp mem with rfl | later
    · exact Nat.le_max_left _ _
    · exact Nat.le_trans (ih later) (Nat.le_max_right _ _)

theorem depth_lt {items : List Value} {v : Value} (mem : v ∈ items) :
    v.depth < (array items).depth := by
  rw [depth]
  exact Nat.lt_succ_of_le (depth_le mem)

/-! ## 2. Shapes -/

/-- A leaf has the empty shape; an array whose elements have one shape has that shape below its own
length, and there is nothing below an array without elements. -/
inductive HasShape : Value → List Nat → Prop
  | leaf {v : Value} : v.items? = none → HasShape v []
  | array {items : List Value} {below : List Nat} : (items = [] → below = []) →
      (∀ v ∈ items, HasShape v below) → HasShape (array items) (items.length :: below)

/-- No shape fits the value. -/
def Ragged (v : Value) : Prop :=
  ¬ ∃ shape, v.HasShape shape

end Value

theorem agreedLevels_eq_some {levels : List (Option (List Nat))} {below : List Nat} :
    agreedLevels levels = some below ↔
      (levels = [] → below = []) ∧ ∀ l ∈ levels, l = some below := by
  cases levels with
  | nil =>
    constructor
    · intro h
      exact ⟨fun _ => (Option.some.inj h).symm, by simp⟩
    · rintro ⟨empty, -⟩
      rw [empty rfl, agreedLevels]
  | cons first rest =>
    simp only [agreedLevels, List.all_eq_true, beq_iff_eq]
    constructor
    · intro h
      split at h
      next same =>
        refine ⟨by simp, fun l mem => ?_⟩
        rcases List.mem_cons.mp mem with rfl | later
        · exact h
        · exact (same l later).trans h
      next => exact absurd h (by simp)
    · rintro ⟨-, same⟩
      have head := same first List.mem_cons_self
      rw [if_pos fun l mem => (same l (List.mem_cons_of_mem _ mem)).trans head.symm]
      exact head

namespace Value

theorem levels?_of_leaf {v : Value} (h : v.items? = none) : v.levels? = some [] := by
  cases v <;> simp_all [items?, levels?]

theorem levels?_array (items : List Value) :
    (array items).levels? = (agreedLevels (items.map levels?)).map (items.length :: ·) := by
  rw [levels?, itemLevels_eq_map]

/-- **Levels decide the shape.** -/
theorem hasShape_iff (v : Value) (shape : List Nat) :
    v.HasShape shape ↔ v.levels? = some shape := by
  induction v using induct generalizing shape with
  | leaf v h =>
    rw [levels?_of_leaf h]
    constructor
    · intro fits
      cases fits with
      | leaf _ => rfl
      | array => simp [items?] at h
    · intro same
      rw [← Option.some.inj same]
      exact .leaf h
  | array items ih =>
    rw [levels?_array, Option.map_eq_some_iff]
    constructor
    · intro fits
      cases fits with
      | leaf h => simp [items?] at h
      | @array _ below empty rows =>
        refine ⟨below, agreedLevels_eq_some.mpr ⟨by simpa using empty, ?_⟩, rfl⟩
        intro l mem
        obtain ⟨v, member, rfl⟩ := List.mem_map.mp mem
        exact (ih v member below).mp (rows v member)
    · rintro ⟨below, agreed, rfl⟩
      obtain ⟨empty, rows⟩ := agreedLevels_eq_some.mp agreed
      refine .array (by simpa using empty) fun v member => ?_
      exact (ih v member below).mpr (rows _ (List.mem_map_of_mem member))

theorem ragged_iff (v : Value) : v.Ragged ↔ v.levels? = none := by
  simp only [Ragged, hasShape_iff, not_exists]
  exact Option.eq_none_iff_forall_ne_some.symm

theorem dimensions_eq (items : List Value) :
    dimensions items = dimensionsOver (agreedLevels (items.map levels?)) := by
  rw [dimensions, itemLevels_eq_map]

/-- An array of some shape has as many dimensions as the shape has entries. -/
theorem dimensions_of_hasShape {items : List Value} {shape : List Nat}
    (h : (array items).HasShape shape) : dimensions items = shape.length := by
  rw [hasShape_iff, levels?_array, Option.map_eq_some_iff] at h
  obtain ⟨below, agreed, rfl⟩ := h
  rw [dimensions_eq, agreed]
  simp [dimensionsOver]

theorem dimensions_of_ragged {items : List Value} (h : (array items).Ragged) :
    dimensions items = mixedDimensions := by
  rw [ragged_iff, levels?_array, Option.map_eq_none_iff] at h
  rw [dimensions_eq, h, dimensionsOver]

/-- An array has one dimension just when its elements are leaves. -/
theorem dimensions_eq_one_iff (items : List Value) :
    dimensions items = 1 ↔ ∀ v ∈ items, v.items? = none := by
  rw [dimensions_eq]
  constructor
  · intro one v mem
    cases agreed : agreedLevels (items.map levels?) with
    | none => simp [agreed, dimensionsOver, mixedDimensions] at one
    | some below =>
      have nothing : below = [] := by
        rw [agreed, dimensionsOver] at one
        exact List.length_eq_zero_iff.mp (by omega)
      have level := (agreedLevels_eq_some.mp agreed).2 _ (List.mem_map_of_mem mem)
      rw [nothing] at level
      cases kind : v.items? with
      | none => rfl
      | some inner =>
        rw [eq_array_of_items? kind, levels?_array] at level
        simp at level
  · intro flat
    have agreed : agreedLevels (items.map levels?) = some [] := by
      refine agreedLevels_eq_some.mpr ⟨fun _ => rfl, ?_⟩
      intro l mem
      obtain ⟨v, member, rfl⟩ := List.mem_map.mp mem
      exact levels?_of_leaf (flat v member)
    simp [agreed, dimensionsOver]

end Value

/-! ## 3. Tags of leaves -/

theorem mergeLeaf_none (a : Option TypeTag) : mergeLeaf a none = a := by
  cases a <;> rfl

theorem mergeLeaf_some (a b : TypeTag) :
    mergeLeaf (some a) (some b) = some (if a = b then a else .any) := by
  simp only [mergeLeaf, beq_iff_eq]
  split <;> rfl

theorem mergeLeaf_assoc (a b c : Option TypeTag) :
    mergeLeaf (mergeLeaf a b) c = mergeLeaf a (mergeLeaf b c) := by
  cases a with
  | none => rfl
  | some a =>
    cases b with
    | none => rfl
    | some b =>
      cases c with
      | none => simp [mergeLeaf_none]
      | some c =>
        have absorbed : (if a = .any then a else .any) = TypeTag.any := by
          split
          next same => exact same
          next => rfl
        simp only [mergeLeaf_some, Option.some.injEq]
        by_cases ab : a = b
        · by_cases bc : b = c
          · simp [ab, bc]
          · rw [if_pos ab, if_neg bc, if_neg (ab ▸ bc)]
            exact absorbed.symm
        · rw [if_neg ab, ite_self]
          by_cases bc : b = c
          · rw [if_pos bc, if_neg ab]
          · rw [if_neg bc, absorbed]

/-- Tags seen one after the other, as one tag. -/
def mergeTags (seen : Option TypeTag) (tags : List TypeTag) : Option TypeTag :=
  tags.foldl (fun seen tag => mergeLeaf seen (some tag)) seen

theorem mergeTags_append (seen : Option TypeTag) (xs ys : List TypeTag) :
    mergeTags seen (xs ++ ys) = mergeTags (mergeTags seen xs) ys :=
  List.foldl_append

theorem mergeTags_eq (seen : Option TypeTag) (tags : List TypeTag) :
    mergeTags seen tags = mergeLeaf seen (mergeTags none tags) := by
  induction tags generalizing seen with
  | nil => exact (mergeLeaf_none seen).symm
  | cons tag tags ih =>
    calc mergeTags seen (tag :: tags)
        = mergeTags (mergeLeaf seen (some tag)) tags := rfl
      _ = mergeLeaf (mergeLeaf seen (some tag)) (mergeTags none tags) := ih _
      _ = mergeLeaf seen (mergeLeaf (some tag) (mergeTags none tags)) := mergeLeaf_assoc _ _ _
      _ = mergeLeaf seen (mergeTags none (tag :: tags)) := by
        rw [← ih]
        rfl

/-- Tags after a first one give that one if they are all the same, and `any` otherwise. -/
theorem mergeTags_some (first : TypeTag) (rest : List TypeTag) :
    mergeTags (some first) rest = if ∀ tag ∈ rest, tag = first then some first else some .any := by
  induction rest generalizing first with
  | nil => simp [mergeTags]
  | cons tag rest ih =>
    have step : mergeTags (some first) (tag :: rest) =
        mergeTags (if first == tag then some first else some .any) rest := rfl
    rw [step]
    by_cases same : first = tag
    · subst same
      simp [ih]
    · have differ : (first == tag) = false := by simpa using same
      have no : ¬ ∀ t ∈ tag :: rest, t = first := fun h =>
        same (h tag List.mem_cons_self).symm
      rw [differ, if_neg no]
      simp only [Bool.false_eq_true, if_false]
      rw [ih]
      split <;> rfl

namespace Value

/-- The tag of a leaf. -/
def leafTagOf (v : Value) : TypeTag :=
  .ofKind v.leafKind

theorem leaf?_of_leaf {v : Value} (h : v.items? = none) : v.leaf? = some v.leafTagOf := by
  cases v <;> simp_all [items?, leaf?, leafTagOf]

theorem leafOfItems?_eq_of {items : List Value}
    (each : ∀ v ∈ items, v.leaf? = mergeTags none (v.leaves.map leafTagOf))
    (seen : Option TypeTag) :
    leafOfItems? seen items = mergeTags seen ((leavesOf items).map leafTagOf) := by
  induction items generalizing seen with
  | nil => rfl
  | cons v vs ih =>
    rw [leafOfItems?, leavesOf, List.map_append, mergeTags_append,
      ih (fun u mem => each u (List.mem_cons_of_mem _ mem)), each v List.mem_cons_self,
      ← mergeTags_eq seen]

theorem leaf?_eq (v : Value) : v.leaf? = mergeTags none (v.leaves.map leafTagOf) := by
  induction v using induct with
  | leaf v h =>
    rw [leaf?_of_leaf h, leaves_of_leaf h]
    rfl
  | array items ih =>
    rw [leaf?, leaves_array]
    exact leafOfItems?_eq_of ih none

/-- The tags of the leaves decide what the loop over the elements finds. -/
theorem leafOfItems?_eq (seen : Option TypeTag) (items : List Value) :
    leafOfItems? seen items = mergeTags seen ((leavesOf items).map leafTagOf) :=
  leafOfItems?_eq_of (fun v _ => v.leaf?_eq) seen

/-- What the leaves of an array make its tag. -/
theorem leafTag_eq (items : List Value) :
    leafTag items =
      match leavesOf items with
      | [] => .any
      | first :: rest =>
        if ∀ leaf ∈ rest, leaf.leafTagOf = first.leafTagOf then first.leafTagOf else .any := by
  rw [leafTag, leafOfItems?_eq]
  cases leavesOf items with
  | nil => rfl
  | cons first rest =>
    have step : mergeTags none ((first :: rest).map leafTagOf) =
        mergeTags (some first.leafTagOf) (rest.map leafTagOf) := rfl
    rw [step, mergeTags_some]
    simp only [List.mem_map, forall_exists_index, and_imp, forall_apply_eq_imp_iff₂]
    split <;> rfl

/-- Leaves of one tag give the array that tag. -/
theorem leafTag_eq_of_forall {items : List Value} {tag : TypeTag} (some_leaf : leavesOf items ≠ [])
    (same : ∀ leaf ∈ leavesOf items, leaf.leafTagOf = tag) : leafTag items = tag := by
  rw [leafTag_eq]
  cases found : leavesOf items with
  | nil => exact absurd found some_leaf
  | cons first rest =>
    rw [found] at same
    have head := same first List.mem_cons_self
    have agree : ∀ leaf ∈ rest, leaf.leafTagOf = first.leafTagOf := fun leaf mem =>
      (same leaf (List.mem_cons_of_mem _ mem)).trans head.symm
    exact (if_pos agree).trans head

/-- Leaves that share no tag, or no leaves at all, make it `any`. -/
theorem leafTag_eq_any {items : List Value}
    (differ : ∀ tag, leavesOf items ≠ [] → ∃ leaf ∈ leavesOf items, leaf.leafTagOf ≠ tag) :
    leafTag items = .any := by
  rw [leafTag_eq]
  cases found : leavesOf items with
  | nil => rfl
  | cons first rest =>
    rw [found] at differ
    obtain ⟨leaf, mem, ne⟩ := differ first.leafTagOf (List.cons_ne_nil _ _)
    refine if_neg fun agree => ?_
    rcases List.mem_cons.mp mem with rfl | later
    · exact ne rfl
    · exact ne (agree leaf later)

/-- The kind that the leaves of an array share, or `any`. -/
def sharedKind (items : List Value) : BaseKind :=
  match leavesOf items with
  | [] => .any
  | first :: rest => if ∀ leaf ∈ rest, leaf.leafKind = first.leafKind then first.leafKind else .any

theorem leafTag_eq_ofKind (items : List Value) : leafTag items = .ofKind (sharedKind items) := by
  rw [leafTag_eq, sharedKind]
  cases leavesOf items with
  | nil => rfl
  | cons first rest =>
    simp only [leafTagOf, TypeTag.ofKind_inj]
    split <;> rfl

/-- No leaf is of kind `any`. -/
theorem leafKind_ne_any {v : Value} (h : v.items? = none) : v.leafKind ≠ .any := by
  cases v with
  | array items => simp [items?] at h
  | scalar s => cases s <;> simp [leafKind, Scalar.kind]
  | _ => simp [leafKind]

theorem items?_of_mem_leavesOf {items : List Value} {leaf : Value}
    (mem : leaf ∈ leavesOf items) : leaf.items? = none := by
  suffices each : ∀ v : Value, ∀ leaf ∈ v.leaves, leaf.items? = none by
    rw [leavesOf_eq_flatMap] at mem
    obtain ⟨v, -, h⟩ := List.mem_flatMap.mp mem
    exact each v leaf h
  intro v
  induction v using induct with
  | leaf v h =>
    rw [leaves_of_leaf h]
    simpa using h
  | array items ih =>
    intro leaf h
    rw [leaves_array, leavesOf_eq_flatMap] at h
    obtain ⟨v, member, inside⟩ := List.mem_flatMap.mp h
    exact ih v member leaf inside

/-- A shared kind other than `any` is the kind of every leaf. -/
theorem leafKind_eq_sharedKind {items : List Value} (known : sharedKind items ≠ .any)
    {leaf : Value} (mem : leaf ∈ leavesOf items) : leaf.leafKind = sharedKind items := by
  rw [sharedKind] at known ⊢
  cases found : leavesOf items with
  | nil => simp [found] at mem
  | cons first rest =>
    rw [found] at known mem
    simp only at known ⊢
    split at known
    next agree =>
      rw [if_pos agree]
      rcases List.mem_cons.mp mem with rfl | later
      · rfl
      · exact agree leaf later
    next => exact absurd rfl known

end Value

end RuntimeBridge
