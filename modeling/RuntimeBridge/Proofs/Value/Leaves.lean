/-
# Other leaves in the same places

A value may be changed in its leaves alone: each leaf gives way to another one, and the arrays stay as
they are (`Value.mapLeaves`).  As long as no leaf changes its kind, inspection cannot tell the two values
apart, for it asks for nothing but the kinds of the leaves and the lengths of the arrays.

Main statement: `typeInfo_mapLeaves`.
-/
import RuntimeBridge.Proofs.Wire.Structure
namespace RuntimeBridge.Value

/-! ## 1. Replacing leaves -/

mutual

/-- The value with `g leaf` in place of each leaf. -/
def mapLeaves (g : Value → Value) : Value → Value
  | .array items => .array (mapLeavesOf g items)
  | v => g v

def mapLeavesOf (g : Value → Value) : List Value → List Value
  | [] => []
  | v :: vs => v.mapLeaves g :: mapLeavesOf g vs

end

theorem mapLeavesOf_eq_map (g : Value → Value) (vs : List Value) :
    mapLeavesOf g vs = vs.map (mapLeaves g) := by
  induction vs with
  | nil => rfl
  | cons v vs ih => rw [mapLeavesOf, ih, List.map_cons]

theorem mapLeaves_array (g : Value → Value) (items : List Value) :
    (array items).mapLeaves g = array (items.map (mapLeaves g)) := by
  rw [mapLeaves, mapLeavesOf_eq_map]

theorem mapLeaves_leaf (g : Value → Value) {v : Value} (leaf : v.items? = none) :
    v.mapLeaves g = g v := by
  cases v <;> simp_all [items?, mapLeaves]

/-- The function turns leaves into leaves of the same kind. -/
def KeepsKinds (g : Value → Value) : Prop :=
  ∀ v, v.items? = none → (g v).items? = none ∧ (g v).leafKind = v.leafKind

/-! ## 2. What inspection finds -/

section

variable {g : Value → Value} (keeps : KeepsKinds g)
include keeps

theorem items?_mapLeaves (v : Value) :
    (v.mapLeaves g).items? = v.items?.map (List.map (mapLeaves g)) := by
  cases array : v.items? with
  | none => rw [mapLeaves_leaf g array, (keeps v array).1, Option.map_none]
  | some items =>
    rw [eq_array_of_items? array, mapLeaves_array]
    rfl

theorem leafKind_mapLeaves (v : Value) : (v.mapLeaves g).leafKind = v.leafKind := by
  cases array : v.items? with
  | none => rw [mapLeaves_leaf g array, (keeps v array).2]
  | some items =>
    rw [eq_array_of_items? array, mapLeaves_array]
    rfl

omit keeps in
theorem leavesOf_mapLeaves_of {items : List Value}
    (each : ∀ v ∈ items, (v.mapLeaves g).leaves = v.leaves.map (mapLeaves g)) :
    leavesOf (items.map (mapLeaves g)) = (leavesOf items).map (mapLeaves g) := by
  induction items with
  | nil => rfl
  | cons v vs ih =>
    rw [List.map_cons, leavesOf, leavesOf, List.map_append, each v List.mem_cons_self,
      ih fun u mem => each u (List.mem_cons_of_mem _ mem)]

/-- The leaves are the new ones, in the order of the old ones. -/
theorem leaves_mapLeaves (v : Value) : (v.mapLeaves g).leaves = v.leaves.map (mapLeaves g) := by
  induction v using induct with
  | leaf v leaf =>
    have still : (v.mapLeaves g).items? = none := by
      rw [items?_mapLeaves keeps, leaf, Option.map_none]
    rw [leaves_of_leaf leaf, leaves_of_leaf still]
    rfl
  | array items ih => rw [mapLeaves_array, leaves_array, leaves_array, leavesOf_mapLeaves_of ih]

theorem leavesOf_mapLeaves (items : List Value) :
    leavesOf (items.map (mapLeaves g)) = (leavesOf items).map (mapLeaves g) :=
  leavesOf_mapLeaves_of fun v _ => leaves_mapLeaves keeps v

theorem sharedKind_mapLeaves (items : List Value) :
    sharedKind (items.map (mapLeaves g)) = sharedKind items := by
  rw [sharedKind, sharedKind, leavesOf_mapLeaves keeps]
  cases leavesOf items with
  | nil => rfl
  | cons first rest =>
    simp only [List.map_cons, List.forall_mem_map, leafKind_mapLeaves keeps]

theorem levels?_mapLeaves (v : Value) : (v.mapLeaves g).levels? = v.levels? := by
  induction v using induct with
  | leaf v leaf =>
    have still : (v.mapLeaves g).items? = none := by
      rw [items?_mapLeaves keeps, leaf, Option.map_none]
    rw [levels?_of_leaf leaf, levels?_of_leaf still]
  | array items ih =>
    have same : (items.map (mapLeaves g)).map levels? = items.map levels? := by
      rw [List.map_map]
      exact List.map_congr_left ih
    rw [mapLeaves_array, levels?_array, levels?_array, same, List.length_map]

theorem dimensions_mapLeaves (items : List Value) :
    dimensions (items.map (mapLeaves g)) = dimensions items := by
  have levels : (items.map (mapLeaves g)).map levels? = items.map levels? := by
    rw [List.map_map]
    exact List.map_congr_left fun v _ => levels?_mapLeaves keeps v
  rw [dimensions_eq, dimensions_eq, levels]

/-- **Inspection finds the same type.** -/
theorem typeInfo_mapLeaves (v : Value) : (v.mapLeaves g).typeInfo = v.typeInfo := by
  cases array : v.items? with
  | none =>
    have still : (v.mapLeaves g).items? = none := by
      rw [items?_mapLeaves keeps, array, Option.map_none]
    rw [typeInfo_of_leaf array, typeInfo_of_leaf still, leafKind_mapLeaves keeps]
  | some items =>
    rw [eq_array_of_items? array, mapLeaves_array, typeInfo_array, typeInfo_array,
      sharedKind_mapLeaves keeps, dimensions_mapLeaves keeps]

theorem topType_mapLeaves (v : Value) (declared : Option TypeInfo) :
    (v.mapLeaves g).topType declared = v.topType declared := by
  cases declared with
  | none => exact typeInfo_mapLeaves keeps v
  | some info => rw [topType, topType, typeInfo_mapLeaves keeps]

theorem typeTag_mapLeaves (v : Value) : (v.mapLeaves g).typeTag = v.typeTag := by
  have tag : ∀ u : Value, u.typeTag = u.typeInfo.tag := fun u => by cases u <;> rfl
  rw [tag, tag, typeInfo_mapLeaves keeps]

end

end RuntimeBridge.Value
