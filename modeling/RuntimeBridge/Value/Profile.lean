/-
# Array profiles

The type of an array is found by inspection: the tag that its leaves share, at any depth, and the
number of dimensions if the array is rectangular.  The LEVELS of a value are the lengths of the
nested arrays from the outermost inwards; a value that is no array has none, and an array whose
elements disagree about theirs has no levels at all, it is ragged.
-/
import RuntimeBridge.Value.Basic
namespace RuntimeBridge

/-! ## 1. Levels -/

/-- The levels that all elements share; none are shared by no elements. -/
def agreedLevels : List (Option (List Nat)) → Option (List Nat)
  | [] => some []
  | first :: rest => if rest.all (· == first) then first else none

/-- The dimensions of an array whose elements have these levels. -/
def dimensionsOver : Option (List Nat) → Int
  | some below => below.length + 1
  | none => mixedDimensions

namespace Value

mutual

/-- Lengths of the nested arrays of a value, outermost first, unless it is ragged. -/
def levels? : Value → Option (List Nat)
  | array items => (agreedLevels (itemLevels items)).map (items.length :: ·)
  | _ => some []

/-- The levels of each element. -/
def itemLevels : List Value → List (Option (List Nat))
  | [] => []
  | v :: vs => v.levels? :: itemLevels vs

end

theorem itemLevels_eq_map (vs : List Value) : itemLevels vs = vs.map levels? := by
  induction vs with
  | nil => rfl
  | cons v vs ih => simp [itemLevels, ih]

/-! ## 2. Leaves -/

/-- The tag of a value that is no array. -/
def leafKind : Value → BaseKind
  | null => .null
  | scalar s => s.kind
  | string w _ => .string w
  | array _ => .any
  | object _ => .handle
  | foreign _ => .handle
  | callable _ => .callable

end Value

/-- The tag that leaves of two parts share, `any` when the parts differ. -/
def mergeLeaf : Option TypeTag → Option TypeTag → Option TypeTag
  | none, b => b
  | a, none => a
  | some a, some b => if a == b then some a else some .any

namespace Value

mutual

/-- The tag that the leaves of a value share, `any` when they differ, nothing when there is no
leaf. -/
def leaf? : Value → Option TypeTag
  | array items => leafOfItems? none items
  | v => some (.ofKind v.leafKind)

/-- The tag shared by the leaves of some elements and those seen before them. -/
def leafOfItems? (seen : Option TypeTag) : List Value → Option TypeTag
  | [] => seen
  | v :: vs => leafOfItems? (mergeLeaf seen v.leaf?) vs

end

/-! ## 3. Types -/

/-- The leaf tag of an array with these elements. -/
def leafTag (items : List Value) : TypeTag :=
  (leafOfItems? none items).getD .any

/-- The dimensions of an array with these elements. -/
def dimensions (items : List Value) : Int :=
  dimensionsOver (agreedLevels (itemLevels items))

/-- The tag of a value; an array carries the tag of its leaves. -/
def typeTag : Value → TypeTag
  | array items => (leafTag items).withArray
  | v => .ofKind v.leafKind

/-- The type of a value as inspection finds it. -/
def typeInfo : Value → TypeInfo
  | array items => .ofArray (leafTag items) (dimensions items)
  | v => .ofTag (.ofKind v.leafKind)

end Value

end RuntimeBridge
