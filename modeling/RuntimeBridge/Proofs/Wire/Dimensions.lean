/-
# Inspection and construction agree on arrays

Dimensions are found twice: by inspection of a value, from the inside outwards, and by construction,
which reads the lengths of first elements off the finished cells.  Both are measured here against the
shape of the value.

Main statement: `dimensions_agree`.
-/
import RuntimeBridge.Proofs.Wire.Form
namespace RuntimeBridge

/-! ## 1. Inspection -/

namespace Value

/-- There are leaves in an array, and all of them have this tag. -/
def SharesTag (items : List Value) (tag : TypeTag) : Prop :=
  leavesOf items ≠ [] ∧ ∀ leaf ∈ leavesOf items, leaf.typeTag = tag

theorem typeTag_of_mem_leavesOf {items : List Value} {leaf : Value}
    (mem : leaf ∈ leavesOf items) : leaf.typeTag = leaf.leafTagOf := by
  have isLeaf := items?_of_mem_leavesOf mem
  cases leaf <;> simp_all [items?, typeTag, leafTagOf]

/-- What inspection says of an array: as many dimensions as its shape has entries, -1 if it is ragged,
and the tag that its leaves share, `any` if they share none. -/
structure Inspected (items : List Value) : Prop where
  shaped : ∀ shape, (array items).HasShape shape → dimensions items = shape.length
  ragged : (array items).Ragged → dimensions items = -1
  shared : ∀ tag, SharesTag items tag → leafTag items = tag
  mixed : (¬ ∃ tag, SharesTag items tag) → leafTag items = .any

theorem inspected (items : List Value) : Inspected items where
  shaped shape := dimensions_of_hasShape
  ragged := dimensions_of_ragged
  shared tag := by
    rintro ⟨some_leaf, same⟩
    refine leafTag_eq_of_forall some_leaf fun leaf mem => ?_
    rw [← typeTag_of_mem_leavesOf mem]
    exact same leaf mem
  mixed none_shared := by
    refine leafTag_eq_any fun tag some_leaf => ?_
    by_cases same : ∀ leaf ∈ leavesOf items, leaf.typeTag = tag
    · exact absurd ⟨tag, some_leaf, same⟩ none_shared
    · obtain ⟨leaf, differs⟩ := Classical.not_forall.mp same
      obtain ⟨mem, ne⟩ := Classical.not_imp.mp differs
      exact ⟨leaf, mem, typeTag_of_mem_leavesOf mem ▸ ne⟩

end Value

/-! ## 2. Construction -/

/-- **Dimension inference agrees.**  Inspection finds the shape of every array.  Where construction
succeeds, each array cell lies over an array of the values and has the dimensions that inspection
finds for it; only at the top level an array of leaves declared with several dimensions has -1. -/
theorem dimensions_agree (src : ValueSource) (a : CellArray) (w : World) :
    (∀ items, Value.Inspected items) ∧
      ((src.construct a w).1 = .ok () →
        ∀ path c cells dims, Cell.at? (src.construct a w).2.1.cells path = some c →
          c.array? = some (cells, dims) →
          ∃ items, src.valueAt? path = some (.array items) ∧
            (1 < path.length → dims = Value.dimensions items) ∧
            ∀ i, path = [i] →
              (Overstated src.declared[i]? items → dims = -1) ∧
                (¬ Overstated src.declared[i]? items → dims = Value.dimensions items)) := by
  refine ⟨Value.inspected, fun ok path c cells dims found isArray => ?_⟩
  have tagged : c.tag.isArray = true := by
    cases c with
    | plain => simp [Cell.array?] at isArray
    | array tag items dimensions owned =>
      rw [Cell.array?] at isArray
      split at isArray
      next tagged => exact tagged
      next => simp at isArray
  obtain ⟨items, leaf, built, found_dims, rfl, here⟩ := array_at_path ok found tagged
  obtain ⟨rfl, rfl⟩ : built = cells ∧ found_dims = dims := by
    simpa [Cell.ofArray, Cell.array?] using isArray
  exact ⟨items, here.value, fun nested => (here.nested nested).2, fun i top => (here.top i top).2⟩

/-- An array of two rows, and an array of leaves, both declared with two dimensions. -/
def twoDeclaredGrids : ValueSource where
  values :=
    [.array [.array [.scalar (.bool true)], .array [.scalar (.bool false)]],
      .array [.scalar (.bool true)]]
  declared := [.ofArray (.ofKind .bool) 2, .ofArray (.ofKind .bool) 2]

/-- The array cell of a row. -/
def rowCell (b : Bool) : Cell := .ofArray (.ofKind .bool) [.ofScalar (.bool b)] 1

/-- The cells that construction leaves for the two arrays. -/
def gridCells : List Cell :=
  [.ofArray (.ofKind .bool) [rowCell true, rowCell false] 2,
    .ofArray (.ofKind .bool) [.ofScalar (.bool true)] (-1)]

/-- The rows have one dimension, the first array two; the second one counts as mixed. -/
theorem dimensions_agree_twoDeclaredGrids :
    (twoDeclaredGrids.construct { cells := [.null, .null] } {}).1 = .ok () ∧
      (twoDeclaredGrids.construct { cells := [.null, .null] } {}).2.1.cells = gridCells ∧
      (2 = Value.dimensions [.array [.scalar (.bool true)], .array [.scalar (.bool false)]] ∧
        Cell.at? gridCells [0] = some (.ofArray (.ofKind .bool) [rowCell true, rowCell false] 2)) ∧
      (1 = Value.dimensions [.scalar (.bool false)] ∧
        Cell.at? gridCells [0, 1] = some (.ofArray (.ofKind .bool) [.ofScalar (.bool false)] 1)) ∧
      Overstated twoDeclaredGrids.declared[1]? [.scalar (.bool true)] ∧
        Cell.at? gridCells [1] =
          some (.ofArray (.ofKind .bool) [.ofScalar (.bool true)] (-1)) := by
  have agree := (dimensions_agree twoDeclaredGrids { cells := [.null, .null] } {}).2 rfl
  refine ⟨rfl, rfl, ⟨?_, rfl⟩, ⟨?_, rfl⟩,
    ⟨by simp, by simp [Value.items?], _, rfl, rfl, by decide⟩, rfl⟩
  · obtain ⟨items, value, -, top⟩ := agree [0] _ [rowCell true, rowCell false] 2 rfl rfl
    obtain rfl := Value.array.inj (Option.some.inj value)
    refine (top 0 rfl).2 fun overstated => ?_
    have leaf := overstated.2.1 _ List.mem_cons_self
    simp [Value.items?] at leaf
  · obtain ⟨items, value, nested, -⟩ := agree [0, 1] _ [.ofScalar (.bool false)] 1 rfl rfl
    obtain rfl := Value.array.inj (Option.some.inj value)
    exact nested (by decide)

end RuntimeBridge
