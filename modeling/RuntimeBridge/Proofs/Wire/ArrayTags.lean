/-
# What the tag of an array says of its leaves

An array cell carries the tag that its leaves share, or `any`.  Below the top level that is so by
construction.  At the top level the tag is the declared one, whether or not the leaves take it: a leaf
takes it only if that is of its own class.

Main statement: `arrayTag_sound_iff`, when exactly the leaves of an array have its tag.
-/
import RuntimeBridge.Proofs.Wire.Form
namespace RuntimeBridge

/-! ## 1. Leaf cells -/

namespace Cell

mutual

/-- The cells below a cell that are no arrays, from left to right. -/
def leaves : Cell → List Cell
  | plain tag payload owned => [plain tag payload owned]
  | array tag items dimensions owned =>
    if tag.isArray then leavesOf items else [array tag items dimensions owned]

def leavesOf : List Cell → List Cell
  | [] => []
  | c :: cs => c.leaves ++ leavesOf cs

end

theorem leaves_ofArray (leaf : BaseKind) (cells : List Cell) (dimensions : Int) :
    (ofArray (.ofKind leaf) cells dimensions).leaves = leavesOf cells := by
  rw [ofArray, leaves, TypeTag.isArray_withArray_ofKind, if_pos rfl]

end Cell

namespace Value

variable {declared : Option BaseKind}

theorem tags_of_rows {items : List Value} {cells : List Cell} (len : cells.length = items.length)
    (rows : ∀ (i : Nat) v c, items[i]? = some v → cells[i]? = some c →
      c.leaves.map Cell.tag = v.leaves.map fun leaf => .ofKind (leaf.leafKind.under declared)) :
    (Cell.leavesOf cells).map Cell.tag =
      (leavesOf items).map fun leaf => .ofKind (leaf.leafKind.under declared) := by
  induction items generalizing cells with
  | nil =>
    rw [List.length_eq_zero_iff.mp len]
    rfl
  | cons v vs ih =>
    cases cells with
    | nil => simp at len
    | cons c cs =>
      rw [Cell.leavesOf, leavesOf, List.map_append, List.map_append, rows 0 v c rfl rfl,
        ih (by simpa using len) fun i u d atValue atCell =>
          rows (i + 1) u d (by simpa using atValue) (by simpa using atCell)]

/-- **Leaves are built one by one**: each leaf cell has the tag that its value takes. -/
theorem Formed.tags {v : Value} {c : Cell} (form : v.Formed declared c) :
    c.leaves.map Cell.tag = v.leaves.map fun leaf => .ofKind (leaf.leafKind.under declared) := by
  induction form with
  | leaf payload owned leaf =>
    rw [leaves_of_leaf leaf]
    rfl
  | array len rows ih =>
    rw [Cell.leaves_ofArray, leaves_array]
    exact tags_of_rows len ih

end Value

/-! ## 2. When leaves have the tag of their array -/

/-- A top-level position declares a leaf kind that some leaf of its array neither has nor takes. -/
def Misdeclared (src : ValueSource) (path : IndexPath) : Prop :=
  ∃ i kind items leaf, path = [i] ∧ declaredLeaf? src.declared[i]? = some kind ∧
    src.values[i]? = some (.array items) ∧ leaf ∈ Value.leavesOf items ∧
    leaf.leafKind ≠ kind ∧ kind.sameClass leaf.leafKind = false

namespace BaseKind

theorem under_eq_iff {kind own : BaseKind} :
    own.under (some kind) = kind ↔ ¬ (own ≠ kind ∧ kind.sameClass own = false) := by
  rw [under]
  cases kind.sameClass own <;> simp

end BaseKind

/-- Where leaves share the leaf kind of their array without a declared one, they have it. -/
theorem Value.under_sharedKind {declared : Option BaseKind} {items : List Value}
    (known : (sharedKind items).under declared ≠ .any) {leaf : Value}
    (mem : leaf ∈ leavesOf items) :
    leaf.leafKind.under declared = (sharedKind items).under declared := by
  have shared : sharedKind items ≠ .any := by
    intro mixed
    rw [mixed, BaseKind.under_any] at known
    exact known rfl
  rw [leafKind_eq_sharedKind shared mem]

/-- The tag of an array in terms of its values. -/
theorem ArrayAt.sound_iff {src : ValueSource} {path : IndexPath} {items : List Value}
    {leaf : BaseKind} {cells : List Cell} {dims : Int} (here : ArrayAt src path items leaf cells dims) :
    (∀ c ∈ (Cell.ofArray (.ofKind leaf) cells dims).leaves, c.tag = .ofKind leaf) ↔
      ∀ v ∈ Value.leavesOf items, v.leafKind.under (src.declaredKind? path) = leaf := by
  have tags := Value.tags_of_rows here.length fun i v c atValue atCell =>
    (here.rows i v c atValue atCell).tags
  have each := List.forall_mem_map (f := Cell.tag) (l := Cell.leavesOf cells)
    (P := fun tag => tag = .ofKind leaf)
  rw [tags, List.forall_mem_map] at each
  rw [Cell.leaves_ofArray, ← each]
  simp only [TypeTag.ofKind_inj]

theorem ArrayAt.sound_nested {src : ValueSource} {path : IndexPath} {items : List Value}
    {leaf : BaseKind} {cells : List Cell} {dims : Int} (here : ArrayAt src path items leaf cells dims)
    (known : leaf ≠ .any) (nested : 2 ≤ path.length) :
    ∀ v ∈ Value.leavesOf items, v.leafKind.under (src.declaredKind? path) = leaf := by
  obtain ⟨rfl, -⟩ := here.nested nested
  exact fun v mem => Value.under_sharedKind known mem

theorem ArrayAt.sound_top {src : ValueSource} {i : Nat} {items : List Value} {leaf : BaseKind}
    {cells : List Cell} {dims : Int} (here : ArrayAt src [i] items leaf cells dims)
    (known : leaf ≠ .any) :
    (∀ v ∈ Value.leavesOf items, v.leafKind.under (src.declaredKind? [i]) = leaf) ↔
      ¬ Misdeclared src [i] := by
  obtain ⟨rfl, -⟩ := here.top i rfl
  have value := (src.valueAt?_single i).symm.trans here.value
  rw [src.declaredKind?_cons]
  unfold Value.topLeaf at known ⊢
  cases kind : declaredLeaf? src.declared[i]? with
  | none =>
    rw [kind] at known
    refine iff_of_true (fun v mem => ?_) ?_
    · exact Value.leafKind_eq_sharedKind known mem
    · rintro ⟨j, k, -, -, same, declares, -⟩
      obtain rfl : i = j := by simpa using same
      simp [kind] at declares
  | some kind' =>
    simp only [Option.getD_some, BaseKind.under_eq_iff]
    constructor
    · rintro sound ⟨j, k, found, v, same, declares, atIndex, mem, differs⟩
      obtain rfl : i = j := by simpa using same
      obtain rfl : kind' = k := by simpa [kind] using declares
      obtain rfl : items = found := by simpa using value.symm.trans atIndex
      exact sound v mem differs
    · intro fits v mem differs
      exact fits ⟨i, kind', items, v, rfl, kind, value, mem, differs⟩

/-- **The tag of an array is that of its leaves**, unless the declared type of a top-level position
names a kind that some leaf there neither has nor takes. -/
theorem arrayTag_sound_iff (src : ValueSource) (a : CellArray) (w : World)
    (ok : (src.construct a w).1 = .ok ()) (path : IndexPath) (c : Cell)
    (found : Cell.at? (src.construct a w).2.1.cells path = some c)
    (isArray : c.tag.isArray = true) (concrete : c.tag.base ≠ .any) :
    (∀ leaf ∈ c.leaves, leaf.tag = c.tag.base) ↔ ¬ Misdeclared src path := by
  obtain ⟨items, leaf, cells, dims, rfl, here⟩ := array_at_path ok found isArray
  have tag : (Cell.ofArray (.ofKind leaf) cells dims).tag.base = .ofKind leaf :=
    TypeTag.base_withArray_ofKind leaf
  have known : leaf ≠ .any := by
    rintro rfl
    exact concrete tag
  rw [tag, here.sound_iff]
  by_cases nested : 2 ≤ path.length
  · refine iff_of_true (here.sound_nested known nested) ?_
    rintro ⟨i, -, -, -, rfl, -⟩
    simp at nested
  · match path, found, here with
    | [], found, _ => simp [Cell.at?] at found
    | [i], _, here => exact here.sound_top known
    | _ :: _ :: rest, _, _ => simp at nested

/-- Two arrays declared as arrays of 32-bit integers; there is a null in the second one. -/
def declaredIntegers : ValueSource where
  values :=
    [.array [.scalar (.int .int8 ⟨3, by decide⟩)],
      .array [.scalar (.int .int8 ⟨3, by decide⟩), .null]]
  declared := [.ofArray (.ofKind (.int .int32)) 1, .ofArray (.ofKind (.int .int32)) 1]

/-- The first of the two array cells. -/
def widenedIntegers : Cell :=
  .ofArray (.ofKind (.int .int32)) [.ofScalar (.int .int32 ⟨3, by decide⟩)] 1

/-- A narrower integer takes the declared kind. -/
theorem arrayTag_declaredIntegers :
    Cell.at? (declaredIntegers.construct { cells := [.null, .null] } {}).2.1.cells [0] =
        some widenedIntegers ∧
      ∀ leaf ∈ widenedIntegers.leaves, leaf.tag = .ofKind (.int .int32) := by
  have sound := arrayTag_sound_iff declaredIntegers { cells := [.null, .null] } {} rfl [0] _ rfl rfl
    (by decide)
  refine ⟨rfl, sound.mpr ?_⟩
  rintro ⟨i, kind, items, leaf, same, declares, value, mem, -, other⟩
  obtain rfl : 0 = i := by simpa using same
  obtain rfl := Option.some.inj declares
  obtain rfl := Value.array.inj (Option.some.inj value)
  simp only [Value.leavesOf, Value.leaves, List.append_nil, List.mem_singleton] at mem
  rw [mem] at other
  exact absurd other (by decide)

/-- A null does not, but the array is tagged as declared all the same: its tag tells nothing of the
leaf. -/
theorem arrayTag_not_sound :
    ¬ ∀ (src : ValueSource) (a : CellArray) (w : World), (src.construct a w).1 = .ok () →
      ∀ path c, Cell.at? (src.construct a w).2.1.cells path = some c → c.tag.isArray = true →
        c.tag.base ≠ .any → c.tag.base.bits ≠ 0 → ∀ leaf ∈ c.leaves, leaf.tag = c.tag.base := by
  intro sound
  let tagged : Cell :=
    .ofArray (.ofKind (.int .int32)) [.ofScalar (.int .int32 ⟨3, by decide⟩), .null] 1
  have below : Cell.null ∈ tagged.leaves := by
    rw [Cell.leaves_ofArray]
    exact List.mem_cons_of_mem _ List.mem_cons_self
  have isArray : tagged.tag.isArray = true := TypeTag.isArray_withArray_ofKind _
  have leaf := sound declaredIntegers { cells := [.null, .null] } {} rfl [1] tagged rfl isArray
    (by decide) (by decide) .null below
  exact absurd leaf (by decide)

end RuntimeBridge
