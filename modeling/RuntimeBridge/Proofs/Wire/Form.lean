/-
# The form of what was constructed

When construction succeeds, every array cell lies where an array of the values lies, and has the form
of that value.  Only at the top level can the declared type say otherwise: there it gives the leaf
kind (`Value.topLeaf`), and an array of leaves that is declared with several dimensions counts as
mixed (`Overstated`).

Main statement: `array_at_path`, what every array cell is, by the path that leads to it.
-/
import RuntimeBridge.Proofs.Wire.Structure
namespace RuntimeBridge

/-! ## 1. The top level -/

/-- An array of leaves, but not of none, that is declared with more than one dimension. -/
def Overstated (declared : Option TypeInfo) (items : List Value) : Prop :=
  items ≠ [] ∧ (∀ v ∈ items, v.items? = none) ∧
    ∃ info, declared = some info ∧ info.isAny = false ∧ 1 < info.dimensions

namespace Value

/-- The dimensions of an array cell at the top level. -/
def TopDimensions (declared : Option TypeInfo) (items : List Value) (found : Int) : Prop :=
  (Overstated declared items → found = mixedDimensions) ∧
    (¬ Overstated declared items → found = dimensions items)

/-- A type with several dimensions is the declared one where the array holds leaves alone. -/
theorem overstated_of_topType {declared : Option TypeInfo} {items : List Value}
    (some_item : items ≠ []) (flat : ∀ v ∈ items, v.items? = none)
    (several : 1 < ((array items).topType declared).dimensions) : Overstated declared items := by
  have own : ¬ 1 < (array items).typeInfo.dimensions := by
    rw [typeInfo_array, TypeInfo.ofArray, (dimensions_eq_one_iff items).mpr flat]
    exact Int.lt_irrefl 1
  cases declared with
  | none => exact absurd several own
  | some info =>
    rw [topType] at several
    split at several
    next => exact absurd several own
    next concrete => exact ⟨some_item, flat, info, rfl, by simpa using concrete, several⟩

theorem topType_of_concrete {v : Value} {info : TypeInfo} (h : info.isAny = false) :
    v.topType (some info) = info := by
  rw [topType, h, if_neg Bool.false_ne_true]

variable {i : Nat} {declared : Option TypeInfo} {v : Value} {cell : Cell} {w : World}

/-- Overstated arrays are not taken as one-dimensional. -/
theorem is1D_of_overstated {items : List Value} (overstated : Overstated declared items) :
    ValueSource.is1D ((array items).topType declared) items = false := by
  obtain ⟨-, -, info, rfl, concrete, several⟩ := overstated
  rw [topType_of_concrete concrete, ValueSource.is1D, if_neg (by omega), if_pos several]

/-- A row that was built as one-dimensional holds leaves alone. -/
theorem leaves_of_flat_row {path : IndexPath} {items : List Value}
    (ok : (buildItems (declaredLeaf? declared) path true 0 items w).outcome = .ok ()) :
    ∀ v ∈ items, v.items? = none := by
  intro v mem
  obtain ⟨j, inside, rfl⟩ := List.getElem_of_mem mem
  obtain ⟨len, each⟩ := buildItems_ok ok
  obtain ⟨before, built, same, plain⟩ := each j _ _ (List.getElem?_eq_getElem inside)
    (List.getElem?_eq_getElem (len ▸ inside))
  have form := (formed_of_build built).isArray_eq
  rw [same, plain rfl] at form
  simpa using form.symm

/-- The dimensions of a row at the top level. -/
theorem topDimensions_of_row {items : List Value}
    (ok : (buildItems (declaredLeaf? declared) [i]
      (ValueSource.is1D ((array items).topType declared) items) 0 items w).outcome = .ok ()) :
    TopDimensions declared items
      (if ValueSource.is1D ((array items).topType declared) items then 1
        else builtDimensions (buildItems (declaredLeaf? declared) [i]
          (ValueSource.is1D ((array items).topType declared) items) 0 items w).built) := by
  obtain ⟨len, rows⟩ := formed_of_buildItems ok
  cases flat : ValueSource.is1D ((array items).topType declared) items with
  | true =>
    rw [flat] at ok
    have leaves := leaves_of_flat_row ok
    refine ⟨fun overstated => ?_, fun _ => ?_⟩
    · rw [is1D_of_overstated overstated] at flat
      exact absurd flat Bool.false_ne_true
    · rw [if_pos rfl, (dimensions_eq_one_iff items).mpr leaves]
  | false =>
    rw [flat] at ok len rows
    rw [if_neg Bool.false_ne_true]
    refine ⟨fun overstated => builtDimensions_flat len rows overstated.1 overstated.2.1, fun fair => ?_⟩
    refine builtDimensions_eq len rows ?_
    by_cases leaves : ∀ v ∈ items, v.items? = none
    · by_cases nothing : items = []
      · exact .inl nothing
      · -- leaves alone are taken as one-dimensional unless the type says otherwise
        have several : 1 < ((array items).topType declared).dimensions := by
          have all : items.all (fun v => v.items?.isNone) = true := by simpa using leaves
          unfold ValueSource.is1D at flat
          split at flat
          next => simp at flat
          next =>
            split at flat
            next several => exact several
            next => simp [all] at flat
        exact absurd (overstated_of_topType nothing leaves several) fair
    · exact .inr (by simpa using leaves)

/-- **The form of a cell at the top level.** -/
theorem form_of_buildTop (ok : (v.buildTop i declared cell w).outcome = .ok ()) :
    (∃ kind payload owned,
      (v.buildTop i declared cell w).built = .plain (.ofKind kind) payload owned) ∨
    ∃ items cells dims, v = .array items ∧
      (v.buildTop i declared cell w).built =
        .ofArray (.ofKind (topLeaf declared items)) cells dims ∧
      TopDimensions declared items dims ∧ cells.length = items.length ∧
      ∀ (j : Nat) u c, items[j]? = some u → cells[j]? = some c →
        u.Formed (declaredLeaf? declared) c := by
  unfold buildTop at ok ⊢
  cases known : (v.topType declared).wireTag.isKnown with
  | false => simp [known, Source.refuse] at ok
  | true =>
    simp only [known, Bool.not_true, Bool.false_eq_true, if_false] at ok ⊢
    cases isArray : (v.topType declared).wireTag.isArray with
    | false =>
      simp only [isArray, Bool.false_eq_true, if_false] at ok ⊢
      cases kind : (v.topType declared).wireTag.kind? with
      | none => simp [kind, Source.refuse] at ok
      | some kind' =>
        simp only [kind] at ok ⊢
        exact .inl ⟨kind', built_of_fill ok⟩
    | true =>
      simp only [isArray, if_true] at ok ⊢
      cases array : v.items? with
      | none => simp [array, Source.refuse] at ok
      | some items =>
        obtain rfl := eq_array_of_items? array
        simp only [array] at ok ⊢
        rw [closeArray_outcome] at ok
        obtain ⟨len, rows⟩ := formed_of_buildItems ok
        refine .inr ⟨items, _, _, rfl, built_of_closeArray ok, topDimensions_of_row ok, len, rows⟩

end Value

/-! ## 2. Positions -/

/-- Every cell of a row that was built comes from a step of its own. -/
theorem buildRow_ok {σ : Type} {step : Nat → Cell → World → σ → Built σ Cell} {i : Nat}
    {cells : List Cell} {w : World} {s : σ} (ok : (buildRow step i cells w s).outcome = .ok ()) :
    ∀ (j : Nat) c, (buildRow step i cells w s).built[j]? = some c →
      ∃ old w s, (step (i + j) old w s).outcome = .ok () ∧ (step (i + j) old w s).built = c := by
  induction cells generalizing i w s with
  | nil => simp [buildRow]
  | cons old olds ih =>
    simp only [buildRow] at ok ⊢
    cases here : (step i old w s).outcome with
    | error stop => simp [here] at ok
    | ok =>
      simp only [here] at ok ⊢
      intro j c found
      cases j with
      | zero => exact ⟨old, w, s, here, by simpa using found⟩
      | succ j =>
        have index : i + (j + 1) = i + 1 + j := by omega
        rw [index]
        exact ih ok j c (by simpa using found)

section Missing

variable {src : ValueSource} {path : IndexPath}

theorem ValueSource.withValue_missing {α : Type} (nowhere : src.valueAt? path = none)
    (read : Value → Except BridgeError α) : src.withValue path read = .error (missing path) := by
  rw [withValue, nowhere]

/-- Where there is no value no cell is filled but with null. -/
theorem kind_of_missing {kind : BaseKind} {cell : Cell} {w : World} {s : Unit}
    (nowhere : src.valueAt? path = none)
    (ok : (src.source.constructLeaf path kind cell w s).outcome = .ok ()) : kind = .null := by
  cases kind with
  | null => rfl
  | any => simp [Source.constructLeaf, Source.refuse] at ok
  | _ =>
    simp [Source.constructLeaf, ValueSource.source, ValueSource.text, ValueSource.handle,
      ValueSource.callable, ValueSource.scalar, ValueSource.withValue_missing nowhere,
      Source.refuse] at ok

/-- Where there is no value no array is built. -/
theorem plain_of_missing {depth : Nat} {requested : Option TypeInfo} {cell : Cell} {w : World}
    (nowhere : src.valueAt? path = none)
    (ok : (src.source.constructCell depth path requested cell w ()).outcome = .ok ()) :
    ∃ kind payload owned, (src.source.constructCell depth path requested cell w ()).built =
      .plain (.ofKind kind) payload owned := by
  cases depth with
  | zero => simp [Source.constructCell] at ok
  | succ depth =>
    unfold Source.constructCell at ok ⊢
    rcases resolved : src.source.resolveType path requested () with ⟨_ | info, s⟩
    · simp [resolved, Source.refuse] at ok
    · simp only [resolved] at ok ⊢
      split at ok
      next => simp [Source.refuse] at ok
      next concrete =>
        split at ok
        next => simp [Source.refuse] at ok
        next known =>
          split at ok
          next =>
            simp [ValueSource.source, ValueSource.arrayMetadata,
              ValueSource.withValue_missing nowhere, Source.refuse] at ok
          next isLeaf =>
            rw [if_neg concrete, if_neg known, if_neg isLeaf]
            cases kind : info.wireTag.kind? with
            | none => simp [kind, Source.refuse] at ok
            | some k =>
              simp only [kind] at ok ⊢
              obtain rfl := kind_of_missing nowhere ok
              exact ⟨.null, _, _, rfl⟩

end Missing

/-- **The form of the cells of a constructed array.** -/
theorem form_of_construct {src : ValueSource} {a : CellArray} {w : World}
    (ok : (src.construct a w).1 = .ok ()) {i : Nat} {c : Cell}
    (found : (src.construct a w).2.1.cells[i]? = some c) :
    (∃ kind payload owned, c = .plain (.ofKind kind) payload owned) ∨
    ∃ items cells dims, src.values[i]? = some (.array items) ∧
      c = .ofArray (.ofKind (Value.topLeaf src.declared[i]? items)) cells dims ∧
      Value.TopDimensions src.declared[i]? items dims ∧ cells.length = items.length ∧
      ∀ (j : Nat) u d, items[j]? = some u → cells[j]? = some d →
        u.Formed (declaredLeaf? src.declared[i]?) d := by
  obtain ⟨old, before, ⟨⟩, built, rfl⟩ := buildRow_ok ok i c found
  rw [Nat.zero_add] at built ⊢
  cases atIndex : src.valueAt? [i] with
  | none => exact .inl (plain_of_missing atIndex built)
  | some v =>
    rw [src.valueAt?_single] at atIndex
    have enough := ValueSource.depth_lt (List.mem_of_getElem? atIndex)
    rw [constructCell_eq_buildTop ((src.valueAt?_single i).trans atIndex) enough] at built ⊢
    rcases Value.form_of_buildTop built with plain | ⟨items, cells, dims, rfl, form⟩
    · exact .inl plain
    · exact .inr ⟨items, cells, dims, atIndex, form⟩

/-! ## 3. Paths to cells -/

namespace Cell

/-- The cell that indices lead to from `c`. -/
def descend? (c : Cell) : List Nat → Option Cell
  | [] => some c
  | i :: rest => (c.items?.bind fun items => items[i]?).bind fun item => descend? item rest

/-- The cell at a path in some cells. -/
def at? (cells : List Cell) : IndexPath → Option Cell
  | [] => none
  | i :: rest => cells[i]?.bind fun c => descend? c rest

end Cell

/-- Where a path leads in a built cell, there it leads in the value, and the form is kept. -/
theorem Value.Formed.descend? {declared : Option BaseKind} {v : Value} {c d : Cell}
    (form : v.Formed declared c) {path : List Nat} (found : c.descend? path = some d) :
    ∃ u, ValueSource.descend? v path = some u ∧ u.Formed declared d := by
  induction path generalizing v c with
  | nil =>
    obtain rfl := Option.some.inj found
    exact ⟨v, rfl, form⟩
  | cons i rest ih =>
    cases form with
    | leaf payload owned leaf => simp [Cell.descend?, Cell.items?, Cell.array?] at found
    | @array items cells len rows =>
      rw [Cell.descend?, items?_ofArray, Option.bind_some, Option.bind_eq_some_iff] at found
      obtain ⟨c, atCell, deeper⟩ := found
      have inside : i < items.length := len ▸ (List.getElem?_eq_some_iff.mp atCell).1
      have atValue := List.getElem?_eq_getElem inside
      obtain ⟨u, leads, form⟩ := ih (rows i _ c atValue atCell) deeper
      refine ⟨u, ?_, form⟩
      rw [ValueSource.descend?, Value.items?, Option.bind_some, atValue]
      exact leads

/-- What an array cell at a path is: the value there is an array, the elements have the form of its
elements, and leaf kind and dimensions are those of inspection unless the type of a top-level
position says otherwise. -/
structure ArrayAt (src : ValueSource) (path : IndexPath) (items : List Value) (leaf : BaseKind)
    (cells : List Cell) (dims : Int) : Prop where
  value : src.valueAt? path = some (.array items)
  length : cells.length = items.length
  rows : ∀ (j : Nat) u d, items[j]? = some u → cells[j]? = some d →
    u.Formed (src.declaredKind? path) d
  nested : 2 ≤ path.length → leaf = (Value.sharedKind items).under (src.declaredKind? path) ∧
    dims = Value.dimensions items
  top : ∀ i, path = [i] → leaf = Value.topLeaf src.declared[i]? items ∧
    Value.TopDimensions src.declared[i]? items dims

/-- **Every array cell lies over an array of the values.** -/
theorem array_at_path {src : ValueSource} {a : CellArray} {w : World}
    (ok : (src.construct a w).1 = .ok ()) {path : IndexPath} {c : Cell}
    (found : Cell.at? (src.construct a w).2.1.cells path = some c)
    (isArray : c.tag.isArray = true) :
    ∃ items leaf cells dims, c = .ofArray (.ofKind leaf) cells dims ∧
      ArrayAt src path items leaf cells dims := by
  cases path with
  | nil => simp [Cell.at?] at found
  | cons i rest =>
    rw [Cell.at?, Option.bind_eq_some_iff] at found
    obtain ⟨top, atTop, deeper⟩ := found
    rcases form_of_construct ok atTop with
      ⟨kind, payload, owned, rfl⟩ | ⟨items, cells, dims, atValue, rfl, topDims, len, rows⟩
    · cases rest with
      | nil =>
        obtain rfl := Option.some.inj deeper
        simp [Cell.tag] at isArray
      | cons j rest => simp [Cell.descend?, Cell.items?, Cell.array?] at deeper
    · cases rest with
      | nil =>
        obtain rfl := Option.some.inj deeper
        refine ⟨items, _, cells, dims, rfl, (src.valueAt?_single i).trans atValue, len, ?_, ?_, ?_⟩
        · rwa [src.declaredKind?_cons]
        · simp
        · intro k same
          obtain rfl : i = k := by simpa using same
          exact ⟨rfl, topDims⟩
      | cons j rest =>
        rw [Cell.descend?, Value.items?_ofArray, Option.bind_some, Option.bind_eq_some_iff] at deeper
        obtain ⟨element, atCell, deeper⟩ := deeper
        have inside : j < items.length := len ▸ (List.getElem?_eq_some_iff.mp atCell).1
        have atItem := List.getElem?_eq_getElem inside
        obtain ⟨u, leads, form⟩ := (rows j _ element atItem atCell).descend? deeper
        have value : src.valueAt? (i :: j :: rest) = some u := by
          rw [ValueSource.valueAt?, atValue, Option.bind_some, ValueSource.descend?, Value.items?,
            Option.bind_some, atItem]
          exact leads
        cases form with
        | leaf payload owned leaf => simp [Cell.tag] at isArray
        | @array inner innerCells innerLen innerRows =>
          refine ⟨inner, _, innerCells, _, rfl, value, innerLen, ?_, ?_, ?_⟩
          · rwa [src.declaredKind?_cons]
          · intro _
            rw [src.declaredKind?_cons]
            exact ⟨rfl, rfl⟩
          · intro k same
            simp at same

end RuntimeBridge
