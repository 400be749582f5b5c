/-
# Building by recursion on the value

Below the top level, construction from values has a plain description: a recursion on the value that
carries only the leaf kind declared at the top (`Value.build`).  A leaf takes the declared kind if
that is of its own class; an array takes the kind that its leaves share, and the dimensions that
inspection finds.

What is built has the form of the value (`formed_of_build`).  So the levels read off built cells,
where only first elements are looked at, are those of the value (`Formed.levels?_eq`).
-/
import RuntimeBridge.Proofs.Wire.Leaf
namespace RuntimeBridge

/-! ## 1. Declared kinds -/

namespace BaseKind

/-- Values of one kind can be given as values of the other. -/
def sameClass (a b : BaseKind) : Bool :=
  (a.isNumeric && b.isNumeric) || (a.isString && b.isString) || (a.isChar && b.isChar)

/-- The kind that leaves of a kind take under a declared one. -/
def under (declared : Option BaseKind) (own : BaseKind) : BaseKind :=
  match declared with
  | some kind => if kind.sameClass own then kind else own
  | none => own

theorem under_self (kind : BaseKind) : kind.under (some kind) = kind := by
  simp [under]

theorem under_any (declared : Option BaseKind) : any.under declared = any := by
  cases declared with
  | none => rfl
  | some kind => simp [under, sameClass, isNumeric, isString, isChar]

theorem under_ne_any {declared : Option BaseKind} {own : BaseKind} (h : own ≠ any) :
    own.under declared ≠ any := by
  cases declared with
  | none => exact h
  | some kind =>
    rw [under]
    split
    next same =>
      rintro rfl
      simp [sameClass, isNumeric, isString, isChar] at same
    next => exact h

end BaseKind

/-! ## 2. Building -/

/-- The array cell over a row of built elements; where the row failed it has no dimensions. -/
def closeArray (leaf : BaseKind) (dimensions : Int) (row : Built Unit (List Cell)) :
    Built Unit Cell :=
  match row.outcome with
  | .error stop =>
    ⟨.error stop, .ofArray (.ofKind leaf) row.built mixedDimensions, row.world, row.state⟩
  | .ok () => ⟨.ok (), .ofArray (.ofKind leaf) row.built dimensions, row.world, row.state⟩

namespace Value

mutual

/-- The cell of a value below the top level, under the leaf kind declared there. -/
def build (declared : Option BaseKind) (path : IndexPath) : Value → World → Built Unit Cell
  | .array items, w =>
    closeArray ((sharedKind items).under declared) (dimensions items)
      (buildItems declared path false 0 items w)
  | v, w => v.fill path (v.leafKind.under declared) .null w

/-- The cells of elements from index `i` on; in a flat row none may be an array. -/
def buildItems (declared : Option BaseKind) (path : IndexPath) (flat : Bool) :
    Nat → List Value → World → Built Unit (List Cell)
  | _, [], w => ⟨.ok (), [], w, ()⟩
  | i, v :: vs, w =>
    let here := Source.checkElement (path ++ [i]) flat (v.build declared (path ++ [i]) w)
    match here.outcome with
    | .error stop =>
      ⟨.error stop, here.built :: List.replicate vs.length Cell.null, here.world, ()⟩
    | .ok () =>
      let rest := buildItems declared path flat (i + 1) vs here.world
      ⟨rest.outcome, here.built :: rest.built, rest.world, ()⟩

end

theorem build_leaf {v : Value} (h : v.items? = none) (declared : Option BaseKind)
    (path : IndexPath) (w : World) :
    v.build declared path w = v.fill path (v.leafKind.under declared) .null w := by
  cases v <;> simp_all [items?, build]

theorem build_array (items : List Value) (declared : Option BaseKind) (path : IndexPath)
    (w : World) :
    (array items).build declared path w =
      closeArray ((sharedKind items).under declared) (dimensions items)
        (buildItems declared path false 0 items w) := by
  rw [build]

theorem buildItems_cons (declared : Option BaseKind) (path : IndexPath) (flat : Bool) (i : Nat)
    (v : Value) (vs : List Value) (w : World) :
    buildItems declared path flat i (v :: vs) w =
      let here := Source.checkElement (path ++ [i]) flat (v.build declared (path ++ [i]) w)
      match here.outcome with
      | .error stop =>
        ⟨.error stop, here.built :: List.replicate vs.length Cell.null, here.world, ()⟩
      | .ok () =>
        let rest := buildItems declared path flat (i + 1) vs here.world
        ⟨rest.outcome, here.built :: rest.built, rest.world, ()⟩ := by
  rw [buildItems]

end Value

theorem closeArray_outcome (leaf : BaseKind) (dimensions : Int) (row : Built Unit (List Cell)) :
    (closeArray leaf dimensions row).outcome = row.outcome := by
  unfold closeArray
  cases h : row.outcome <;> rfl

theorem closeArray_world (leaf : BaseKind) (dimensions : Int) (row : Built Unit (List Cell)) :
    (closeArray leaf dimensions row).world = row.world := by
  unfold closeArray
  cases row.outcome <;> rfl

theorem built_of_closeArray {leaf : BaseKind} {dimensions : Int} {row : Built Unit (List Cell)}
    (ok : row.outcome = .ok ()) :
    (closeArray leaf dimensions row).built = .ofArray (.ofKind leaf) row.built dimensions := by
  simp only [closeArray, ok]

/-- Dimensions matter where the row was built. -/
theorem closeArray_congr {leaf : BaseKind} {d e : Int} {row : Built Unit (List Cell)}
    (same : row.outcome = .ok () → d = e) : closeArray leaf d row = closeArray leaf e row := by
  unfold closeArray
  cases h : row.outcome with
  | error stop => rfl
  | ok => rw [same h]

/-! ## 3. The form of built cells -/

/-- The cell has the form of the value: its tags are those of the value under a declared leaf kind,
and each array in it has as many elements as the one in the value, and the dimensions of that. -/
inductive Value.Formed (declared : Option BaseKind) : Value → Cell → Prop
  | leaf {v : Value} (payload : Payload) (owned : Bool) : v.items? = none →
      Formed declared v (.plain (.ofKind (v.leafKind.under declared)) payload owned)
  | array {items : List Value} {cells : List Cell} : cells.length = items.length →
      (∀ (i : Nat) v c, items[i]? = some v → cells[i]? = some c → Formed declared v c) →
      Formed declared (.array items)
        (.ofArray (.ofKind ((sharedKind items).under declared)) cells (dimensions items))

/-- Where arrays are allowed every element passes. -/
theorem Source.checkElement_nested {σ : Type} (path : IndexPath) (r : Built σ Cell) :
    checkElement path false r = r := by
  unfold checkElement
  split <;> simp

theorem Source.checkElement_ok {σ : Type} {path : IndexPath} {flat : Bool} {r : Built σ Cell}
    (ok : (checkElement path flat r).outcome = .ok ()) :
    checkElement path flat r = r ∧ r.outcome = .ok () ∧
      (flat = true → r.built.tag.isArray = false) := by
  unfold checkElement at ok ⊢
  split at ok
  next stop failed => simp [failed] at ok
  next fine =>
    split at ok
    next => simp at ok
    next no => exact ⟨if_neg no, fine, by simpa using no⟩

namespace Value

variable {declared : Option BaseKind}

/-- What a row that was built says of each of its cells. -/
theorem buildItems_ok {path : IndexPath} {flat : Bool} {i : Nat} {items : List Value} {w : World}
    (ok : (buildItems declared path flat i items w).outcome = .ok ()) :
    (buildItems declared path flat i items w).built.length = items.length ∧
      ∀ (j : Nat) v c, items[j]? = some v → (buildItems declared path flat i items w).built[j]? = some c →
        ∃ before, (v.build declared (path ++ [i + j]) before).outcome = .ok () ∧
          (v.build declared (path ++ [i + j]) before).built = c ∧
          (flat = true → c.tag.isArray = false) := by
  induction items generalizing i w with
  | nil => exact ⟨rfl, by simp⟩
  | cons v vs ih =>
    rw [buildItems_cons] at ok ⊢
    cases step : (Source.checkElement (path ++ [i]) flat
      (v.build declared (path ++ [i]) w)).outcome with
    | error stop => simp [step] at ok
    | ok =>
      obtain ⟨same, built, plain⟩ := Source.checkElement_ok step
      simp only [step] at ok ⊢
      obtain ⟨len, each⟩ := ih ok
      refine ⟨congrArg (· + 1) len, ?_⟩
      intro j u c atValue atCell
      cases j with
      | zero =>
        obtain rfl : v = u := by simpa using atValue
        have here : (v.build declared (path ++ [i]) w).built = c := by simpa [same] using atCell
        exact ⟨w, built, here, here ▸ plain⟩
      | succ j =>
        have index : i + (j + 1) = i + 1 + j := by omega
        rw [index]
        exact each j u c (by simpa using atValue) (by simpa using atCell)

/-- **Built cells have the form of their values.** -/
theorem formed_of_build {v : Value} {path : IndexPath} {w : World}
    (ok : (v.build declared path w).outcome = .ok ()) :
    v.Formed declared (v.build declared path w).built := by
  induction v using induct generalizing path w with
  | leaf v h =>
    rw [build_leaf h] at ok ⊢
    obtain ⟨payload, owned, built⟩ := built_of_fill ok
    rw [built]
    exact .leaf payload owned h
  | array items ih =>
    rw [build_array] at ok ⊢
    rw [closeArray_outcome] at ok
    obtain ⟨len, each⟩ := buildItems_ok ok
    rw [built_of_closeArray ok]
    refine .array len fun i v c atValue atCell => ?_
    obtain ⟨before, built, rfl, -⟩ := each i v c atValue atCell
    exact ih v (List.mem_of_getElem? atValue) built

/-- So have the cells of a row. -/
theorem formed_of_buildItems {path : IndexPath} {flat : Bool} {i : Nat} {items : List Value}
    {w : World} (ok : (buildItems declared path flat i items w).outcome = .ok ()) :
    (buildItems declared path flat i items w).built.length = items.length ∧
      ∀ (j : Nat) v c, items[j]? = some v →
        (buildItems declared path flat i items w).built[j]? = some c → v.Formed declared c := by
  obtain ⟨len, each⟩ := buildItems_ok ok
  refine ⟨len, fun j v c atValue atCell => ?_⟩
  obtain ⟨before, built, rfl, -⟩ := each j v c atValue atCell
  exact formed_of_build built

/-- Arrays and nothing else become array cells. -/
theorem Formed.isArray_eq {v : Value} {c : Cell} (h : v.Formed declared c) :
    c.tag.isArray = v.items?.isSome := by
  cases h with
  | leaf payload owned leaf => rw [leaf, Cell.tag, TypeTag.isArray_ofKind, Option.isSome_none]
  | array => rw [Cell.ofArray, Cell.tag, TypeTag.isArray_withArray_ofKind, items?, Option.isSome_some]

/-! ## 4. Levels of built cells -/

/-- The levels of an array; a leaf has none here. -/
def arrayLevels? (v : Value) : Option (List Nat) :=
  v.items?.bind fun _ => v.levels?

theorem arrayLevels?_of_leaf {v : Value} (h : v.items? = none) : v.arrayLevels? = none := by
  rw [arrayLevels?, h]
  rfl

theorem arrayLevels?_of_array {v : Value} (h : v.items? ≠ none) : v.arrayLevels? = v.levels? := by
  obtain ⟨items, found⟩ := Option.ne_none_iff_exists'.mp h
  rw [arrayLevels?, found]
  rfl

theorem items?_ofArray (leaf : BaseKind) (cells : List Cell) (dimensions : Int) :
    (Cell.ofArray (.ofKind leaf) cells dimensions).items? = some cells := by
  simp [Cell.items?, Cell.array?, Cell.ofArray]

theorem levels?_ofArray (leaf : BaseKind) (cells : List Cell) (dimensions : Int) :
    (Cell.ofArray (.ofKind leaf) cells dimensions).levels? =
      if dimensions = mixedDimensions then none
      else some (lengthsDown (dimensions.toNat - 1) cells) := by
  simp [Cell.levels?, Cell.ofArray, Cell.array?]

/-- The levels that the elements of an array share decide its own. -/
theorem levels?_array_cases (items : List Value) :
    (dimensions items = mixedDimensions ∧ (array items).levels? = none) ∨
      ∃ below, agreedLevels (items.map levels?) = some below ∧
        dimensions items = below.length + 1 ∧
        (array items).levels? = some (items.length :: below) := by
  rw [dimensions_eq, levels?_array]
  cases agreedLevels (items.map levels?) with
  | none => exact .inl ⟨rfl, rfl⟩
  | some below => exact .inr ⟨below, rfl, rfl, rfl⟩

/-- **Levels are read off built cells**: an array cell has the levels of its value, though only its
first elements are looked at; any other cell has none. -/
theorem Formed.levels?_eq {v : Value} {c : Cell} (h : v.Formed declared c) :
    c.levels? = v.arrayLevels? := by
  induction h with
  | leaf payload owned leaf =>
    rw [arrayLevels?_of_leaf leaf]
    rfl
  | @array items cells len rows ih =>
    rw [arrayLevels?_of_array (by simp [items?]), levels?_ofArray]
    rcases levels?_array_cases items with ⟨mixed, ragged⟩ | ⟨below, agreed, dims, levels⟩
    · rw [if_pos mixed, ragged]
    · have regular : dimensions items ≠ mixedDimensions := by
        rw [dims, mixedDimensions]
        omega
      have count : (dimensions items).toNat - 1 = below.length := by
        rw [dims]
        omega
      rw [if_neg regular, count, levels]
      obtain ⟨empty, same⟩ := agreedLevels_eq_some.mp agreed
      cases below with
      | nil => simp [lengthsDown, len]
      | cons n below =>
        -- the first element is an array, and its levels go on where those of the row stop
        cases items with
        | nil => simp at empty
        | cons v vs =>
          cases cells with
          | nil => simp at len
          | cons c cs =>
            have first : v.levels? = some (n :: below) := same _ (by simp)
            have inner := ih 0 v c rfl rfl
            have formed := rows 0 v c rfl rfl
            cases formed with
            | leaf _ _ leaf => simp [levels?_of_leaf leaf] at first
            | @array inside innerCells _ _ =>
              have innerDims := dimensions_of_hasShape ((hasShape_iff _ _).mpr first)
              have innerRegular : dimensions inside ≠ mixedDimensions := by
                rw [innerDims, mixedDimensions]
                omega
              rw [levels?_ofArray, if_neg innerRegular, innerDims,
                arrayLevels?_of_array (by simp [items?]), first] at inner
              have down : lengthsDown below.length innerCells = n :: below :=
                Option.some.inj inner
              simp only [List.length_cons, lengthsDown, List.head?_cons, Option.bind_some,
                items?_ofArray, down]
              rw [show cs.length = vs.length by simpa using len]

theorem map_levels? {items : List Value} {cells : List Cell} (len : cells.length = items.length)
    (rows : ∀ (i : Nat) v c, items[i]? = some v → cells[i]? = some c → Formed declared v c) :
    cells.map Cell.levels? = items.map arrayLevels? := by
  refine List.ext_getElem (by simpa using len) fun i atCell atValue => ?_
  simp only [List.getElem_map]
  rw [List.length_map] at atCell atValue
  exact (rows i _ _ (List.getElem?_eq_getElem atValue)
    (List.getElem?_eq_getElem atCell)).levels?_eq

/-- Cells with the form of some elements agree on their levels just as the elements do, unless all
elements are leaves. -/
theorem builtDimensions_eq {items : List Value} {cells : List Cell}
    (len : cells.length = items.length)
    (rows : ∀ (i : Nat) v c, items[i]? = some v → cells[i]? = some c → Formed declared v c)
    (nested : items = [] ∨ ∃ v ∈ items, v.items? ≠ none) :
    builtDimensions cells = dimensions items := by
  rw [builtDimensions, map_levels? len rows, dimensions_eq]
  congr 1
  rcases nested with rfl | ⟨row, member, isArray⟩
  · rfl
  · -- one array among the elements tells the two lists of levels apart only where they disagree
    have agree : ∀ below, agreedLevels (items.map arrayLevels?) = some below ↔
        agreedLevels (items.map levels?) = some below := by
      intro below
      simp only [agreedLevels_eq_some, List.map_eq_nil_iff, List.forall_mem_map]
      refine and_congr_right fun _ => ⟨fun same v mem => ?_, fun same v mem => ?_⟩
      · have := same v mem
        by_cases leaf : v.items? = none
        · simp [arrayLevels?_of_leaf leaf] at this
        · rwa [arrayLevels?_of_array leaf] at this
      · by_cases leaf : v.items? = none
        · have nothing := same v mem
          have row_levels := same row member
          rw [← nothing, levels?_of_leaf leaf] at row_levels
          obtain ⟨inner, found⟩ := Option.ne_none_iff_exists'.mp isArray
          rw [eq_array_of_items? found, levels?_array] at row_levels
          simp at row_levels
        · rw [arrayLevels?_of_array leaf]
          exact same v mem
    exact Option.ext agree

/-- Cells of leaves have no levels, so a row of them counts as mixed. -/
theorem builtDimensions_flat {items : List Value} {cells : List Cell}
    (len : cells.length = items.length)
    (rows : ∀ (i : Nat) v c, items[i]? = some v → cells[i]? = some c → Formed declared v c)
    (some_item : items ≠ []) (flat : ∀ v ∈ items, v.items? = none) :
    builtDimensions cells = mixedDimensions := by
  rw [builtDimensions, map_levels? len rows]
  cases agreed : agreedLevels (items.map arrayLevels?) with
  | none => rfl
  | some below =>
    obtain ⟨v, mem⟩ := List.exists_mem_of_ne_nil _ some_item
    have level := (agreedLevels_eq_some.mp agreed).2 _ (List.mem_map_of_mem mem)
    simp [arrayLevels?_of_leaf (flat v mem)] at level

end Value

end RuntimeBridge
