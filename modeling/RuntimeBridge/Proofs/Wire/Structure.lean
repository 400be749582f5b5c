/-
# Construction follows the value

Construction from values looks every value up by its path and asks for its type before anything else.
This module shows that nothing but the value at the path matters: below the top level construction is
`Value.build`, and at the top level it is `Value.buildTop`, which knows the declared type as well.

Main statements: `constructCell_eq_build` and `constructCell_eq_buildTop`, the two agree in
everything, failures included.
-/
import RuntimeBridge.Proofs.Wire.Build
namespace RuntimeBridge

/-! ## 1. Paths -/

namespace ValueSource

theorem descend?_append (v : Value) (path : List Nat) (i : Nat) :
    descend? v (path ++ [i]) =
      (descend? v path).bind fun u => u.items?.bind fun items => items[i]? := by
  induction path generalizing v with
  | nil => simp [descend?]
  | cons j rest ih =>
    simp only [List.cons_append, descend?]
    cases v.items?.bind fun items => items[j]? with
    | none => rfl
    | some u => exact ih u

/-- One more index leads to an element of the array that the path leads to. -/
theorem valueAt?_append (src : ValueSource) {path : IndexPath} (inside : path ≠ []) (i : Nat) :
    src.valueAt? (path ++ [i]) =
      (src.valueAt? path).bind fun v => v.items?.bind fun items => items[i]? := by
  cases path with
  | nil => exact absurd rfl inside
  | cons first rest =>
    simp only [List.cons_append, valueAt?]
    cases src.values[first]? with
    | none => rfl
    | some v => exact descend?_append v rest i

theorem valueAt?_element {src : ValueSource} {path : IndexPath} (inside : path ≠ [])
    {items : List Value} (found : src.valueAt? path = some (.array items)) (i : Nat) :
    src.valueAt? (path ++ [i]) = items[i]? := by
  rw [src.valueAt?_append inside, found]
  rfl

theorem valueAt?_single (src : ValueSource) (i : Nat) :
    src.valueAt? [i] = src.values[i]? := by
  simp only [valueAt?, descend?]
  exact Option.bind_fun_some _

/-- The depth that construction starts with is never used up. -/
theorem depth_lt {src : ValueSource} {v : Value} (mem : v ∈ src.values) :
    v.depth < src.depth :=
  Nat.lt_succ_of_le (Value.depth_le mem)

end ValueSource

/-! ## 2. Declared kinds -/

namespace ValueSource

/-- The leaf kind that the top-level position of a path declares. -/
def declaredKind? (src : ValueSource) (path : IndexPath) : Option BaseKind :=
  (src.declaredBase? path).bind TypeTag.kind?

theorem declaredKind?_append (src : ValueSource) {path : IndexPath} (inside : path ≠ []) (i : Nat) :
    src.declaredKind? (path ++ [i]) = src.declaredKind? path := by
  cases path with
  | nil => exact absurd rfl inside
  | cons first rest => rfl

theorem compatible_ofKind (declared : TypeTag) (own : BaseKind) :
    compatible declared (.ofKind own) =
      match declared.kind? with
      | some kind => kind.sameClass own
      | none => false := by
  cases known : declared.kind? with
  | none =>
    simp [compatible, TypeTag.isNumeric, TypeTag.isString, TypeTag.isChar, TypeTag.hasKind, known]
  | some kind =>
    rw [TypeTag.eq_ofKind_of_kind? known]
    simp only [compatible, TypeTag.isNumeric, TypeTag.isString, TypeTag.isChar,
      TypeTag.hasKind_ofKind, BaseKind.sameClass]

/-- Below the top level a leaf tag is taken under the declared kind. -/
theorem coerce_ofKind (src : ValueSource) {path : IndexPath} (below : 2 ≤ path.length)
    (own : BaseKind) :
    src.coerce path (.ofKind own) = .ofKind (own.under (src.declaredKind? path)) := by
  rw [coerce, if_neg (by omega), declaredKind?]
  cases src.declaredBase? path with
  | none => rfl
  | some declared =>
    simp only [TypeTag.base_ofKind, compatible_ofKind, TypeTag.isArray_ofKind, Option.bind_some]
    cases known : declared.kind? with
    | none => rfl
    | some kind =>
      simp only [BaseKind.under, TypeTag.eq_ofKind_of_kind? known]
      cases kind.sameClass own <;> rfl

/-- So is the tag of an array. -/
theorem coerce_withArray (src : ValueSource) {path : IndexPath} (below : 2 ≤ path.length)
    (own : BaseKind) :
    src.coerce path (TypeTag.ofKind own).withArray =
      (TypeTag.ofKind (own.under (src.declaredKind? path))).withArray := by
  rw [coerce, if_neg (by omega), declaredKind?]
  cases src.declaredBase? path with
  | none => rfl
  | some declared =>
    simp only [TypeTag.base_withArray_ofKind, compatible_ofKind, TypeTag.isArray_withArray_ofKind,
      Option.bind_some]
    cases known : declared.kind? with
    | none => rfl
    | some kind =>
      simp only [BaseKind.under, TypeTag.eq_ofKind_of_kind? known]
      cases kind.sameClass own <;> rfl

end ValueSource

/-! ## 3. Answers -/

namespace Value

theorem typeInfo_of_leaf {v : Value} (h : v.items? = none) :
    v.typeInfo = .ofTag (.ofKind v.leafKind) := by
  cases v <;> simp_all [items?, typeInfo]

theorem typeInfo_array (items : List Value) :
    (array items).typeInfo = .ofArray (.ofKind (sharedKind items)) (dimensions items) := by
  rw [typeInfo, leafTag_eq_ofKind]

end Value

theorem arrayLeaf_ofKind (kind : BaseKind) :
    Source.arrayLeaf (.ofKind kind) = .ofKind kind := by
  have bits : (TypeTag.ofKind kind).bits ≠ 0 := kind.bit_ne_zero
  simp [Source.arrayLeaf, bits]

namespace ValueSource

variable {src : ValueSource} {path : IndexPath} {v : Value}

theorem source_typeInfo (found : src.valueAt? path = some v) :
    src.source.typeInfo path () =
      (.ok { v.typeInfo with tag := src.coerce path v.typeInfo.tag }, ()) := by
  simp only [source, typeInfo, withValue_eq found]

theorem source_arrayMetadata {items : List Value}
    (found : src.valueAt? path = some (.array items)) (info : TypeInfo) :
    src.source.arrayMetadata path info () =
      (.ok ⟨items.length, is1D info items, src.leafTag path items, false⟩, ()) := by
  simp only [source, arrayMetadata, withValue_eq found, Value.items?]

theorem source_arrayMetadata_leaf (found : src.valueAt? path = some v) (leaf : v.items? = none)
    (info : TypeInfo) :
    src.source.arrayMetadata path info () = (.error (mismatch path info.tag v), ()) := by
  simp only [source, arrayMetadata, withValue_eq found, leaf]

/-- With the dimensions that inspection finds, an array of leaves is one-dimensional and no other. -/
theorem is1D_of_dimensions {info : TypeInfo} {items : List Value}
    (h : info.dimensions = Value.dimensions items) :
    is1D info items = items.all fun v => v.items?.isNone := by
  have one : Value.dimensions items = 1 ↔ items.all (fun v => v.items?.isNone) = true := by
    rw [Value.dimensions_eq_one_iff]
    simp
  unfold is1D
  rw [h]
  by_cases flat : Value.dimensions items = 1
  · rw [if_pos flat, one.mp flat]
  · rw [if_neg flat]
    split
    · exact (Bool.not_eq_true _ ▸ fun all => flat (one.mpr all) : _ = false).symm
    · rfl

end ValueSource

/-! ## 4. Below the top level -/

namespace Value

variable {declared : Option BaseKind}

/-- Among leaves no element of a flat row is refused. -/
theorem buildItems_flat {items : List Value} (leaves : ∀ v ∈ items, v.items? = none)
    (path : IndexPath) (i : Nat) (w : World) :
    buildItems declared path true i items w = buildItems declared path false i items w := by
  induction items generalizing i w with
  | nil => rfl
  | cons v vs ih =>
    have leaf := leaves v List.mem_cons_self
    have passes : Source.checkElement (path ++ [i]) true (v.build declared (path ++ [i]) w) =
        v.build declared (path ++ [i]) w := by
      unfold Source.checkElement
      split
      next => rfl
      next ok =>
        have plain := (formed_of_build ok).isArray_eq
        rw [leaf, Option.isSome_none] at plain
        simp [plain]
    simp only [buildItems_cons, passes, Source.checkElement_nested, ih fun u mem => leaves u (List.mem_cons_of_mem _ mem)]

end Value

/-- With the dimensions that inspection finds, an array is closed with these dimensions. -/
theorem closeArray_inspected {declared : Option BaseKind} {info : TypeInfo} {items : List Value}
    (h : info.dimensions = Value.dimensions items) (leaf : BaseKind) (path : IndexPath) (w : World) :
    (let flat := ValueSource.is1D info items
      let row := Value.buildItems declared path flat 0 items w
      closeArray leaf (if flat then 1 else builtDimensions row.built) row) =
      closeArray leaf (Value.dimensions items) (Value.buildItems declared path false 0 items w) := by
  simp only [ValueSource.is1D_of_dimensions h]
  by_cases leaves : ∀ v ∈ items, v.items? = none
  · have all : (items.all fun v => v.items?.isNone) = true := by simpa using leaves
    rw [all, Value.buildItems_flat leaves, if_pos rfl,
      (Value.dimensions_eq_one_iff items).mpr leaves]
  · have all : (items.all fun v => v.items?.isNone) = false := by simpa using leaves
    rw [all]
    refine closeArray_congr fun ok => ?_
    obtain ⟨len, rows⟩ := Value.formed_of_buildItems ok
    rw [if_neg Bool.false_ne_true]
    exact Value.builtDimensions_eq len rows (.inr (by simpa using leaves))

/-- A row of steps that build the elements one by one. -/
theorem buildRow_eq {declared : Option BaseKind} {path : IndexPath} {flat : Bool}
    {step : Nat → Cell → World → Unit → Built Unit Cell} {items : List Value} {i : Nat}
    (agree : ∀ (j : Nat) v w, items[j]? = some v →
      step (i + j) .null w () =
        Source.checkElement (path ++ [i + j]) flat (v.build declared (path ++ [i + j]) w))
    (w : World) :
    buildRow step i (List.replicate items.length .null) w () =
      Value.buildItems declared path flat i items w := by
  induction items generalizing i w with
  | nil => rfl
  | cons v vs ih =>
    have here := agree 0 v w rfl
    rw [Nat.add_zero] at here
    have later : ∀ (j : Nat) u w, vs[j]? = some u →
        step (i + 1 + j) .null w () =
          Source.checkElement (path ++ [i + 1 + j]) flat
            (u.build declared (path ++ [i + 1 + j]) w) := by
      intro j u w found
      have index : i + 1 + j = i + (j + 1) := by omega
      rw [index]
      exact agree (j + 1) u w (by simpa using found)
    rw [Value.buildItems_cons, List.length_cons, List.replicate_succ]
    simp only [buildRow, here]
    cases (Source.checkElement (path ++ [i]) flat (v.build declared (path ++ [i]) w)).outcome with
    | error stop => rfl
    | ok => simp only [ih later]

/-- Construction of an array whose elements follow their values. -/
theorem constructCell_array {src : ValueSource} {path : IndexPath} {items : List Value}
    {depth : Nat} {requested : Option TypeInfo} {info : TypeInfo} {leaf : BaseKind}
    (found : src.valueAt? path = some (.array items))
    (resolved : src.source.resolveType path requested () = (.ok info, ()))
    (notAny : info.isAny = false) (known : info.wireTag.isKnown = true)
    (isArray : info.wireTag.isArray = true)
    (common : Source.arrayLeaf (src.leafTag path items) = .ofKind leaf)
    (elements : ∀ (j : Nat) v w, items[j]? = some v →
      src.source.constructCell depth (path ++ [0 + j]) none .null w () =
        v.build (src.declaredKind? path) (path ++ [0 + j]) w)
    (cell : Cell) (w : World) :
    src.source.constructCell (depth + 1) path requested cell w () =
      let flat := ValueSource.is1D info items
      let row := Value.buildItems (src.declaredKind? path) path flat 0 items (w.freeCell cell)
      closeArray leaf (if flat then 1 else builtDimensions row.built) row := by
  have oneDimensional : ValueSource.is1D { info with tag := info.wireTag } items =
      ValueSource.is1D info items := rfl
  have row : ∀ w, buildRow
      (fun i c w s => Source.checkElement (path ++ [i]) (ValueSource.is1D info items)
        (src.source.constructCell depth (path ++ [i]) none c w s))
      0 (List.replicate items.length Cell.null) w () =
      Value.buildItems (src.declaredKind? path) path (ValueSource.is1D info items) 0 items w :=
    buildRow_eq fun j v w atIndex => by simp only [elements j v w atIndex]
  simp only [Source.constructCell, resolved, notAny, known, isArray, Bool.false_eq_true, if_false,
    Bool.not_true, if_true, ValueSource.source_arrayMetadata found, oneDimensional, common, row]
  unfold closeArray
  rfl

/-- **Below the top level construction follows the value.** -/
theorem constructCell_eq_build {src : ValueSource} {path : IndexPath} {v : Value} {depth : Nat}
    (found : src.valueAt? path = some v) (below : 2 ≤ path.length) (enough : v.depth < depth)
    (w : World) :
    src.source.constructCell depth path none .null w () =
      v.build (src.declaredKind? path) path w := by
  obtain ⟨depth, rfl⟩ : ∃ d, depth = d + 1 := ⟨depth - 1, by omega⟩
  induction v using Value.induct generalizing path depth w with
  | leaf v leaf =>
    have known : v.leafKind.under (src.declaredKind? path) ≠ .any :=
      BaseKind.under_ne_any (Value.leafKind_ne_any leaf)
    simp only [Source.constructCell, Source.resolveType, ValueSource.source_typeInfo found,
      Value.typeInfo_of_leaf leaf, TypeInfo.ofTag, src.coerce_ofKind below, TypeInfo.isAny,
      TypeTag.isAny_ofKind, known, TypeInfo.wireTag]
    simp only [decide_false, Bool.false_eq_true, if_false, Int.lt_irrefl, gt_iff_lt,
      TypeTag.isKnown_ofKind, Bool.not_true, TypeTag.isArray_ofKind, TypeTag.kind?_ofKind]
    rw [Value.build_leaf leaf, constructLeaf_eq found]
  | array items ih =>
    have inside : path ≠ [] := by
      rintro rfl
      simp at below
    have elements : ∀ (j : Nat) v w, items[j]? = some v →
        src.source.constructCell depth (path ++ [0 + j]) none .null w () =
          v.build (src.declaredKind? path) (path ++ [0 + j]) w := by
      intro j v w atIndex
      have mem := List.mem_of_getElem? atIndex
      have shallower := Value.depth_lt mem
      obtain ⟨depth, rfl⟩ : ∃ d, depth = d + 1 := ⟨depth - 1, by omega⟩
      rw [Nat.zero_add, ← src.declaredKind?_append inside j]
      exact ih v mem ((ValueSource.valueAt?_element inside found j).trans atIndex)
        (by simp; omega) w depth (by omega)
    -- the type that inspection finds, with the leaf tag that the declared kind makes of it
    let leaf := (Value.sharedKind items).under (src.declaredKind? path)
    let info : TypeInfo := .ofArray (.ofKind leaf) (Value.dimensions items)
    have resolved : src.source.resolveType path none () = (.ok info, ()) := by
      simp only [Source.resolveType, ValueSource.source_typeInfo found, Value.typeInfo_array,
        TypeInfo.ofArray, src.coerce_withArray below, info, leaf]
    have wire : info.wireTag = (TypeTag.ofKind leaf).withArray := by
      simp only [TypeInfo.wireTag, info, TypeInfo.ofArray, TypeTag.withArray_withArray_ofKind,
        ite_self]
    have common : Source.arrayLeaf (src.leafTag path items) = .ofKind leaf := by
      have deep : (path.length == 1) = false := by
        simp
        omega
      simp only [ValueSource.leafTag, deep, Value.leafTag_eq_ofKind, src.coerce_ofKind below,
        TypeTag.base_ofKind, Bool.false_eq_true, if_false, arrayLeaf_ofKind, leaf]
    rw [constructCell_array found resolved (TypeTag.isAny_withArray_ofKind leaf)
      (by rw [wire, TypeTag.isKnown_withArray_ofKind])
      (by rw [wire, TypeTag.isArray_withArray_ofKind]) common elements, Value.build_array]
    exact closeArray_inspected rfl leaf path w

/-! ## 5. The top level -/

theorem TypeInfo.isAny_base {info : TypeInfo} (isAny : info.isAny = true) :
    info.tag.base.isAny = true := by
  have tag : info.tag = .any := by simpa [TypeInfo.isAny, TypeTag.isAny] using isAny
  rw [tag]
  rfl

/-- The leaf kind that a declared type gives to the leaves of its array. -/
def TypeInfo.leafKind? (info : TypeInfo) : Option BaseKind :=
  if (info.tag.isArray || info.dimensions > 0) && !info.tag.base.isAny then info.tag.base.kind?
  else none

/-- The leaf kind declared by the type of a position, if it has one. -/
def declaredLeaf? (declared : Option TypeInfo) : Option BaseKind :=
  declared.bind TypeInfo.leafKind?

theorem TypeTag.kind?_eq_none_of_bits {t : TypeTag} (h : t.bits = 0) : t.kind? = none := by
  cases known : t.kind? with
  | none => rfl
  | some kind =>
    rw [eq_ofKind_of_kind? known] at h
    exact absurd h kind.bit_ne_zero

theorem ValueSource.declaredKind?_cons (src : ValueSource) (i : Nat) (rest : List Nat) :
    src.declaredKind? (i :: rest) = declaredLeaf? src.declared[i]? := by
  simp only [declaredKind?, declaredBase?, List.head?_cons, Option.bind_some, declaredLeaf?]
  cases src.declared[i]? with
  | none => rfl
  | some info =>
    simp only [Option.bind_some, TypeInfo.leafKind?]
    by_cases nothing : info.tag.base.bits = 0
    · simp [nothing, TypeTag.kind?_eq_none_of_bits nothing]
    · have something : (info.tag.base.bits != 0) = true := by simpa using nothing
      rw [something, Bool.and_true]
      split <;> rfl

namespace Value

/-- The type of a value at the top level: the declared one, unless it is `any` or missing. -/
def topType (v : Value) : Option TypeInfo → TypeInfo
  | some info => if info.isAny then v.typeInfo else info
  | none => v.typeInfo

/-- The leaf kind of an array at the top level: the declared one, or that of its leaves. -/
def topLeaf (declared : Option TypeInfo) (items : List Value) : BaseKind :=
  (declaredLeaf? declared).getD (sharedKind items)

/-- The cell of a value at top-level position `i` under a declared type. -/
def buildTop (i : Nat) (declared : Option TypeInfo) (v : Value) (cell : Cell) (w : World) :
    Built Unit Cell :=
  let info := v.topType declared
  let tag := info.wireTag
  if !tag.isKnown then
    Source.refuse [i] (.marshal (.unknownType tag (.path [i]))) cell w ()
  else if tag.isArray then
    match v.items? with
    | none => Source.refuse [i] (ValueSource.mismatch [i] tag v) cell w ()
    | some items =>
      let flat := ValueSource.is1D info items
      let row := buildItems (declaredLeaf? declared) [i] flat 0 items (w.freeCell cell)
      closeArray (topLeaf declared items) (if flat then 1 else builtDimensions row.built) row
  else
    match tag.kind? with
    | some kind => v.fill [i] kind cell w
    | none => Source.refuse [i] (.marshal (.unknownType tag (.path [i]))) cell w ()

theorem isAny_typeInfo (v : Value) : v.typeInfo.isAny = false := by
  by_cases leaf : v.items? = none
  · rw [typeInfo_of_leaf leaf, TypeInfo.ofTag, TypeInfo.isAny, TypeTag.isAny_ofKind]
    exact decide_eq_false (leafKind_ne_any leaf)
  · obtain ⟨items, found⟩ := Option.ne_none_iff_exists'.mp leaf
    rw [eq_array_of_items? found, typeInfo_array]
    exact TypeTag.isAny_withArray_ofKind _

theorem isAny_topType (v : Value) (declared : Option TypeInfo) :
    (v.topType declared).isAny = false := by
  cases declared with
  | none => exact v.isAny_typeInfo
  | some info =>
    rw [topType]
    split
    next => exact v.isAny_typeInfo
    next no => simpa using no

end Value

namespace ValueSource

variable {src : ValueSource} {i : Nat} {v : Value}

theorem resolveType_top (found : src.valueAt? [i] = some v) (declared : Option TypeInfo) :
    src.source.resolveType [i] declared () = (.ok (v.topType declared), ()) := by
  have asked : src.source.typeInfo [i] () = (.ok v.typeInfo, ()) := by
    rw [source_typeInfo found]
    rfl
  cases declared with
  | none => exact asked
  | some info =>
    rw [Source.resolveType, Value.topType]
    split
    next => exact asked
    next => rfl

/-- A known type declares no leaf tag but that of a kind. -/
theorem isSome_kind?_of_declaredBase? {base : TypeTag} (found : src.declaredBase? [i] = some base)
    (known : ∀ info, src.declared[i]? = some info → info.isAny = false →
      info.wireTag.isKnown = true) : base.kind?.isSome = true := by
  simp only [declaredBase?, List.head?_cons, Option.bind_some] at found
  cases atIndex : src.declared[i]? with
  | none => simp [atIndex] at found
  | some info =>
    simp only [atIndex, Option.bind_some] at found
    split at found
    next cond =>
      obtain rfl := Option.some.inj found
      simp only [Bool.and_eq_true, bne_iff_ne, ne_eq, Bool.not_eq_true'] at cond
      have concrete : info.isAny = false :=
        Bool.eq_false_iff.mpr fun isAny => absurd (TypeInfo.isAny_base isAny) (by simp [cond.2])
      have tag := known info atIndex concrete
      simpa [TypeTag.isKnown, TypeTag.base_wireTag, cond.1.2] using tag
    next => simp at found

theorem arrayLeaf_top (src : ValueSource) (i : Nat) (items : List Value)
    (known : ∀ info, src.declared[i]? = some info → info.isAny = false →
      info.wireTag.isKnown = true) :
    Source.arrayLeaf (src.leafTag [i] items) =
      .ofKind (Value.topLeaf src.declared[i]? items) := by
  have single : (([i] : IndexPath).length == 1) = true := rfl
  have own : (src.coerce [i] (Value.leafTag items)).base =
      .ofKind (Value.sharedKind items) := by
    rw [Value.leafTag_eq_ofKind]
    exact TypeTag.base_ofKind _
  have kind := src.declaredKind?_cons i []
  rw [leafTag, single, if_pos rfl, Value.topLeaf, ← kind, declaredKind?]
  cases found : src.declaredBase? [i] with
  | none =>
    simp only [own]
    exact arrayLeaf_ofKind _
  | some base =>
    obtain ⟨kind, isKind⟩ := Option.isSome_iff_exists.mp (isSome_kind?_of_declaredBase? found known)
    simp only [Option.bind_some, Option.getD_some, TypeTag.eq_ofKind_of_kind? isKind,
      arrayLeaf_ofKind, TypeTag.kind?_ofKind]

end ValueSource

/-- **At the top level construction follows the value and its declared type.** -/
theorem constructCell_eq_buildTop {src : ValueSource} {i : Nat} {v : Value} {depth : Nat}
    (found : src.valueAt? [i] = some v) (enough : v.depth < depth) (cell : Cell) (w : World) :
    src.source.constructCell depth [i] src.declared[i]? cell w () =
      v.buildTop i src.declared[i]? cell w := by
  obtain ⟨depth, rfl⟩ : ∃ d, depth = d + 1 := ⟨depth - 1, by omega⟩
  have resolved := ValueSource.resolveType_top found src.declared[i]?
  have notAny := v.isAny_topType src.declared[i]?
  rw [Value.buildTop]
  cases known : (v.topType src.declared[i]?).wireTag.isKnown with
  | false => simp [Source.constructCell, resolved, notAny, known]
  | true =>
    cases isArray : (v.topType src.declared[i]?).wireTag.isArray with
    | false =>
      simp only [Source.constructCell, resolved, notAny, known, isArray, Bool.false_eq_true,
        if_false, Bool.not_true]
      cases (v.topType src.declared[i]?).wireTag.kind? with
      | none => rfl
      | some kind => exact constructLeaf_eq found kind cell w
    | true =>
      cases array : v.items? with
      | none =>
        simp [Source.constructCell, resolved, notAny, known, isArray,
          ValueSource.source_arrayMetadata_leaf found array]
      | some items =>
        obtain rfl := Value.eq_array_of_items? array
        have common := src.arrayLeaf_top i items fun info atIndex concrete => by
          rwa [atIndex, Value.topType, concrete] at known
        have elements : ∀ (j : Nat) v w, items[j]? = some v →
            src.source.constructCell depth ([i] ++ [0 + j]) none .null w () =
              v.build (src.declaredKind? [i]) ([i] ++ [0 + j]) w := by
          intro j v w atIndex
          have shallower := Value.depth_lt (List.mem_of_getElem? atIndex)
          rw [Nat.zero_add, ← src.declaredKind?_append (List.cons_ne_nil i []) j]
          exact constructCell_eq_build
            ((ValueSource.valueAt?_element (List.cons_ne_nil i []) found j).trans atIndex)
            (by simp) (by omega) w
        rw [constructCell_array found resolved notAny known isArray common elements,
          src.declaredKind?_cons]
        rfl

end RuntimeBridge
