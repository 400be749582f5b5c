/-
# The contract of constructed cells

Whatever a source answers, cells that were constructed keep the contract that readers in other runtimes
rely on, unless the source fills an array itself.  Tags are known and never `any`, a cell owns memory
just when its tag says so, arrays have the announced length, and what has dimensions is rectangular.

The engine looks at the first element of each level only, and the source is asked anew at every path, so
nothing about the answers helps.  What helps is that dimensions are read off finished elements: a cell of
two dimensions or more stands over elements that agree on their levels, and by induction those are the
levels of everything below (`WireForm.openLevels`).

* `WireForm`, what construction makes of a position, as an inductive predicate over cells;
* `Source.announces_constructCell`, the step, by induction on the depth;
* `wire_contract`, the contract of all cells of an array, by path.
-/
import RuntimeBridge.Proofs.Call.Lending
import RuntimeBridge.Proofs.Wire.Announced
import RuntimeBridge.Proofs.Wire.Form
import RuntimeBridge.Proofs.Wire.Marshalled
namespace RuntimeBridge

variable {σ : Type}

/-! ## 1. The form of constructed cells -/

/-- Cells of this kind own what they point to. -/
def BaseKind.isOwning : BaseKind → Bool
  | string _ | handle | callable => true
  | _ => false

/-- Cells with this tag own what they point to. -/
def TypeTag.isOwning (t : TypeTag) : Bool :=
  t.isArray || t.hasKind BaseKind.isOwning

/-- What construction makes of the position at a path: a leaf of a known kind, or an array with a layout
that was announced there. -/
inductive WireForm (announced : Announcements) : IndexPath → Cell → Prop
  | leaf {path : IndexPath} {kind : BaseKind} (payload : Payload) (concrete : kind ≠ .any) :
    WireForm announced path (.plain (.ofKind kind) payload kind.isOwning)
  | array {path : IndexPath} {layout : ArrayMetadata} {items : List Cell}
    (listed : (path, layout) ∈ announced) (length : items.length = layout.length)
    (flat : layout.is1D = true → ∀ c ∈ items, c.tag.isArray = false)
    (elements : ∀ (i : Nat) c, items[i]? = some c → WireForm announced (path ++ [i]) c) :
    WireForm announced path (.ofArray (Source.arrayLeaf layout.commonType) items
      (if layout.is1D then 1 else builtDimensions items))

namespace WireForm

theorem mono {announced more : Announcements} (kept : ∀ e ∈ announced, e ∈ more) {path : IndexPath}
    {c : Cell} (form : WireForm announced path c) : WireForm more path c := by
  induction form with
  | leaf payload concrete => exact .leaf payload concrete
  | array listed length flat elements ih => exact .array (kept _ listed) length flat ih

end WireForm

/-! ## 2. Tags -/

/-- The leaf tag of an array cell is a kind, or nothing in particular. -/
theorem arrayLeaf_cases (announced : TypeTag) :
    (∃ kind, Source.arrayLeaf announced = .ofKind kind) ∨ Source.arrayLeaf announced = ⟨0⟩ := by
  rw [Source.arrayLeaf]
  split
  case isTrue => exact .inl ⟨.any, rfl⟩
  case isFalse usable =>
    have known : announced.isKnown = true := by
      rw [Bool.not_eq_true, Bool.or_eq_false_iff, Bool.not_eq_false'] at usable
      exact usable.2
    rw [TypeTag.isKnown, Bool.or_eq_true, Bool.and_eq_true, beq_iff_eq] at known
    rcases known with ⟨-, nothing⟩ | isKind
    · exact .inr (congrArg TypeTag.mk nothing)
    · obtain ⟨kind, found⟩ := Option.isSome_iff_exists.mp isKind
      exact .inl ⟨kind, TypeTag.eq_ofKind_of_kind? found⟩

/-- The tag of an array cell is known, an array tag, and not `any`. -/
theorem arrayLeaf_withArray (announced : TypeTag) :
    (Source.arrayLeaf announced).withArray.isArray = true ∧
      (Source.arrayLeaf announced).withArray.isKnown = true ∧
      (Source.arrayLeaf announced).withArray.isAny = false := by
  rcases arrayLeaf_cases announced with ⟨kind, leaf⟩ | leaf
  · rw [leaf]
    exact ⟨TypeTag.isArray_withArray_ofKind kind, TypeTag.isKnown_withArray_ofKind kind,
      TypeTag.isAny_withArray_ofKind kind⟩
  · rw [leaf]
    decide

/-- An array cell is read as its elements and dimensions. -/
theorem array?_ofArrayLeaf (announced : TypeTag) (items : List Cell) (dimensions : Int) :
    (Cell.ofArray (Source.arrayLeaf announced) items dimensions).array? = some (items, dimensions) :=
  if_pos (arrayLeaf_withArray announced).1

namespace WireForm

variable {announced : Announcements} {path : IndexPath} {c : Cell}

theorem tag (form : WireForm announced path c) : c.tag.isAny = false ∧ c.tag.isKnown = true := by
  cases form with
  | @leaf _ kind payload concrete =>
    refine ⟨?_, TypeTag.isKnown_ofKind kind⟩
    simpa [Cell.tag, TypeTag.isAny_ofKind] using concrete
  | @array _ layout items listed length flat elements =>
    have tags := arrayLeaf_withArray layout.commonType
    exact ⟨tags.2.2, tags.2.1⟩

theorem owned (form : WireForm announced path c) : c.owned = c.tag.isOwning := by
  cases form with
  | @leaf _ kind payload concrete =>
    simp [Cell.owned, Cell.tag, TypeTag.isOwning, TypeTag.hasKind_ofKind]
  | @array _ layout items listed length flat elements =>
    have isArray : (Source.arrayLeaf layout.commonType).withArray.isOwning = true := by
      rw [TypeTag.isOwning, (arrayLeaf_withArray layout.commonType).1, Bool.true_or]
    exact isArray.symm

/-- A cell that reads as an array is one. -/
theorem of_array? (form : WireForm announced path c) {items : List Cell} {dimensions : Int}
    (read : c.array? = some (items, dimensions)) :
    ∃ layout, (path, layout) ∈ announced ∧ items.length = layout.length ∧
      (layout.is1D = true → ∀ item ∈ items, item.tag.isArray = false) ∧
      (∀ (i : Nat) item, items[i]? = some item → WireForm announced (path ++ [i]) item) ∧
      dimensions = if layout.is1D then 1 else builtDimensions items := by
  cases form with
  | leaf payload concrete => simp [Cell.array?] at read
  | @array _ layout items' listed length flat elements =>
    rw [array?_ofArrayLeaf] at read
    obtain ⟨rfl, rfl⟩ := Prod.mk.inj (Option.some.inj read)
    exact ⟨layout, listed, length, flat, elements, rfl⟩

theorem array?_of_isArray (form : WireForm announced path c) (isArray : c.tag.isArray = true) :
    ∃ items dimensions, c.array? = some (items, dimensions) := by
  cases form with
  | leaf payload concrete => simp [Cell.tag] at isArray
  | array listed length flat elements => exact ⟨_, _, array?_ofArrayLeaf _ _ _⟩

/-- What lies below a constructed position was constructed, too. -/
theorem descend? (form : WireForm announced path c) {rest : List Nat} {d : Cell}
    (found : c.descend? rest = some d) : WireForm announced (path ++ rest) d := by
  induction rest generalizing path c with
  | nil =>
    obtain rfl := Option.some.inj found
    rwa [List.append_nil]
  | cons i rest ih =>
    obtain ⟨item, atItem, deeper⟩ := Option.bind_eq_some_iff.mp found
    obtain ⟨_, opened, atIndex⟩ := Option.bind_eq_some_iff.mp atItem
    obtain ⟨⟨items, dimensions⟩, read, rfl⟩ := Option.map_eq_some_iff.mp opened
    obtain ⟨layout, -, -, -, elements, -⟩ := form.of_array? read
    rw [List.append_cons]
    exact ih (elements i item atIndex) deeper

end WireForm

/-! ## 3. Rectangles -/

/-- The cell opens arrays of these lengths, one below the other, wherever one goes down. -/
def Cell.HasLevels : List Nat → Cell → Prop
  | [], _ => True
  | n :: below, c => ∃ items, c.items? = some items ∧ items.length = n ∧
    ∀ item ∈ items, Cell.HasLevels below item

theorem Cell.items?_of_array? {c : Cell} {items : List Cell} {dimensions : Int}
    (read : c.array? = some (items, dimensions)) : c.items? = some items := by
  rw [Cell.items?, read]
  rfl

/-- What levels say: an array that is not ragged, with the lengths that its first elements open. -/
theorem Cell.levels?_eq_some {c : Cell} {levels : List Nat} (found : c.levels? = some levels) :
    ∃ items dimensions, c.array? = some (items, dimensions) ∧ dimensions ≠ mixedDimensions ∧
      levels = lengthsDown (dimensions.toNat - 1) items := by
  rw [Cell.levels?] at found
  cases read : c.array? with
  | none => simp [read] at found
  | some array =>
    simp only [read, Option.ite_none_left_eq_some, Option.some.injEq] at found
    exact ⟨array.1, array.2, rfl, found.1, found.2.symm⟩

/-- Elements under dimensions agree on their levels, of which there is one less. -/
theorem levels_of_builtDimensions {items : List Cell} (regular : builtDimensions items ≠ mixedDimensions) :
    ∃ below : List Nat, builtDimensions items = below.length + 1 ∧ (items = [] → below = []) ∧
      ∀ item ∈ items, item.levels? = some below := by
  rw [builtDimensions] at regular ⊢
  cases agreed : agreedLevels (items.map Cell.levels?) with
  | none => simp [agreed, dimensionsOver] at regular
  | some below =>
    obtain ⟨empty, same⟩ := agreedLevels_eq_some.mp agreed
    refine ⟨below, rfl, fun none => empty (by rw [none, List.map_nil]), fun item listed => ?_⟩
    exact same _ (List.mem_map_of_mem listed)

/-- The elements of an array open the levels below it: each is an array of one dimension less if there
is a level below, and opens all of them wherever one goes down. -/
def OpenLevels (items : List Cell) (below : List Nat) : Prop :=
  ∀ item ∈ items, item.HasLevels below ∧
    (below ≠ [] → ∃ inner, item.array? = some (inner, (below.length : Int)))

/-- **First elements are enough**: what an array with dimensions opens at its first elements, it opens
everywhere, and there are as many levels as dimensions. -/
theorem WireForm.openLevels {announced : Announcements} {path : IndexPath} {c : Cell}
    (form : WireForm announced path c) {items : List Cell} {dimensions : Int}
    (read : c.array? = some (items, dimensions)) (regular : dimensions ≠ mixedDimensions) :
    ∃ below : List Nat, lengthsDown (dimensions.toNat - 1) items = items.length :: below ∧
      dimensions = below.length + 1 ∧ (items = [] → below = []) ∧ OpenLevels items below := by
  induction form generalizing items dimensions with
  | leaf payload concrete => simp [Cell.array?] at read
  | @array path layout items' listed length flat elements ih =>
    rw [array?_ofArrayLeaf] at read
    obtain ⟨rfl, rfl⟩ := Prod.mk.inj (Option.some.inj read)
    by_cases is1D : layout.is1D = true
    · rw [if_pos is1D]
      exact ⟨[], rfl, rfl, fun _ => rfl, fun _ _ => ⟨trivial, fun more => absurd rfl more⟩⟩
    rw [if_neg is1D] at regular ⊢
    obtain ⟨below, dims, empty, levels⟩ := levels_of_builtDimensions regular
    -- what the levels of an element say holds of all of it, by the hypothesis for the element
    have opened : ∀ item ∈ items', ∃ inner innerBelow, item.array? = some (inner, (below.length : Int)) ∧
        below = inner.length :: innerBelow ∧ below = lengthsDown innerBelow.length inner ∧
        OpenLevels inner innerBelow := by
      intro item listed
      obtain ⟨i, atIndex⟩ := List.getElem?_of_mem listed
      obtain ⟨inner, innerDims, innerRead, innerRegular, down⟩ :=
        Cell.levels?_eq_some (levels item listed)
      obtain ⟨innerBelow, innerDown, innerCount, -, rows⟩ := ih i item atIndex innerRead innerRegular
      have count : innerDims = below.length := by
        rw [down, innerDown, innerCount, List.length_cons]
        rfl
      have depth : innerDims.toNat - 1 = innerBelow.length := by omega
      exact ⟨inner, innerBelow, count ▸ innerRead, down.trans innerDown, depth ▸ down, rows⟩
    have depth : (builtDimensions items').toNat - 1 = below.length := by omega
    refine ⟨below, ?_, dims, empty, fun item listed => ?_⟩
    · rw [depth]
      cases below with
      | nil => rfl
      | cons n rest =>
        cases items' with
        | nil => cases empty rfl
        | cons first others =>
          obtain ⟨inner, innerBelow, innerRead, same, down, -⟩ := opened first List.mem_cons_self
          have rest_eq : rest = innerBelow := (List.cons.inj same).2
          rw [List.length_cons, lengthsDown, List.head?_cons, Option.bind_some,
            Cell.items?_of_array? innerRead, rest_eq]
          simp only
          rw [← down, rest_eq]
    · obtain ⟨inner, innerBelow, innerRead, same, -, rows⟩ := opened item listed
      refine ⟨?_, fun _ => ⟨inner, innerRead⟩⟩
      rw [same]
      exact ⟨inner, Cell.items?_of_array? innerRead, rfl, fun element below => (rows element below).1⟩

/-! ## 4. Announcements -/

/-- Each path was announced once, and all of them are of this sort. -/
structure AnnouncedOnce (sort : IndexPath → Prop) (announced : Announcements) : Prop where
  nodup : (announced.map Prod.fst).Nodup
  sorted : ∀ e ∈ announced, sort e.1

namespace AnnouncedOnce

theorem nil (sort : IndexPath → Prop) : AnnouncedOnce sort [] :=
  ⟨List.nodup_nil, fun _ listed => absurd listed List.not_mem_nil⟩

theorem append {sort first second : IndexPath → Prop} {a b : Announcements}
    (ha : AnnouncedOnce first a) (hb : AnnouncedOnce second b)
    (apart : ∀ path, first path → ¬ second path) (left : ∀ path, first path → sort path)
    (right : ∀ path, second path → sort path) : AnnouncedOnce sort (a ++ b) := by
  constructor
  · rw [List.map_append, List.nodup_append]
    refine ⟨ha.nodup, hb.nodup, fun path inA other inB same => ?_⟩
    obtain ⟨e, listedA, rfl⟩ := List.mem_map.mp inA
    obtain ⟨e', listedB, rfl⟩ := List.mem_map.mp inB
    exact apart e.1 (ha.sorted e listedA) (same ▸ hb.sorted e' listedB)
  · intro e listed
    rcases List.mem_append.mp listed with listed | listed
    · exact left _ (ha.sorted e listed)
    · exact right _ (hb.sorted e listed)

/-- What was announced of the elements of an array, behind the layout of the array. -/
theorem cons_below {path : IndexPath} {layout : ArrayMetadata} {added : Announcements} {i : Nat}
    (once : AnnouncedOnce (fun p => ∃ j, i ≤ j ∧ path ++ [j] <+: p) added) :
    AnnouncedOnce (path <+: ·) ((path, layout) :: added) := by
  have own : AnnouncedOnce (· = path) [(path, layout)] :=
    ⟨by simp, fun e listed => by rw [List.mem_singleton.mp listed]⟩
  refine own.append once ?_ ?_ ?_
  · rintro p rfl ⟨j, -, below⟩
    exact absurd below.length_le (by simp)
  · rintro p rfl
    exact List.prefix_refl _
  · rintro p ⟨j, -, below⟩
    exact (List.prefix_append path [j]).trans below

end AnnouncedOnce

/-- What a step at a path leaves: new notes about that path and paths below it, and a cell that has the
form they tell. -/
def Announces (path : IndexPath) (before : Announcements) (r : Built (σ × Announcements) Cell) : Prop :=
  ∃ added, r.state.2 = before ++ added ∧ AnnouncedOnce (path <+: ·) added ∧ WireForm added path r.built

/-- Different elements have different paths below them. -/
theorem eq_of_prefix_append {path p : IndexPath} {i j : Nat} (hi : path ++ [i] <+: p)
    (hj : path ++ [j] <+: p) : i = j := by
  have length : (path ++ [i]).length = (path ++ [j]).length := by simp
  have same := (List.prefix_of_prefix_length_le hi hj length.le).eq_of_length length
  exact List.singleton_inj.mp (List.append_cancel_left same)

/-- **A row** announces what its elements announce. -/
theorem announces_buildRow (path : IndexPath)
    {step : Nat → Cell → World → σ × Announcements → Built (σ × Announcements) Cell}
    (steps : ∀ i c w s, (step i c w s).outcome = .ok () → Announces (path ++ [i]) s.2 (step i c w s))
    {i : Nat} {cells : List Cell} {w : World} {s : σ × Announcements}
    (ok : (buildRow step i cells w s).outcome = .ok ()) :
    ∃ added, (buildRow step i cells w s).state.2 = s.2 ++ added ∧
      AnnouncedOnce (fun p => ∃ j, i ≤ j ∧ path ++ [j] <+: p) added ∧
      ∀ (j : Nat) c, (buildRow step i cells w s).built[j]? = some c →
        WireForm added (path ++ [i + j]) c := by
  induction cells generalizing i w s with
  | nil => exact ⟨[], (List.append_nil _).symm, .nil _, nofun⟩
  | cons c cs ih =>
    simp only [buildRow] at ok ⊢
    cases here : (step i c w s).outcome with
    | error stop => simp [here] at ok
    | ok =>
      simp only [here] at ok ⊢
      obtain ⟨first, firstNotes, firstOnce, form⟩ := steps i c w s here
      obtain ⟨rest, restNotes, restOnce, forms⟩ := ih ok
      refine ⟨first ++ rest, ?_, ?_, fun j d found => ?_⟩
      · rw [restNotes, firstNotes, List.append_assoc]
      · refine firstOnce.append restOnce ?_ (fun p below => ⟨i, Nat.le_refl i, below⟩) ?_
        · rintro p below ⟨j, later, below'⟩
          have := eq_of_prefix_append below below'
          omega
        · rintro p ⟨j, later, below⟩
          exact ⟨j, Nat.le_of_succ_le later, below⟩
      · cases j with
        | zero =>
          obtain rfl := Option.some.inj found
          exact form.mono fun e listed => List.mem_append_left _ listed
        | succ j =>
          have index : i + (j + 1) = i + 1 + j := by omega
          rw [index]
          exact (forms j d found).mono fun e listed => List.mem_append_right _ listed

/-! ## 5. Construction -/

/-- A row needs no cells of the cache if its elements need none. -/
theorem cache_buildRow {step : Nat → Cell → World → σ → Built σ Cell}
    (kept : ∀ i c w s, (step i c w s).outcome = .ok () → (step i c w s).world.cache = w.cache)
    {i : Nat} {cells : List Cell} {w : World} {s : σ}
    (ok : (buildRow step i cells w s).outcome = .ok ()) :
    (buildRow step i cells w s).world.cache = w.cache := by
  induction cells generalizing i w s with
  | nil => rfl
  | cons c cs ih =>
    simp only [buildRow] at ok ⊢
    cases here : (step i c w s).outcome with
    | error stop => simp [here] at ok
    | ok =>
      simp only [here] at ok ⊢
      exact (ih ok).trans (kept i c w s here)

namespace Source

/-- The source fills no array itself. -/
def NeverManual (src : Source σ) : Prop :=
  ∀ path info s layout after, src.arrayMetadata path info s = (.ok layout, after) → layout.manual = false

variable {src : Source σ} {path : IndexPath} {cell : Cell} {w : World}

/-- How a leaf ends: it is left as it was, or it is a cell of its kind that owns what such a cell
owns; the cell cache is not needed for either. -/
theorem constructLeaf_cases (kind : BaseKind) (s : σ) :
    (src.constructLeaf path kind cell w s).world.cache = w.cache ∧
      ((∃ stop, (src.constructLeaf path kind cell w s).outcome = .error stop) ∨
        kind ≠ .any ∧ ∃ payload, (src.constructLeaf path kind cell w s).built =
          .plain (.ofKind kind) payload kind.isOwning) := by
  cases kind with
  | null => exact ⟨w.cache_freeCell cell, .inr ⟨by simp, _, rfl⟩⟩
  | any => exact ⟨rfl, .inl ⟨_, rfl⟩⟩
  | string width =>
    simp only [constructLeaf]
    generalize src.text path _ s = answer
    rcases answer with ⟨_ | text, t⟩
    · exact ⟨rfl, .inl ⟨_, rfl⟩⟩
    · simp only [Cell.setText?]
      cases holdsNul text with
      | true => exact ⟨rfl, .inl ⟨_, rfl⟩⟩
      | false => exact ⟨w.cache_freeCell cell, .inr ⟨by simp, _, rfl⟩⟩
  | handle =>
    simp only [constructLeaf]
    generalize src.handle path s = answer
    rcases answer with ⟨_ | offer, t⟩
    · exact ⟨rfl, .inl ⟨_, rfl⟩⟩
    · refine ⟨(World.cache_freeCell _ cell).trans ?_, .inr ⟨by simp, _, rfl⟩⟩
      cases offer <;> rfl
  | callable =>
    simp only [constructLeaf]
    generalize src.callable path s = answer
    rcases answer with ⟨_ | callable, t⟩
    · exact ⟨rfl, .inl ⟨_, rfl⟩⟩
    · have exported := callable.cache_toRecord w
      simp only
      generalize callable.toRecord w = sent at exported
      rcases sent with ⟨_ | record, w'⟩
      · exact ⟨exported, .inl ⟨_, rfl⟩⟩
      · exact ⟨(w'.cache_freeCell cell).trans exported, .inr ⟨by simp, _, rfl⟩⟩
  | _ =>
    simp only [constructLeaf]
    generalize src.scalar path _ s = answer
    rcases answer with ⟨_ | scalar, t⟩
    · exact ⟨rfl, .inl ⟨_, rfl⟩⟩
    · simp only
      split
      case isTrue asked =>
        refine ⟨w.cache_freeCell cell, .inr ⟨by simp, .word scalar.toWord, ?_⟩⟩
        exact congrArg (Cell.plain · (.word scalar.toWord) false) (beq_iff_eq.mp asked)
      case isFalse => exact ⟨rfl, .inl ⟨_, rfl⟩⟩

/-- The elements of an array with an announced layout. -/
def elements (src : Source σ) (depth : Nat) (path : IndexPath) (layout : ArrayMetadata) (w : World)
    (s : σ) : Built σ (List Cell) :=
  buildRow
    (fun i c w s => checkElement (path ++ [i]) layout.is1D
      (src.constructCell depth (path ++ [i]) none c w s))
    0 (List.replicate layout.length Cell.null) w s

/-- **A position that was constructed** is a leaf, or an array over elements that were constructed. -/
theorem constructCell_ok (never : src.NeverManual) {depth : Nat} {declared : Option TypeInfo} {s : σ}
    (ok : (src.constructCell (depth + 1) path declared cell w s).outcome = .ok ()) :
    (∃ kind, src.constructCell (depth + 1) path declared cell w s =
      src.constructLeaf path kind cell w (src.resolveType path declared s).2) ∨
    ∃ info layout after,
      src.arrayMetadata path info (src.resolveType path declared s).2 = (.ok layout, after) ∧
      (src.elements depth path layout (w.freeCell cell) after).outcome = .ok () ∧
      src.constructCell (depth + 1) path declared cell w s =
        ⟨.ok (),
          .ofArray (arrayLeaf layout.commonType)
            (src.elements depth path layout (w.freeCell cell) after).built
            (if layout.is1D then 1
              else builtDimensions (src.elements depth path layout (w.freeCell cell) after).built),
          (src.elements depth path layout (w.freeCell cell) after).world,
          (src.elements depth path layout (w.freeCell cell) after).state⟩ := by
  simp only [constructCell] at ok ⊢
  generalize src.resolveType path declared s = resolved at ok ⊢
  rcases resolved with ⟨_ | info, t⟩
  · cases ok
  simp only at ok ⊢
  by_cases isAny : info.isAny = true
  · rw [if_pos isAny] at ok
    cases ok
  rw [if_neg isAny] at ok ⊢
  by_cases unknown : (!info.wireTag.isKnown) = true
  · rw [if_pos unknown] at ok
    cases ok
  rw [if_neg unknown] at ok ⊢
  by_cases isArray : info.wireTag.isArray = true
  · rw [if_pos isArray] at ok ⊢
    refine .inr ⟨{ info with tag := info.wireTag }, ?_⟩
    have manual := never path { info with tag := info.wireTag } t
    generalize src.arrayMetadata path { info with tag := info.wireTag } t = answer at ok manual ⊢
    rcases answer with ⟨_ | layout, u⟩
    · cases ok
    have honest : ¬ layout.manual = true := by simp [manual layout u rfl]
    simp only [if_neg honest] at ok ⊢
    refine ⟨layout, u, rfl, ?_⟩
    rw [← elements] at ok ⊢
    generalize src.elements depth path layout (w.freeCell cell) u = row at ok ⊢
    obtain ⟨_ | _, cells, after, v⟩ := row
    · cases ok
    · exact ⟨rfl, rfl⟩
  · rw [if_neg isArray] at ok ⊢
    cases found : info.wireTag.kind? with
    | none =>
      rw [found] at ok
      cases ok
    | some kind => exact .inl ⟨kind, rfl⟩

theorem NeverManual.watched (never : src.NeverManual) : src.watched.NeverManual := by
  intro path info s layout after answered
  refine never path info s.1 layout (src.arrayMetadata path info s.1).2 ?_
  exact Prod.ext (Prod.mk.inj answered).1 rfl

/-- **A position** announces layouts for its path and those below it only, and gets the form that they
tell. -/
theorem announces_constructCell (never : src.NeverManual) {depth : Nat} {declared : Option TypeInfo}
    {s : σ × Announcements}
    (ok : (src.watched.constructCell depth path declared cell w s).outcome = .ok ()) :
    Announces path s.2 (src.watched.constructCell depth path declared cell w s) := by
  induction depth generalizing path declared cell w s with
  | zero => simp [constructCell] at ok
  | succ depth ih =>
    rcases constructCell_ok never.watched ok with
      ⟨kind, leaf⟩ | ⟨info, layout, after, answered, rowOk, array⟩
    · rw [leaf, constructLeaf_watched] at ok ⊢
      rcases (src.constructLeaf_cases kind _).2 with ⟨stop, failed⟩ | ⟨concrete, payload, built⟩
      · cases failed.symm.trans ok
      · refine ⟨[], ?_, .nil _, ?_⟩
        · rw [Built.noting, resolveType_watched, List.append_nil]
        · rw [Built.noting, built]
          exact .leaf payload concrete
    · have noted : after.2 = s.2 ++ [(path, layout)] := by
        rw [resolveType_watched] at answered
        rw [← (Prod.mk.inj answered).2]
        exact congrArg (s.2 ++ announce path ·) (Prod.mk.inj answered).1
      have steps : ∀ i c w t,
          (checkElement (path ++ [i]) layout.is1D
            (src.watched.constructCell depth (path ++ [i]) none c w t)).outcome = .ok () →
          Announces (path ++ [i]) t.2 (checkElement (path ++ [i]) layout.is1D
            (src.watched.constructCell depth (path ++ [i]) none c w t)) := by
        intro i c w t stepOk
        obtain ⟨same, cellOk, -⟩ := checkElement_ok stepOk
        rw [same]
        exact ih cellOk
      obtain ⟨added, notes, once, forms⟩ := announces_buildRow path steps rowOk
      rw [array]
      refine ⟨(path, layout) :: added, ?_, ?_, .array List.mem_cons_self ?_ ?_ ?_⟩
      · rw [elements, notes, noted, List.append_assoc]
        rfl
      · exact once.cons_below
      · rw [elements, length_buildRow, List.length_replicate]
      · intro is1D c listed
        obtain ⟨j, found⟩ := List.getElem?_of_mem listed
        obtain ⟨old, w', t, stepOk, rfl⟩ := buildRow_ok rowOk j c found
        obtain ⟨same, -, flat⟩ := checkElement_ok stepOk
        rw [same]
        exact flat is1D
      · intro j c found
        have form := forms j c found
        rw [Nat.zero_add] at form
        exact form.mono fun _ listed => List.mem_cons_of_mem _ listed

/-- No cells of the cache are needed for what lies in an array. -/
theorem cache_constructCell (never : src.NeverManual) {depth : Nat} {declared : Option TypeInfo} {s : σ}
    (ok : (src.constructCell depth path declared cell w s).outcome = .ok ()) :
    (src.constructCell depth path declared cell w s).world.cache = w.cache := by
  induction depth generalizing path declared cell w s with
  | zero => rfl
  | succ depth ih =>
    rcases constructCell_ok never ok with ⟨kind, leaf⟩ | ⟨info, layout, after, -, rowOk, array⟩
    · rw [leaf]
      exact (src.constructLeaf_cases kind _).1
    · rw [array]
      refine (cache_buildRow (fun i c w t stepOk => ?_) rowOk).trans (w.cache_freeCell cell)
      obtain ⟨same, cellOk, -⟩ := checkElement_ok stepOk
      rw [same]
      exact ih cellOk

end Source

/-! ## 6. The contract -/

/-- The contract of cells that were constructed, by path, and what was announced for the arrays. -/
structure WireContract (announced : Announcements) (cells : List Cell) : Prop where
  /-- No path was asked for twice, so what was announced for an array is one layout. -/
  once : (announced.map Prod.fst).Nodup
  tags : ∀ path c, Cell.at? cells path = some c → c.tag.isAny = false ∧ c.tag.isKnown = true
  owned : ∀ path c, Cell.at? cells path = some c → c.owned = c.tag.isOwning
  /-- Arrays have the announced length, and those announced as 1-D have one dimension and no arrays. -/
  arrays : ∀ path c, Cell.at? cells path = some c → c.tag.isArray = true →
    ∃ layout items dimensions, (path, layout) ∈ announced ∧ c.array? = some (items, dimensions) ∧
      items.length = layout.length ∧
      (layout.is1D = true → dimensions = 1 ∧ ∀ item ∈ items, item.tag.isArray = false)
  /-- Arrays of two dimensions or more are not empty, their elements are arrays of one dimension less,
  and these open arrays of the same lengths, level by level. -/
  rectangular : ∀ path c items dimensions, Cell.at? cells path = some c →
    c.array? = some (items, dimensions) → 2 ≤ dimensions →
    items ≠ [] ∧ (∀ item ∈ items, ∃ inner, item.array? = some (inner, dimensions - 1)) ∧
      ∃ below : List Nat, (below.length : Int) = dimensions - 1 ∧ ∀ item ∈ items, item.HasLevels below

/-- Cells of the form that was announced for their paths keep the contract. -/
theorem WireContract.of_forms {announced : Announcements} {cells : List Cell}
    (once : (announced.map Prod.fst).Nodup)
    (forms : ∀ (i : Nat) c, cells[i]? = some c → WireForm announced [i] c) :
    WireContract announced cells := by
  have form : ∀ path c, Cell.at? cells path = some c → WireForm announced path c := by
    intro path c found
    cases path with
    | nil => cases found
    | cons i rest =>
      obtain ⟨top, atTop, deeper⟩ := Option.bind_eq_some_iff.mp found
      exact (forms i top atTop).descend? deeper
  refine ⟨once, fun path c found => (form path c found).tag, fun path c found => (form path c found).owned,
    fun path c found isArray => ?_, fun path c items dimensions found read deep => ?_⟩
  · obtain ⟨items, dimensions, read⟩ := (form path c found).array?_of_isArray isArray
    obtain ⟨layout, listed, length, flat, -, dims⟩ := (form path c found).of_array? read
    exact ⟨layout, items, dimensions, listed, read, length,
      fun is1D => ⟨by rw [dims, if_pos is1D], flat is1D⟩⟩
  · have regular : dimensions ≠ mixedDimensions := by
      rw [mixedDimensions]
      omega
    obtain ⟨below, -, count, empty, opened⟩ := (form path c found).openLevels read regular
    have more : below ≠ [] := by
      rintro rfl
      simp only [List.length_nil] at count
      omega
    have less : (below.length : Int) = dimensions - 1 := by omega
    refine ⟨mt empty more, fun item listed => ?_, below, less, fun item listed => (opened item listed).1⟩
    rw [← less]
    exact (opened item listed).2 more

/-- **The contract of the wire**: whatever a source answers that fills no array itself, whatever types are
declared, and whatever the cells held before, a construction that succeeds leaves cells that keep the
contract.  The arrays in them take no cells of the cache, and the array itself stays where it lies. -/
theorem wire_contract {src : Source σ} (never : src.NeverManual) {depth : Nat} {a : CellArray}
    {declared : List TypeInfo} {w : World} {s : σ}
    (ok : (src.constructArray depth a declared w s).outcome = .ok ()) :
    WireContract (src.announced depth a declared w s)
        (src.constructArray depth a declared w s).built.cells ∧
      (src.constructArray depth a declared w s).built.length = a.length ∧
      (src.constructArray depth a declared w s).built.block = a.block ∧
      (src.constructArray depth a declared w s).world.cache = w.cache := by
  have unwatched := src.constructArray_watched depth a declared w (s, [])
  refine ⟨?_, length_buildRow _ _ _ _ _, rfl,
    cache_buildRow (fun i c w s stepOk => Source.cache_constructCell never stepOk) ok⟩
  rw [← unwatched] at ok ⊢
  obtain ⟨added, notes, once, forms⟩ := announces_buildRow []
    (fun i c w t stepOk => Source.announces_constructCell never stepOk) ok
  have all : src.announced depth a declared w s = added := notes
  rw [all]
  refine .of_forms once.nodup fun i c found => ?_
  have form := forms i c found
  rwa [Nat.zero_add] at form

/-- A source that counts its questions: it calls its values arrays of truth values with seven dimensions,
announces two rows of three for them, and has numbers for all of the leaves, another one each time. -/
def waveringSource : Source Nat where
  typeInfo path s :=
    (.ok (if path.length < 3 then .ofArray (.ofKind .bool) 7 else .ofTag (.ofKind (.int .int64))), s + 1)
  arrayMetadata path _ s :=
    (.ok { length := path.length + 1, is1D := path.length == 2, commonType := .ofKind .bool
           manual := false }, s + 1)
  scalar _ _ s := (.ok (.int .int64 (.ofWord .int64 (UInt64.ofNat s))), s + 1)
  text _ _ s := (.error (.invocation "no text"), s)
  handle _ s := (.error (.invocation "no handle"), s)
  callable _ s := (.error (.invocation "no callable"), s)

theorem never_waveringSource : waveringSource.NeverManual := by
  intro path info s layout after answered
  cases answered
  rfl

/-- One cell, which holds a text. -/
def textCell : CellArray := { cells := [.ofText .w8 "old"] }

theorem wire_contract_waveringSource :
    waveringSource.NeverManual ∧
      (waveringSource.constructArray 3 textCell [] {} 0).outcome = .ok () ∧
      ((waveringSource.constructArray 3 textCell [] {} 0).built.cells.map fun c =>
        c.array?.map Prod.snd) = [some 2] ∧
      WireContract (waveringSource.announced 3 textCell [] {} 0)
        (waveringSource.constructArray 3 textCell [] {} 0).built.cells := by
  have ok : (waveringSource.constructArray 3 textCell [] {} 0).outcome = .ok () := by rfl
  exact ⟨never_waveringSource, ok, by rfl, (wire_contract never_waveringSource ok).1⟩

end RuntimeBridge
