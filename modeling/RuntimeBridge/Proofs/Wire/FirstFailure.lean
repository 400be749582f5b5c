/-
# Construction reports the first failure

Construction goes through the checks of the values in evaluation order.  The first check that fails is
the error, and its position the place.  A list of checks is `Explained` if each of its entries, taken
with the entries of the same subtree before it, tells how constructing that very position goes; the
checks of a source are, so that nothing before the place fails by itself either.

Main statement: `construct_first_failure`.
-/
import RuntimeBridge.Proofs.Error.Place
import RuntimeBridge.Proofs.Wire.Checks
import RuntimeBridge.Proofs.Wire.Rows
namespace RuntimeBridge

/-! ## 1. Construction at one position -/

namespace ValueSource

variable {src : ValueSource} {path : IndexPath} {v : Value}

/-- The type declared for a position: only those at the top level have one. -/
def declaredAt (src : ValueSource) : IndexPath → Option TypeInfo
  | [i] => src.declared[i]?
  | _ => none

/-- The array at a path is taken as one-dimensional. -/
def isFlat (src : ValueSource) (path : IndexPath) : Bool :=
  match (src.source.resolveType path (src.declaredAt path) ()).1 with
  | .error _ => false
  | .ok info =>
    match src.arrayMetadata path info with
    | .error _ => false
    | .ok layout => layout.is1D

/-- **Construction at one position**: a null cell is filled with the value there, and as an element it
goes through the check of the row that it stands in. -/
def constructAt (src : ValueSource) (path : IndexPath) (w : World) : Built Unit Cell :=
  Source.checkElement path (decide (2 ≤ path.length) && src.isFlat path.dropLast)
    (src.source.constructCell src.depth path (src.declaredAt path) .null w ())

theorem declaredAt_below (src : ValueSource) (below : 2 ≤ path.length) :
    src.declaredAt path = none := by
  rcases path with _ | ⟨i, _ | ⟨j, rest⟩⟩
  · simp at below
  · simp at below
  · rfl

theorem isFlat_eq {items : List Value} {info : TypeInfo}
    (found : src.valueAt? path = some (.array items))
    (resolved : src.source.resolveType path (src.declaredAt path) () = (.ok info, ())) :
    src.isFlat path = is1D info items := by
  simp only [isFlat, resolved, arrayMetadata, withValue_eq found, Value.items?]

/-- Below the top level only arrays of leaves are one-dimensional. -/
theorem isFlat_below {items : List Value} (below : 2 ≤ path.length)
    (found : src.valueAt? path = some (.array items)) :
    src.isFlat path = items.all fun v => v.items?.isNone := by
  have resolved : src.source.resolveType path (src.declaredAt path) () =
      (.ok { (Value.array items).typeInfo with
        tag := src.coerce path (Value.array items).typeInfo.tag }, ()) := by
    rw [src.declaredAt_below below]
    exact source_typeInfo found
  rw [isFlat_eq found resolved]
  exact is1D_of_dimensions (by rw [Value.typeInfo_array]; rfl)

/-- Below the top level it goes as the checks of the value say. -/
theorem outcome_constructAt (found : src.valueAt? path = some v) (below : 2 ≤ path.length)
    (enough : v.depth < src.depth) {flat : Bool}
    (row : v.items? ≠ none → src.isFlat path.dropLast = flat) (w : World) :
    (src.constructAt path w).outcome =
      (v.checks (src.declaredKind? path) flat path).outcome := by
  rw [constructAt, src.declaredAt_below below, constructCell_eq_build found below enough]
  by_cases leaf : v.items? = none
  · rw [Value.checkElement_leaf leaf, Value.build_leaf leaf, Value.fill_checked,
      Value.checks_of_leaf leaf]
  · rw [row leaf, decide_eq_true below, Bool.true_and, Value.build_checked]

/-- So it does at the top level. -/
theorem outcome_constructAt_top {i : Nat} (found : src.values[i]? = some v) (w : World) :
    (src.constructAt [i] w).outcome = (v.checksTop i src.declared[i]?).outcome := by
  have cell : src.source.constructCell src.depth [i] (src.declaredAt [i]) .null w () =
      v.buildTop i src.declared[i]? .null w :=
    constructCell_eq_buildTop ((src.valueAt?_single i).trans found)
      (depth_lt (List.mem_of_getElem? found)) .null w
  rw [constructAt, cell]
  simp only [List.length_singleton, Nat.reduceLeDiff, decide_false, Bool.false_and,
    Source.checkElement_nested, Value.buildTop_checked]

/-! ## 2. Checks that tell what happens at their positions -/

/-- Each entry, with the entries of its own subtree in front of it, tells how construction at its
position goes. -/
def Explained (src : ValueSource) (l : Checks) : Prop :=
  ∀ before path wrong behind, l = before ++ (path, wrong) :: behind →
    path ≠ [] ∧ (∃ v, src.valueAt? path = some v) ∧
      ∃ skipped own, before = skipped ++ own ∧
        ∀ w, (src.constructAt path w).outcome = Checks.outcome (own ++ [(path, wrong)])

theorem explained_nil : src.Explained [] := by
  intro before path wrong behind whole
  simp at whole

theorem Explained.append {l m : Checks} (hl : src.Explained l) (hm : src.Explained m) :
    src.Explained (l ++ m) := by
  intro before path wrong behind whole
  obtain ⟨middle, rfl, rest⟩ | ⟨middle, rfl, rest⟩ := List.append_eq_append_iff.mp whole
  · obtain ⟨inside, value, skipped, own, rfl, tells⟩ := hm middle path wrong behind rest
    exact ⟨inside, value, l ++ skipped, own, by simp, tells⟩
  · cases middle with
    | nil =>
      obtain ⟨inside, value, skipped, own, same, tells⟩ := hm [] path wrong behind rest.symm
      exact ⟨inside, value, before ++ skipped, own, by simp [← same], tells⟩
    | cons entry middle =>
      obtain ⟨rfl, -⟩ := List.cons.inj rest
      exact hl before path wrong middle rfl

/-- The entries of a subtree, and the one of its root. -/
theorem Explained.close {l : Checks} (hl : src.Explained l) {wrong : Option BridgeError}
    (inside : path ≠ []) (found : src.valueAt? path = some v)
    (tells : ∀ w, (src.constructAt path w).outcome = Checks.outcome (l ++ [(path, wrong)])) :
    src.Explained (l ++ [(path, wrong)]) := by
  intro before path' wrong' behind whole
  rcases List.eq_nil_or_concat behind with rfl | ⟨behind, last, rfl⟩
  · obtain ⟨rfl, last⟩ := List.append_inj' whole rfl
    obtain ⟨rfl, rfl⟩ := Prod.mk.inj (List.cons.inj last).1
    exact ⟨inside, ⟨v, found⟩, [], l, rfl, tells⟩
  · have inner : l = before ++ (path', wrong') :: behind := by
      rw [List.concat_eq_append, ← List.cons_append, ← List.append_assoc] at whole
      exact (List.append_inj' whole rfl).1
    exact hl before path' wrong' behind inner

theorem explained_elements {items : List Value} {declared : Option BaseKind} {flat : Bool} {i : Nat}
    (each : ∀ j (v : Value), items[j]? = some v →
      src.Explained (v.checks declared flat (path ++ [i + j]))) :
    src.Explained (Value.checksFrom declared flat path i items) := by
  induction items generalizing i with
  | nil => exact explained_nil
  | cons v vs ih =>
    rw [Value.checksFrom]
    refine (each 0 v rfl).append (ih fun j u found => ?_)
    have index : i + 1 + j = i + (j + 1) := by omega
    rw [index]
    exact each (j + 1) u (by simpa using found)

/-- **The checks of a value below the top level are explained.** -/
theorem explained_checks (found : src.valueAt? path = some v) (below : 2 ≤ path.length)
    (enough : v.depth < src.depth) {flat : Bool}
    (row : v.items? ≠ none → src.isFlat path.dropLast = flat) :
    src.Explained (v.checks (src.declaredKind? path) flat path) := by
  have tells := outcome_constructAt found below enough row
  have inside : path ≠ [] := by
    rintro rfl
    simp at below
  induction v using Value.induct generalizing path flat with
  | leaf v leaf =>
    rw [Value.checks_of_leaf leaf] at tells ⊢
    exact explained_nil.close inside found tells
  | array items ih =>
    rw [Value.checks] at tells ⊢
    refine (explained_elements fun j v atIndex => ?_).close inside found tells
    have mem := List.mem_of_getElem? atIndex
    have element := (valueAt?_element inside found j).trans atIndex
    have shallower := Value.depth_lt mem
    have deeper : 2 ≤ (path ++ [j]).length := by simp; omega
    have inRow : v.items? ≠ none → src.isFlat (path ++ [j]).dropLast = false := by
      intro array
      rw [List.dropLast_concat, isFlat_below below found, List.all_eq_false]
      exact ⟨v, mem, by simpa using array⟩
    rw [Nat.zero_add, ← src.declaredKind?_append inside j]
    exact ih v mem element deeper (by omega) inRow
      (outcome_constructAt element deeper (by omega) inRow) (by simp)

/-- **So are those of a value at the top level.** -/
theorem explained_checksTop {i : Nat} (found : src.values[i]? = some v) :
    src.Explained (v.checksTop i src.declared[i]?) := by
  have tells := outcome_constructAt_top found
  have here := (src.valueAt?_single i).trans found
  have inside : ([i] : IndexPath) ≠ [] := List.cons_ne_nil i []
  have single : ∀ {wrong : Option BridgeError},
      (∀ w, (src.constructAt [i] w).outcome = Checks.outcome [([i], wrong)]) →
      src.Explained [([i], wrong)] := fun tells => explained_nil.close inside here tells
  have resolved := resolveType_top here src.declared[i]?
  rw [Value.checksTop] at tells ⊢
  cases known : (v.topType src.declared[i]?).wireTag.isKnown with
  | false =>
    simp only [known, Bool.not_false, if_true] at tells ⊢
    exact single tells
  | true =>
    simp only [known, Bool.not_true, Bool.false_eq_true, if_false] at tells ⊢
    cases isArray : (v.topType src.declared[i]?).wireTag.isArray with
    | false =>
      simp only [isArray, Bool.false_eq_true, if_false] at tells ⊢
      cases kind : (v.topType src.declared[i]?).wireTag.kind? with
      | none =>
        simp only [kind] at tells ⊢
        exact single tells
      | some k =>
        simp only [kind] at tells ⊢
        exact single tells
    | true =>
      simp only [isArray, if_true] at tells ⊢
      cases array : v.items? with
      | none =>
        simp only [array] at tells ⊢
        exact single tells
      | some items =>
        simp only [array] at tells ⊢
        obtain rfl := Value.eq_array_of_items? array
        refine (explained_elements fun j u atIndex => ?_).close inside here tells
        have shallower := Value.depth_lt (List.mem_of_getElem? atIndex)
        have enough := depth_lt (List.mem_of_getElem? found)
        rw [← src.declaredKind?_cons i [], Nat.zero_add, ← src.declaredKind?_append inside j]
        refine explained_checks ((valueAt?_element inside here j).trans atIndex) (by simp) (by omega)
          fun _ => ?_
        rw [List.dropLast_concat]
        exact isFlat_eq here resolved

theorem explained_checksFrom {i : Nat} {values : List Value}
    (each : ∀ j v, values[j]? = some v → src.values[i + j]? = some v) :
    src.Explained (checksFrom src.declared i values) := by
  induction values generalizing i with
  | nil => exact explained_nil
  | cons v vs ih =>
    rw [checksFrom]
    refine (explained_checksTop (each 0 v rfl)).append (ih fun j u found => ?_)
    have index : i + 1 + j = i + (j + 1) := by omega
    rw [index]
    exact each (j + 1) u (by simpa using found)

/-- **All checks of a source are explained.** -/
theorem explained (src : ValueSource) : src.Explained (checksFrom src.declared 0 src.values) :=
  explained_checksFrom fun j v found => by rwa [Nat.zero_add]

/-- Where all checks so far are clear, construction at each of their positions goes through. -/
theorem Explained.clear {l behind : Checks} (h : src.Explained (l ++ behind))
    (clear : ∀ check ∈ l, check.2 = none) :
    ∀ path ∈ l.map Prod.fst, ∀ w, (src.constructAt path w).outcome = .ok () := by
  intro path mem w
  obtain ⟨⟨path, wrong⟩, entry, rfl⟩ := List.mem_map.mp mem
  obtain ⟨before, after, rfl⟩ := List.append_of_mem entry
  obtain ⟨-, -, skipped, own, rfl, tells⟩ := h before path wrong (after ++ behind) (by simp)
  rw [tells, Checks.outcome_eq_ok_iff]
  intro check inOwn
  rcases List.mem_append.mp inOwn with inside | here
  · exact clear check (by simp [inside])
  · exact clear check (by simp [List.mem_singleton.mp here])

/-- At the first check that is not, it fails with just that error. -/
theorem Explained.first {l behind : Checks} {e : BridgeError}
    (h : src.Explained (l ++ (path, some e) :: behind)) (clear : ∀ check ∈ l, check.2 = none)
    (w : World) : (src.constructAt path w).outcome = .error ⟨.error e, path⟩ := by
  obtain ⟨-, -, skipped, own, rfl, tells⟩ := h l path (some e) behind rfl
  have through : Checks.outcome own = .ok () :=
    (Checks.outcome_eq_ok_iff own).mpr fun check mem => clear check (by simp [mem])
  rw [tells, Checks.outcome_append, through, Checks.outcome_single]

end ValueSource
/-! ## 3. The whole array -/

namespace ValueSource

variable {src : ValueSource}

/-- **The array fares as the checks say**, whatever cells are filled. -/
theorem row_checked {i : Nat} {values : List Value} {cells : List Cell}
    (each : ∀ j v, values[j]? = some v → src.values[i + j]? = some v)
    (length : cells.length = values.length) (w : World) (s : Unit) :
    (buildRow src.stepAt i cells w s).outcome = (checksFrom src.declared i values).outcome := by
  induction values generalizing i cells w s with
  | nil =>
    obtain rfl := List.eq_nil_of_length_eq_zero length
    rfl
  | cons v vs ih =>
    obtain ⟨c, cs, rfl⟩ := List.exists_cons_of_length_eq_add_one length
    have later : ∀ j u, vs[j]? = some u → src.values[i + 1 + j]? = some u := by
      intro j u found
      have index : i + 1 + j = i + (j + 1) := by omega
      rw [index]
      exact each (j + 1) u (by simpa using found)
    have step : src.stepAt i c w s = v.buildTop i src.declared[i]? c w :=
      stepAt_eq (each 0 v rfl) c w s
    rw [checksFrom, Checks.outcome_append, ← v.buildTop_checked i src.declared[i]? c w]
    simp only [buildRow, step]
    cases (v.buildTop i src.declared[i]? c w).outcome with
    | error stop => rfl
    | ok => exact ih later (by simpa using length) _ _

/-- The checks of the values before an index, those of the value there, and those of the others. -/
theorem checksFrom_split {k : Nat} {v : Value} (found : src.values[k]? = some v) :
    checksFrom src.declared 0 src.values =
      checksFrom src.declared 0 (src.values.take k) ++ (v.checksTop k src.declared[k]? ++
        checksFrom src.declared (k + 1) (src.values.drop (k + 1))) := by
  obtain ⟨inside, rfl⟩ := List.getElem?_eq_some_iff.mp found
  have length : (src.values.take k).length = k := List.length_take_of_le (by omega)
  have parts : src.values = src.values.take k ++ src.values[k] :: src.values.drop (k + 1) := by
    rw [← List.drop_eq_getElem_cons inside, List.take_append_drop]
  calc checksFrom src.declared 0 src.values
      = checksFrom src.declared 0
          (src.values.take k ++ src.values[k] :: src.values.drop (k + 1)) := by rw [← parts]
    _ = _ := by rw [checksFrom_append, checksFrom, length, Nat.zero_add]

/-- **Construction reports the first failure.**  Values are put into as many null cells.  If that stops,
it does so with a violation, and never because a path leads nowhere.  If the violation names a place, the
text of the place is that of one path alone; the path leads to a value; construction goes through at every
position before it in evaluation order, and fails there, with just this violation, whatever the state of
the process is; the top-level cells before its first index are those that the values before it leave when
they are constructed by themselves; and those behind it are null. -/
theorem construct_first_failure (src : ValueSource) (a : CellArray)
    (fresh : a.cells = List.replicate src.values.length .null) (w : World) (stop : Stop)
    (stopped : (src.construct a w).1 = .error stop) :
    ∃ e, stop.reason = .error (.marshal e) ∧
      (∀ place expected, e ≠ .typeMismatch place expected "nothing") ∧
      ∀ place, e.place? = some place →
        ∃ i inner before behind v,
          (∀ path : IndexPath, place.toText = path.toText ↔ path = i :: inner) ∧
          src.valueAt? (i :: inner) = some v ∧
          src.positions = before ++ (i :: inner) :: behind ∧
          (∀ path ∈ before, ∀ w, (src.constructAt path w).outcome = .ok ()) ∧
          (∀ w, (src.constructAt (i :: inner) w).outcome = .error stop) ∧
          (let alone := ValueSource.construct ⟨src.values.take i, src.declared.take i⟩
            { cells := List.replicate i .null } w
          alone.1 = .ok () ∧ (src.construct a w).2.1.cells.take i = alone.2.1.cells) ∧
          ∀ j, i < j → j < src.values.length → (src.construct a w).2.1.cells[j]? = some .null := by
  obtain ⟨why, path⟩ := stop
  rw [construct_eq] at stopped ⊢
  obtain ⟨k, old, atCell, front, failed, whole⟩ := buildRow_stop stopped
  have inCells : k < a.cells.length := (List.getElem?_eq_some_iff.mp atCell).1
  have inside : k < src.values.length := by simpa [fresh] using inCells
  have value := List.getElem?_eq_getElem inside
  -- the checks of the values before index k are clear, and those of the value at k up to the failure
  have clearBefore : ∀ check ∈ checksFrom src.declared 0 (src.values.take k), check.2 = none := by
    rw [← Checks.outcome_eq_ok_iff, ← front]
    refine (row_checked (fun j v found => ?_) (by simp [fresh]) w ()).symm
    rw [List.getElem?_take] at found
    split at found
    next => rwa [Nat.zero_add]
    next => cases found
  rw [Nat.zero_add, stepAt_eq value, Value.buildTop_checked] at failed
  obtain ⟨own, e, later, checks, clearOwn, reason⟩ := Checks.exists_first failed
  obtain ⟨⟨inner, place⟩, blames⟩ := Value.blames_checksTop
    (checks ▸ List.mem_append_right own List.mem_cons_self)
  obtain ⟨m, rfl, names, notMissing⟩ := blames e rfl
  obtain rfl : why = .error (.marshal m) := reason
  obtain rfl : path = k :: inner := place
  refine ⟨m, rfl, notMissing, fun place named => ?_⟩
  obtain rfl := names place named
  have split : checksFrom src.declared 0 src.values =
      (checksFrom src.declared 0 (src.values.take k) ++ own) ++ (k :: inner, some (.marshal m)) ::
        (later ++ checksFrom src.declared (k + 1) (src.values.drop (k + 1))) := by
    rw [checksFrom_split value, checks]
    simp
  have clear : ∀ check ∈ checksFrom src.declared 0 (src.values.take k) ++ own, check.2 = none :=
    fun check mem => (List.mem_append.mp mem).elim (clearBefore check) (clearOwn check)
  have explained := src.explained
  rw [split] at explained
  obtain ⟨-, ⟨v, found⟩, -⟩ := explained _ _ _ _ rfl
  have positions := congrArg (List.map Prod.fst) split
  rw [map_checksFrom, List.map_append, List.map_cons] at positions
  have length : (buildRow src.stepAt 0 (a.cells.take k) w ()).built.length = k := by
    rw [(buildRow_step front).1, List.length_take_of_le (by omega)]
  refine ⟨k, inner, _, _, v, fun path => ?_, found, positions, explained.clear clear,
    explained.first clear, ?_, fun j behind bound => ?_⟩
  · rw [Place.toText, IndexPath.toText_inj, eq_comm]
  · have taken : a.cells.take k = List.replicate k .null := by
      rw [fresh, List.take_replicate, Nat.min_eq_left (by omega)]
    rw [taken] at front length whole
    rw [front_alone List.length_replicate (by omega) {}]
    refine ⟨front, ?_⟩
    simp only [whole]
    rw [List.take_append_of_le_length (by omega), List.take_of_length_le (by omega)]
  · simp only [whole]
    obtain ⟨d, rfl⟩ : ∃ d, j = k + 1 + d := ⟨j - (k + 1), by omega⟩
    rw [List.getElem?_append_right (by omega), length,
      show k + 1 + d - k = d + 1 by omega, List.getElem?_cons_succ, List.getElem?_drop, fresh,
      List.getElem?_replicate_of_lt (by omega)]

end ValueSource

/-- A row that is declared one-dimensional and holds another one, with a text in it that holds NUL. -/
def brokenRow : ValueSource where
  values := [.scalar (.bool true), .array [.array [.null, .string .w8 "\x00"], .null]]
  declared := [.ofTag .any, .ofArray .any 1]

/-- The text is found first: it lies in an element that is an array, and the array would be refused only
after its own elements. -/
theorem construct_first_failure_brokenRow :
    ∃ before behind, brokenRow.positions = before ++ [1, 0, 1] :: behind ∧
      (∀ path ∈ before, ∀ w, (brokenRow.constructAt path w).outcome = .ok ()) ∧
      ∀ w, (brokenRow.constructAt [1, 0, 1] w).outcome =
        .error ⟨.error (.marshal (.interiorNul (.path [1, 0, 1]))), [1, 0, 1]⟩ := by
  obtain ⟨e, reason, -, first⟩ := ValueSource.construct_first_failure brokenRow
    { cells := [.null, .null] } rfl {}
    ⟨.error (.marshal (.interiorNul (.path [1, 0, 1]))), [1, 0, 1]⟩ rfl
  obtain rfl : MarshalError.interiorNul (.path [1, 0, 1]) = e := by simpa using reason
  obtain ⟨i, inner, before, behind, v, names, -, positions, through, fails, -⟩ := first _ rfl
  rw [← (names [1, 0, 1]).mp rfl] at positions fails
  exact ⟨before, behind, positions, through, fails⟩

end RuntimeBridge
