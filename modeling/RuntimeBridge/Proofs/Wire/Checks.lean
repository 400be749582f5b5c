/-
# The checks of a construction

Whether a value can be built at a position depends on nothing but the value, the position and the kind
asked for there: neither the state of the process nor what other positions hold has a say.  So each
position has its own check, and construction goes through the checks in evaluation order: the elements
of an array before the array itself, which may still be refused as an element of a one-dimensional one.

Main statements: `build_checked` and `buildTop_checked`, construction fares as its checks do, and
`blames_checksTop`, a check that fails blames its own position.
-/
import RuntimeBridge.Proofs.Wire.Form
namespace RuntimeBridge

/-! ## 1. Checks -/

/-- Positions in evaluation order, with what is wrong at each. -/
abbrev Checks := List (IndexPath × Option BridgeError)

namespace Checks

/-- How construction goes: up to the first position where something is wrong. -/
def outcome : Checks → Except Stop Unit
  | [] => .ok ()
  | (_, none) :: rest => outcome rest
  | (path, some e) :: _ => .error ⟨.error e, path⟩

@[simp] theorem outcome_single (path : IndexPath) (wrong : Option BridgeError) :
    outcome [(path, wrong)] =
      match wrong with
      | none => .ok ()
      | some e => .error ⟨.error e, path⟩ := by
  cases wrong <;> rfl

theorem outcome_append (l m : Checks) :
    outcome (l ++ m) =
      match outcome l with
      | .error stop => .error stop
      | .ok () => outcome m := by
  induction l with
  | nil => rfl
  | cons check l ih =>
    obtain ⟨path, _ | e⟩ := check
    · exact ih
    · rfl

theorem outcome_eq_ok_iff (l : Checks) : outcome l = .ok () ↔ ∀ check ∈ l, check.2 = none := by
  induction l with
  | nil => simp [outcome]
  | cons check l ih =>
    obtain ⟨path, _ | e⟩ := check
    · simpa [outcome] using ih
    · simp [outcome]

/-- A failure is at the first position where something is wrong. -/
theorem exists_first {l : Checks} {stop : Stop} (failed : outcome l = .error stop) :
    ∃ before e behind, l = before ++ (stop.path, some e) :: behind ∧
      (∀ check ∈ before, check.2 = none) ∧ stop.reason = .error e := by
  induction l with
  | nil => cases failed
  | cons check l ih =>
    obtain ⟨path, _ | e⟩ := check
    · obtain ⟨before, e, behind, rfl, clear, reason⟩ := ih failed
      exact ⟨(path, none) :: before, e, behind, rfl, by simpa using clear, reason⟩
    · obtain rfl := Except.error.inj failed
      exact ⟨[], e, l, rfl, by simp, rfl⟩

end Checks

/-! ## 2. What is wrong at a leaf -/

/-- A violation that names a path, if it names any place, or none at all; and not the one of a path that
leads nowhere. -/
def BridgeError.Blames (path : IndexPath) (e : BridgeError) : Prop :=
  ∃ m, e = .marshal m ∧ (∀ place, m.place? = some place → place = .path path) ∧
    ∀ place expected, m ≠ .typeMismatch place expected "nothing"

/-- The error of a callable whose signature has no count on the wire. -/
def Callable.refusal? (c : Callable) : Option BridgeError :=
  match signatureCount? c.params.length, signatureCount? c.retvals.length with
  | .error e, _ => some (.marshal e)
  | _, .error e => some (.marshal e)
  | .ok _, .ok _ => none

/-- The error of a content that goes into no cell. -/
def LeafContent.refusal? (path : IndexPath) : LeafContent → Option BridgeError
  | text _ s => if holdsNul s then some (.marshal (.interiorNul (.path path))) else none
  | callable c => c.refusal?
  | _ => none

/-- The error of a value that fills no cell as one of a kind. -/
def Value.refusal? (path : IndexPath) (v : Value) (kind : BaseKind) : Option BridgeError :=
  match v.asLeaf path kind with
  | .error e => some e
  | .ok x => x.refusal? path

theorem Callable.toRecord_refusal? (c : Callable) (w : World) :
    match c.refusal? with
    | some e => (c.toRecord w).1 = .error e
    | none => ∃ r, (c.toRecord w).1 = .ok r := by
  simp only [refusal?, toRecord, List.length_map]
  cases signatureCount? c.params.length with
  | error e => rfl
  | ok n =>
    cases signatureCount? c.retvals.length with
    | error e => rfl
    | ok m => cases c <;> exact ⟨_, rfl⟩

/-- **Filling goes the same way in every cell and from every state.** -/
theorem Value.fill_checked (path : IndexPath) (v : Value) (kind : BaseKind) (cell : Cell)
    (w : World) :
    (v.fill path kind cell w).outcome = Checks.outcome [(path, v.refusal? path kind)] := by
  rw [Checks.outcome_single, fill, refusal?]
  cases asked : v.asLeaf path kind with
  | error e => rfl
  | ok x =>
    cases x with
    | null => rfl
    | scalar s => rfl
    | handle offer => rfl
    | text width s =>
      simp only [LeafContent.put, LeafContent.refusal?, Cell.setText?]
      cases holdsNul s <;> rfl
    | callable c =>
      have given := c.toRecord_refusal? w
      simp only [LeafContent.put, LeafContent.refusal?]
      cases refused : c.refusal? with
      | some e =>
        rw [refused] at given
        rw [show c.toRecord w = (.error e, (c.toRecord w).2) from Prod.ext given rfl]
        rfl
      | none =>
        rw [refused] at given
        obtain ⟨r, given⟩ := given
        rw [show c.toRecord w = (.ok r, (c.toRecord w).2) from Prod.ext given rfl]
        rfl

/-! What is wrong is told with the path. -/

theorem TypeTag.toText_ne_nothing (kind : BaseKind) :
    (ofKind kind).toText ≠ "nothing" ∧ (ofKind kind).withArray.toText ≠ "nothing" := by
  cases kind with
  | int k => cases k <;> decide
  | string w => cases w <;> decide
  | char w => cases w <;> decide
  | _ => decide

theorem blames_mismatch (path : IndexPath) (tag : TypeTag) (v : Value) :
    (ValueSource.mismatch path tag v).Blames path := by
  refine ⟨_, rfl, fun place named => (Option.some.inj named).symm, fun place expected same => ?_⟩
  have text : v.typeTag.toText = "nothing" := by
    simp only [MarshalError.typeMismatch.injEq] at same
    exact same.2.2
  cases v with
  | array items =>
    rw [Value.typeTag, Value.leafTag_eq_ofKind] at text
    exact (TypeTag.toText_ne_nothing _).2 text
  | _ => exact (TypeTag.toText_ne_nothing _).1 text

theorem blames_of_place {path : IndexPath} {m : MarshalError} (named : m.place? = some (.path path))
    (other : ∀ place expected found, m ≠ .typeMismatch place expected found) :
    (BridgeError.marshal m).Blames path :=
  ⟨m, rfl, fun _ named' => Option.some.inj (named'.symm.trans named),
    fun place expected => other place expected _⟩

theorem blames_of_scalarOf {path : IndexPath} {kind : BaseKind} {v : Value} {e : BridgeError}
    (refused : ValueSource.scalarOf path kind v = .error e) : e.Blames path := by
  cases kind <;> simp only [ValueSource.scalarOf] at refused
  -- every branch that fails ends in a mismatch or in a number out of range
  all_goals (repeat' split at refused)
  all_goals cases refused
  all_goals first
    | exact blames_mismatch _ _ _
    | exact blames_of_place rfl (by simp)

theorem blames_of_asLeaf {path : IndexPath} {kind : BaseKind} {v : Value} {e : BridgeError}
    (refused : v.asLeaf path kind = .error e) : e.Blames path := by
  have scalars : ∀ {k : BaseKind}, (ValueSource.scalarOf path k v).map .scalar =
      (.error e : Except BridgeError LeafContent) → e.Blames path := by
    intro k failed
    cases read : ValueSource.scalarOf path k v with
    | ok s => simp [read, Except.map] at failed
    | error f =>
      obtain rfl : f = e := by simpa [read, Except.map] using failed
      exact blames_of_scalarOf read
  cases kind with
  | null => cases refused
  | handle => cases refused
  | any =>
    cases refused
    exact blames_of_place rfl (by simp)
  | string width =>
    simp only [Value.asLeaf] at refused
    split at refused <;> cases refused
    exact blames_mismatch _ _ _
  | callable =>
    simp only [Value.asLeaf] at refused
    split at refused <;> cases refused
    exact blames_mismatch _ _ _
  | _ => exact scalars refused

theorem blames_of_signatureCount? {path : IndexPath} {n : Nat} {m : MarshalError}
    (refused : signatureCount? n = .error m) : (BridgeError.marshal m).Blames path := by
  rw [signatureCount?] at refused
  split at refused <;> cases refused
  exact ⟨_, rfl, by simp [MarshalError.place?], by simp⟩

theorem blames_of_refusal? {path : IndexPath} {kind : BaseKind} {v : Value} {e : BridgeError}
    (refused : v.refusal? path kind = some e) : e.Blames path := by
  rw [Value.refusal?] at refused
  cases asked : v.asLeaf path kind with
  | error f =>
    obtain rfl : f = e := by simpa [asked] using refused
    exact blames_of_asLeaf asked
  | ok x =>
    simp only [asked] at refused
    cases x with
    | null | scalar s | handle offer => cases refused
    | text width s =>
      simp only [LeafContent.refusal?] at refused
      split at refused <;> cases refused
      exact blames_of_place rfl (by simp)
    | callable c =>
      simp only [LeafContent.refusal?, Callable.refusal?] at refused
      split at refused <;> cases refused
      · exact blames_of_signatureCount? ‹_›
      · exact blames_of_signatureCount? ‹_›

/-! ## 3. Below the top level -/

namespace Value

mutual

/-- The positions of a value at a path, in evaluation order. -/
def positions (path : IndexPath) : Value → List IndexPath
  | .array items => positionsFrom path 0 items ++ [path]
  | _ => [path]

/-- The positions of the elements from index `i` on. -/
def positionsFrom (path : IndexPath) : Nat → List Value → List IndexPath
  | _, [] => []
  | i, v :: vs => v.positions (path ++ [i]) ++ positionsFrom path (i + 1) vs

end

mutual

/-- The checks of a value below the top level, under the leaf kind declared there.  An array in a flat
row is refused after its elements. -/
def checks (declared : Option BaseKind) (flat : Bool) (path : IndexPath) : Value → Checks
  | .array items =>
    checksFrom declared false path 0 items ++
      [(path, if flat then some (.marshal (.nestedArrayIn1D (.path path))) else none)]
  | v => [(path, v.refusal? path (v.leafKind.under declared))]

/-- The checks of the elements of a row from index `i` on. -/
def checksFrom (declared : Option BaseKind) (flat : Bool) (path : IndexPath) :
    Nat → List Value → Checks
  | _, [] => []
  | i, v :: vs =>
    v.checks declared flat (path ++ [i]) ++ checksFrom declared flat path (i + 1) vs

end

variable {declared : Option BaseKind} {flat : Bool}

theorem checks_of_leaf {v : Value} (leaf : v.items? = none) (path : IndexPath) :
    v.checks declared flat path = [(path, v.refusal? path (v.leafKind.under declared))] := by
  cases v <;> simp_all [items?, checks]

theorem positions_of_leaf {v : Value} (leaf : v.items? = none) (path : IndexPath) :
    v.positions path = [path] := by
  cases v <;> simp_all [items?, positions]

theorem map_checksFrom {items : List Value}
    (each : ∀ v ∈ items, ∀ flat path, (v.checks declared flat path).map Prod.fst = v.positions path)
    (path : IndexPath) (i : Nat) :
    (checksFrom declared flat path i items).map Prod.fst = positionsFrom path i items := by
  induction items generalizing i with
  | nil => rfl
  | cons v vs ih =>
    rw [checksFrom, positionsFrom, List.map_append, each v List.mem_cons_self,
      ih fun u mem => each u (List.mem_cons_of_mem _ mem)]

/-- There is one check for each position. -/
theorem map_checks (v : Value) (path : IndexPath) :
    (v.checks declared flat path).map Prod.fst = v.positions path := by
  induction v using induct generalizing flat path with
  | leaf v leaf => rw [checks_of_leaf leaf, positions_of_leaf leaf]; rfl
  | array items ih =>
    rw [checks, positions, List.map_append, map_checksFrom fun v mem flat path => ih v mem path]
    rfl

theorem buildItems_checked {items : List Value}
    (each : ∀ v ∈ items, ∀ path w, (Source.checkElement path flat (v.build declared path w)).outcome =
      (v.checks declared flat path).outcome) (path : IndexPath) (i : Nat) (w : World) :
    (buildItems declared path flat i items w).outcome =
      (checksFrom declared flat path i items).outcome := by
  induction items generalizing i w with
  | nil => rfl
  | cons v vs ih =>
    -- where the first element is built, the others are, from whatever state it leaves
    have rest := fun w => ih (fun u mem => each u (List.mem_cons_of_mem _ mem)) (i + 1) w
    rw [buildItems_cons, checksFrom, Checks.outcome_append, ← each v List.mem_cons_self _ w]
    cases here : (Source.checkElement (path ++ [i]) flat
      (v.build declared (path ++ [i]) w)).outcome with
    | error stop => simp only [here]
    | ok =>
      simp only [here]
      exact rest _

/-- No leaf is refused as an element. -/
theorem checkElement_leaf {v : Value} (leaf : v.items? = none) (path : IndexPath) (w : World) :
    Source.checkElement path flat (v.build declared path w) = v.build declared path w := by
  cases ok : (v.build declared path w).outcome with
  | error stop => simp only [Source.checkElement, ok]
  | ok =>
    have plain := (formed_of_build ok).isArray_eq
    rw [leaf, Option.isSome_none] at plain
    simp only [Source.checkElement, ok, plain, Bool.and_false, Bool.false_eq_true, if_false]

/-- **Building goes through the checks**, from whatever state. -/
theorem build_checked (v : Value) (path : IndexPath) (w : World) :
    (Source.checkElement path flat (v.build declared path w)).outcome =
      (v.checks declared flat path).outcome := by
  induction v using induct generalizing flat path w with
  | leaf v leaf =>
    rw [checkElement_leaf leaf, build_leaf leaf, fill_checked, checks_of_leaf leaf]
  | array items ih =>
    have row : (buildItems declared path false 0 items w).outcome =
        (checksFrom declared false path 0 items).outcome :=
      buildItems_checked (fun v mem path w => ih v mem path w) path 0 w
    rw [build_array, checks, Checks.outcome_append, ← row, Source.checkElement, closeArray_outcome]
    cases built : (buildItems declared path false 0 items w).outcome with
    | error stop => simp only [closeArray_outcome, built]
    | ok =>
      have array : (closeArray ((sharedKind items).under declared) (dimensions items)
          (buildItems declared path false 0 items w)).built.tag.isArray = true := by
        rw [built_of_closeArray built, Cell.ofArray, Cell.tag, TypeTag.isArray_withArray_ofKind]
      cases flat <;> simp [array, closeArray_outcome, built, Halt.marshal]

end Value

/-! ## 4. The top level -/

namespace Value

/-- The positions of a value at top-level position `i`.  A value that is not built as an array has no
positions inside. -/
def positionsTop (i : Nat) (declared : Option TypeInfo) (v : Value) : List IndexPath :=
  let tag := (v.topType declared).wireTag
  if tag.isKnown && tag.isArray then v.positions [i] else [[i]]

/-- The checks of a value at top-level position `i`. -/
def checksTop (i : Nat) (declared : Option TypeInfo) (v : Value) : Checks :=
  let info := v.topType declared
  let tag := info.wireTag
  if !tag.isKnown then [([i], some (.marshal (.unknownType tag (.path [i]))))]
  else if tag.isArray then
    match v.items? with
    | none => [([i], some (ValueSource.mismatch [i] tag v))]
    | some items =>
      checksFrom (declaredLeaf? declared) (ValueSource.is1D info items) [i] 0 items ++ [([i], none)]
  else
    match tag.kind? with
    | some kind => [([i], v.refusal? [i] kind)]
    | none => [([i], some (.marshal (.unknownType tag (.path [i]))))]

/-- **Building goes through the checks at the top level too**, whatever cell is filled. -/
theorem buildTop_checked (i : Nat) (declared : Option TypeInfo) (v : Value) (cell : Cell)
    (w : World) :
    (v.buildTop i declared cell w).outcome = (v.checksTop i declared).outcome := by
  rw [buildTop, checksTop]
  cases (v.topType declared).wireTag.isKnown with
  | false => rfl
  | true =>
    simp only [Bool.not_true, Bool.false_eq_true, if_false]
    cases (v.topType declared).wireTag.isArray with
    | false =>
      simp only [Bool.false_eq_true, if_false]
      cases (v.topType declared).wireTag.kind? with
      | none => rfl
      | some kind => exact fill_checked [i] v kind cell w
    | true =>
      simp only [if_true]
      cases v.items? with
      | none => rfl
      | some items =>
        simp only [closeArray_outcome, Checks.outcome_append, Checks.outcome_single]
        rw [buildItems_checked fun v _ path w => build_checked v path w]
        cases (checksFrom (declaredLeaf? declared)
          (ValueSource.is1D (v.topType declared) items) [i] 0 items).outcome <;> rfl

/-- There is one check for each position. -/
theorem map_checksTop (i : Nat) (declared : Option TypeInfo) (v : Value) :
    (v.checksTop i declared).map Prod.fst = v.positionsTop i declared := by
  rw [checksTop, positionsTop]
  cases (v.topType declared).wireTag.isKnown with
  | false => rfl
  | true =>
    simp only [Bool.not_true, Bool.false_eq_true, if_false, Bool.true_and]
    cases (v.topType declared).wireTag.isArray with
    | false =>
      simp only [Bool.false_eq_true, if_false]
      cases (v.topType declared).wireTag.kind? <;> rfl
    | true =>
      simp only [if_true]
      cases array : v.items? with
      | none => rw [positions_of_leaf array]; rfl
      | some items =>
        rw [eq_array_of_items? array, positions, List.map_append,
          map_checksFrom fun v _ flat path => map_checks v path]
        rfl

end Value

namespace ValueSource

/-- The checks of the values from index `i` on. -/
def checksFrom (declared : List TypeInfo) : Nat → List Value → Checks
  | _, [] => []
  | i, v :: vs => v.checksTop i declared[i]? ++ checksFrom declared (i + 1) vs

/-- The positions of the values from index `i` on. -/
def positionsFrom (declared : List TypeInfo) : Nat → List Value → List IndexPath
  | _, [] => []
  | i, v :: vs => v.positionsTop i declared[i]? ++ positionsFrom declared (i + 1) vs

/-- **All positions where something is built, in evaluation order**: one value after the other, and the
elements of an array before the array. -/
def positions (src : ValueSource) : List IndexPath :=
  positionsFrom src.declared 0 src.values

theorem map_checksFrom (declared : List TypeInfo) (i : Nat) (values : List Value) :
    (checksFrom declared i values).map Prod.fst = positionsFrom declared i values := by
  induction values generalizing i with
  | nil => rfl
  | cons v vs ih => rw [checksFrom, positionsFrom, List.map_append, v.map_checksTop, ih]

theorem checksFrom_append (declared : List TypeInfo) (i : Nat) (front behind : List Value) :
    checksFrom declared i (front ++ behind) =
      checksFrom declared i front ++ checksFrom declared (i + front.length) behind := by
  induction front generalizing i with
  | nil => rfl
  | cons v vs ih =>
    have index : i + 1 + vs.length = i + (v :: vs).length := by
      rw [List.length_cons]
      omega
    rw [List.cons_append, checksFrom, checksFrom, ih, List.append_assoc, index]

end ValueSource
/-! ## 5. What the checks blame -/

namespace Value

theorem mem_checksFrom {declared : Option BaseKind} {flat : Bool} {items : List Value}
    {path : IndexPath} {i : Nat} {check : IndexPath × Option BridgeError}
    (mem : check ∈ checksFrom declared flat path i items) :
    ∃ j, ∃ v ∈ items, check ∈ v.checks declared flat (path ++ [j]) := by
  induction items generalizing i with
  | nil => simp [checksFrom] at mem
  | cons v vs ih =>
    rw [checksFrom, List.mem_append] at mem
    rcases mem with here | later
    · exact ⟨i, v, List.mem_cons_self, here⟩
    · obtain ⟨j, u, inside, found⟩ := ih later
      exact ⟨j, u, List.mem_cons_of_mem _ inside, found⟩

/-- Every check of a value is at a position in it, and what is wrong there is told with that path. -/
theorem blames_checks {declared : Option BaseKind} {flat : Bool} {v : Value} {path : IndexPath}
    {check : IndexPath × Option BridgeError} (mem : check ∈ v.checks declared flat path) :
    (∃ inner, check.1 = path ++ inner) ∧ ∀ e, check.2 = some e → e.Blames check.1 := by
  induction v using induct generalizing flat path with
  | leaf v leaf =>
    rw [checks_of_leaf leaf, List.mem_singleton] at mem
    rw [mem]
    exact ⟨⟨[], by simp⟩, fun e refused => blames_of_refusal? refused⟩
  | array items ih =>
    rw [checks, List.mem_append, List.mem_singleton] at mem
    rcases mem with inside | rfl
    · obtain ⟨j, v, member, found⟩ := mem_checksFrom inside
      obtain ⟨⟨inner, place⟩, blames⟩ := ih v member found
      exact ⟨⟨j :: inner, by simp [place]⟩, blames⟩
    · refine ⟨⟨[], by simp⟩, fun e refused => ?_⟩
      cases flat with
      | false => cases refused
      | true =>
        cases refused
        exact blames_of_place rfl (by simp)

theorem blames_checksTop {i : Nat} {declared : Option TypeInfo} {v : Value}
    {check : IndexPath × Option BridgeError} (mem : check ∈ v.checksTop i declared) :
    (∃ inner, check.1 = i :: inner) ∧ ∀ e, check.2 = some e → e.Blames check.1 := by
  have single : ∀ {wrong : Option BridgeError}, (∀ e, wrong = some e → e.Blames [i]) →
      check ∈ [([i], wrong)] →
      (∃ inner, check.1 = i :: inner) ∧ ∀ e, check.2 = some e → e.Blames check.1 := by
    intro wrong blames mem
    rw [List.mem_singleton.mp mem]
    exact ⟨⟨[], rfl⟩, blames⟩
  have unknown : ∀ (tag : TypeTag) (e : BridgeError),
      some (BridgeError.marshal (.unknownType tag (.path [i]))) = some e → e.Blames [i] := by
    rintro tag e ⟨⟩
    exact blames_of_place rfl (by simp)
  simp only [checksTop] at mem
  split at mem
  next => exact single (unknown _) mem
  next =>
    split at mem
    next =>
      split at mem
      next =>
        refine single (fun e refused => ?_) mem
        cases refused
        exact blames_mismatch _ _ _
      next items _ =>
        rcases List.mem_append.mp mem with inside | here
        · obtain ⟨j, u, -, found⟩ := mem_checksFrom inside
          obtain ⟨⟨inner, place⟩, blames⟩ := blames_checks found
          exact ⟨⟨j :: inner, place⟩, blames⟩
        · exact single (fun e refused => by cases refused) here
    next =>
      split at mem
      next => exact single (fun e refused => blames_of_refusal? refused) mem
      next => exact single (unknown _) mem

end Value

end RuntimeBridge
