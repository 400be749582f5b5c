/-
# From leaves to trees

What construction and decoding do to a value, they do to its leaves.  `Marshalled` says of a value
that was built what decoding its cell gives, in whatever state of the process comes later; which
later states count, what is good to get, and whether decoding may fail are parameters.  If it holds
of the leaves of a value, it holds of the value (`marshalled_build`), and if it holds of the values
at the top level, of the whole array (`marshalledRow_of_steps`).
-/
import RuntimeBridge.Proofs.Wire.Structure
import RuntimeBridge.Proofs.Wire.Decoding
namespace RuntimeBridge

/-! ## 1. What is decoded -/

/-- Decoding gave something good, or failed where it may. -/
def Decoded {α : Type} (good : α → Prop) (mayFail : Prop) (decoded : Except Stop α × Nat) : Prop :=
  match decoded.1 with
  | .ok x => good x
  | .error _ => mayFail

theorem Decoded.mono {α : Type} {good better : α → Prop} {mayFail : Prop}
    {decoded : Except Stop α × Nat} (h : Decoded good mayFail decoded)
    (better_of : ∀ x, good x → better x) : Decoded better mayFail decoded := by
  rcases decoded with ⟨stop | x, used⟩
  · exact h
  · exact better_of x h

/-- Where decoding may not fail, it gives something good. -/
theorem decoded_iff {α : Type} {good : α → Prop} {decoded : Except Stop α × Nat} :
    Decoded good False decoded ↔ ∃ x used, decoded = (.ok x, used) ∧ good x := by
  constructor
  · intro h
    rcases decoded with ⟨stop | x, used⟩
    · exact absurd h id
    · exact ⟨x, used, rfl, h⟩
  · rintro ⟨x, used, rfl, h⟩
    exact h

/-- A value was built, and what its cell is decoded as from then on is good. -/
structure Marshalled (order : World → World → Prop) (good : World → Value → Value → Prop)
    (mayFail : Prop) (v : Value) (w : World) (r : Built Unit Cell) : Prop where
  along : order w r.world
  back : r.outcome = .ok () → ∀ later, order r.world later → ∀ path supply,
    Decoded (good later v) mayFail (r.built.decode later path supply)

/-- As `Marshalled`, for a row of values from index `i` on. -/
structure MarshalledRow (order : World → World → Prop) (good : Nat → World → Value → Value → Prop)
    (mayFail : Prop) (vs : List Value) (i : Nat) (w : World) (r : Built Unit (List Cell)) : Prop where
  along : order w r.world
  back : r.outcome = .ok () → ∀ later, order r.world later → ∀ path k supply,
    Decoded (fun us => us.length = vs.length ∧
      ∀ (j : Nat) v u, vs[j]? = some v → us[j]? = some u → good (i + j) later v u) mayFail
      (Cell.decodeRow later r.built path k supply)

theorem decode_ofArray (leaf : BaseKind) (cells : List Cell) (dimensions : Int) (w : World)
    (path : IndexPath) (supply : Nat) :
    (Cell.ofArray (.ofKind leaf) cells dimensions).decode w path supply =
      match Cell.decodeRow w cells path 0 supply with
      | (.ok vs, supply) => (.ok (.array vs), supply)
      | (.error stop, supply) => (.error stop, supply) := by
  rcases decoded : Cell.decodeRow w cells path 0 supply with ⟨stop | vs, used⟩ <;>
    simp [Cell.ofArray, Cell.decode, decoded]

/-! ## 2. What is built -/

/-- A row is built just when each of its elements can be. -/
theorem buildRow_ok_iff {can : Value → Prop} {vs : List Value}
    {step : Nat → Cell → World → Unit → Built Unit Cell} {i : Nat}
    (each : ∀ (j : Nat) v w, vs[j]? = some v →
      ((step (i + j) .null w ()).outcome = .ok () ↔ can v)) (w : World) :
    (buildRow step i (List.replicate vs.length .null) w ()).outcome = .ok () ↔
      ∀ v ∈ vs, can v := by
  induction vs generalizing i w with
  | nil => simp [buildRow]
  | cons v vs ih =>
    have here := each 0 v w rfl
    rw [Nat.add_zero] at here
    have shifted : ∀ j, i + 1 + j = i + (j + 1) := fun j => by omega
    have rest := fun w => ih (i := i + 1) (fun j u w atIndex => shifted j ▸ each (j + 1) u w atIndex) w
    simp only [List.length_cons, List.replicate_succ, buildRow, List.forall_mem_cons]
    cases built : (step i .null w ()).outcome with
    | error stop =>
      rw [built] at here
      simp [← here]
    | ok =>
      rw [built] at here
      simp [← here, rest]

theorem length_buildRow {σ : Type} (step : Nat → Cell → World → σ → Built σ Cell) (i : Nat)
    (cells : List Cell) (w : World) (s : σ) :
    (buildRow step i cells w s).built.length = cells.length := by
  induction cells generalizing i w s with
  | nil => rfl
  | cons c cs ih =>
    simp only [buildRow]
    split
    · rfl
    · exact congrArg (· + 1) (ih _ _ _)

namespace Value

/-- Build the `j`-th element of an array. -/
def elementStep (declared : Option BaseKind) (path : IndexPath) (flat : Bool) (items : List Value)
    (j : Nat) (_ : Cell) (w : World) (_ : Unit) : Built Unit Cell :=
  Source.checkElement (path ++ [j]) flat ((items[j]?.getD .null).build declared (path ++ [j]) w)

theorem elementStep_eq (declared : Option BaseKind) (path : IndexPath) (flat : Bool)
    {items : List Value} {j : Nat} {v : Value} (atIndex : items[j]? = some v) (c : Cell) (w : World) :
    elementStep declared path flat items j c w () =
      Source.checkElement (path ++ [j]) flat (v.build declared (path ++ [j]) w) := by
  rw [elementStep, atIndex, Option.getD_some]

/-- The elements of an array are a row. -/
theorem buildItems_eq_buildRow (declared : Option BaseKind) (path : IndexPath) (flat : Bool)
    (items : List Value) (w : World) :
    buildItems declared path flat 0 items w =
      buildRow (elementStep declared path flat items) 0 (List.replicate items.length .null) w () := by
  refine (buildRow_eq (fun j v w atIndex => ?_) w).symm
  rw [Nat.zero_add]
  exact elementStep_eq declared path flat atIndex .null w

/-- The elements of an array are built just when each of them can be. -/
theorem buildItems_ok_iff {can : Value → Prop} {declared : Option BaseKind} {items : List Value}
    (each : ∀ v ∈ items, ∀ path w, (v.build declared path w).outcome = .ok () ↔ can v)
    (path : IndexPath) (w : World) :
    (buildItems declared path false 0 items w).outcome = .ok () ↔ ∀ v ∈ items, can v := by
  rw [buildItems_eq_buildRow]
  refine buildRow_ok_iff (fun j v w atIndex => ?_) w
  rw [Nat.zero_add, elementStep_eq declared path false atIndex, Source.checkElement_nested]
  exact each v (List.mem_of_getElem? atIndex) _ w

end Value

section

variable {order : World → World → Prop} (refl : ∀ w, order w w)
  (trans : ∀ {a b c}, order a b → order b c → order a c) {mayFail : Prop} {origin : World}

include refl trans

/-! ## 3. Rows -/

/-- **A row is marshalled element by element.** -/
theorem marshalledRow_of_steps {good : Nat → World → Value → Value → Prop} {vs : List Value}
    {step : Nat → Cell → World → Unit → Built Unit Cell} {i : Nat}
    {w : World} (start : order origin w)
    (each : ∀ (j : Nat) v w, vs[j]? = some v → order origin w →
      Marshalled order (good (i + j)) mayFail v w (step (i + j) .null w ())) :
    MarshalledRow order good mayFail vs i w
      (buildRow step i (List.replicate vs.length .null) w ()) := by
  induction vs generalizing i w with
  | nil => exact ⟨refl w, fun _ later _ path k supply => ⟨rfl, by simp⟩⟩
  | cons v vs ih =>
    have here := each 0 v w rfl start
    rw [Nat.add_zero] at here
    have shifted : ∀ j, i + 1 + j = i + (j + 1) := fun j => by omega
    have rest := fun w' start' => ih (i := i + 1) (w := w') start'
      fun j u w atIndex => shifted j ▸ each (j + 1) u w atIndex
    simp only [List.length_cons, List.replicate_succ, buildRow]
    cases built : (step i .null w ()).outcome with
    | error stop => exact ⟨here.along, fun ok => by simp at ok⟩
    | ok =>
      have rest := rest _ (trans start here.along)
      refine ⟨trans here.along rest.along, fun ok later along path k supply => ?_⟩
      have first := here.back built later (trans rest.along along) (path ++ [k]) supply
      simp only at ok ⊢
      rw [Cell.decodeRow]
      rcases decoded : (step i .null w ()).built.decode later (path ++ [k]) supply with
        ⟨stop | u, used⟩ <;> rw [decoded] at first
      · exact first
      · have others := rest.back ok later along path (k + 1) used
        simp only
        rcases row : Cell.decodeRow later _ path (k + 1) used with ⟨stop | us, used'⟩ <;>
          rw [row] at others
        · exact others
        · refine ⟨congrArg (· + 1) others.1, fun j v' u' atValue atResult => ?_⟩
          cases j with
          | zero =>
            obtain rfl := Option.some.inj atValue
            obtain rfl := Option.some.inj atResult
            exact first
          | succ j =>
            rw [← shifted j]
            exact others.2 j v' u' atValue atResult

omit refl trans in
theorem marshalled_checkElement {good : World → Value → Value → Prop} {v : Value} {w : World}
    {r : Built Unit Cell} (marshalled : Marshalled order good mayFail v w r) (path : IndexPath)
    (flat : Bool) : Marshalled order good mayFail v w (Source.checkElement path flat r) := by
  have same : (Source.checkElement path flat r).world = r.world := by
    unfold Source.checkElement
    repeat' split
    all_goals rfl
  refine ⟨same ▸ marshalled.along, fun ok => ?_⟩
  rw [(Source.checkElement_ok ok).1]
  exact marshalled.back (Source.checkElement_ok ok).2.1

/-- The elements of an array. -/
theorem marshalledRow_items {good : World → Value → Value → Prop} {declared : Option BaseKind}
    {items : List Value} {w : World} (start : order origin w)
    (each : ∀ v ∈ items, ∀ path w, order origin w →
      Marshalled order good mayFail v w (v.build declared path w))
    (path : IndexPath) (flat : Bool) :
    MarshalledRow order (fun _ => good) mayFail items 0 w
      (Value.buildItems declared path flat 0 items w) := by
  rw [Value.buildItems_eq_buildRow]
  refine marshalledRow_of_steps refl trans start fun j v w atIndex start => ?_
  rw [Nat.zero_add, Value.elementStep_eq declared path flat atIndex]
  exact marshalled_checkElement (each v (List.mem_of_getElem? atIndex) _ w start) _ flat

/-! ## 4. Arrays -/

omit refl trans in
/-- An array cell is decoded as the array of what its row is decoded as. -/
theorem marshalled_closeArray {good goodArray : World → Value → Value → Prop} {items : List Value}
    {w : World} {row : Built Unit (List Cell)}
    (marshalled : MarshalledRow order (fun _ => good) mayFail items 0 w row)
    (closed : row.outcome = .ok () → ∀ later us, us.length = items.length →
      (∀ (j : Nat) v u, items[j]? = some v → us[j]? = some u → good later v u) →
      goodArray later (.array items) (.array us)) (leaf : BaseKind) (dimensions : Int) :
    Marshalled order goodArray mayFail (.array items) w (closeArray leaf dimensions row) := by
  refine ⟨?_, fun ok later along path supply => ?_⟩
  · rw [closeArray_world]
    exact marshalled.along
  · rw [closeArray_outcome] at ok
    rw [closeArray_world] at along
    have back := marshalled.back ok later along path 0 supply
    rw [built_of_closeArray ok, decode_ofArray]
    rcases decoded : Cell.decodeRow later row.built path 0 supply with ⟨stop | us, used⟩ <;>
      rw [decoded] at back
    · exact back
    · exact closed ok later us back.1 back.2

/-- **A tree is marshalled leaf by leaf.** -/
theorem marshalled_build {good : World → Value → Value → Prop}
    (closed : ∀ later vs us, us.length = vs.length →
      (∀ (j : Nat) v u, vs[j]? = some v → us[j]? = some u → good later v u) →
      good later (.array vs) (.array us))
    {declared : Option BaseKind} {v : Value}
    (leaves : ∀ leaf ∈ v.leaves, leaf.items? = none → ∀ path w, order origin w →
      Marshalled order good mayFail leaf w (leaf.build declared path w))
    (path : IndexPath) {w : World} (start : order origin w) :
    Marshalled order good mayFail v w (v.build declared path w) := by
  induction v using Value.induct generalizing path w with
  | leaf v leaf => exact leaves v (by simp [Value.leaves_of_leaf leaf]) leaf path w start
  | array items ih =>
    rw [Value.leaves_array] at leaves
    rw [Value.build_array]
    refine marshalled_closeArray
      (marshalledRow_items refl trans start (fun v mem path w start => ?_) path false)
      (fun _ later us => closed later items us) _ _
    exact ih v mem (fun leaf inside => leaves leaf (Value.leaves_subset mem inside)) path start

end

end RuntimeBridge
