/-
# Construction does not look at identities

Which object a value is, which handle of another runtime, which call point: none of this decides whether
the value can be built, or what the cell looks like apart from the ids and addresses that are minted for
it.  So values that differ in their identities alone (`Value.nameless`) are built alike, from whatever
states of the process.

A value is compared with what is left of it when all identities are forgotten; two values of which the
same is left are then alike by way of that.

Main statement: `ValueSource.construct_alike`.
-/
import RuntimeBridge.Proofs.Value.Leaves
import RuntimeBridge.Proofs.Wire.Rows
import RuntimeBridge.Proofs.Wire.Identities
namespace RuntimeBridge

/-! ## 1. Values without identities -/

/-- A callable that has forgotten its call point. -/
def Callable.nameless : Callable → Callable
  | native f => .native f
  | foreign c => .foreign { c with point := c.point.anonymous }

namespace Value

/-- A leaf that has forgotten which object, handle or call point it is. -/
def forget : Value → Value
  | object _ => object (.mk 0 (.flag false))
  | foreign h => foreign ⟨0, h.record.anonymous⟩
  | callable c => callable c.nameless
  | v => v

/-- A value all of whose leaves have forgotten which ones they are. -/
def nameless : Value → Value :=
  mapLeaves forget

theorem keepsKinds_forget : KeepsKinds forget := by
  intro v leaf
  cases v with
  | array items => cases leaf
  | _ => exact ⟨rfl, rfl⟩

theorem nameless_array (items : List Value) :
    (array items).nameless = array (items.map nameless) :=
  mapLeaves_array forget items

theorem typeTag_nameless (v : Value) : v.nameless.typeTag = v.typeTag :=
  typeTag_mapLeaves keepsKinds_forget v

theorem items?_nameless (v : Value) : v.nameless.items? = v.items?.map (List.map nameless) :=
  items?_mapLeaves keepsKinds_forget v

theorem mismatch_nameless (path : IndexPath) (tag : TypeTag) (v : Value) :
    ValueSource.mismatch path tag v.nameless = ValueSource.mismatch path tag v := by
  rw [ValueSource.mismatch, ValueSource.mismatch, typeTag_nameless]

end Value

/-! ## 2. Contents without identities -/

def HandleOffer.nameless : HandleOffer → HandleOffer
  | .object _ => .object (.mk 0 (.flag false))
  | .foreign h => .foreign ⟨0, h.record.anonymous⟩
  | .wrapped v => .wrapped v.nameless
  | offer => offer

def LeafContent.nameless : LeafContent → LeafContent
  | .handle offer => .handle offer.nameless
  | .callable c => .callable c.nameless
  | x => x

namespace Value

theorem scalarOf_nameless (path : IndexPath) (kind : BaseKind) (v : Value) :
    ValueSource.scalarOf path kind v.nameless = ValueSource.scalarOf path kind v := by
  cases v with
  | array items =>
    have mismatch := fun tag => mismatch_nameless path tag (array items)
    rw [nameless_array] at mismatch ⊢
    cases kind <;>
      simp [ValueSource.scalarOf, integer?, float?, bool?, char?, scalar?, mismatch]
  | object o | foreign h => cases kind <;> rfl
  | callable c => cases kind <;> rfl
  | _ => rfl

/-- **What a value gives to a cell**, apart from identities. -/
theorem asLeaf_nameless (path : IndexPath) (v : Value) (kind : BaseKind) :
    v.nameless.asLeaf path kind = (v.asLeaf path kind).map LeafContent.nameless := by
  have scalars : ∀ k, (ValueSource.scalarOf path k v.nameless).map LeafContent.scalar =
      ((ValueSource.scalarOf path k v).map LeafContent.scalar).map LeafContent.nameless := by
    intro k
    rw [scalarOf_nameless]
    cases ValueSource.scalarOf path k v <;> rfl
  cases kind with
  | null => rfl
  | any => rfl
  | handle => cases v <;> rfl
  | string width =>
    have text : v.nameless.text? = v.text? := by cases v <;> rfl
    simp only [asLeaf, text, mismatch_nameless]
    cases v.text? <;> rfl
  | callable =>
    have given : v.nameless.callable? = v.callable?.map Callable.nameless := by cases v <;> rfl
    simp only [asLeaf, given, mismatch_nameless]
    cases v.callable? <;> rfl
  | _ => exact scalars _

end Value

theorem HandleRecord.anonymous_anonymous (r : HandleRecord) :
    r.anonymous.anonymous = r.anonymous := by
  unfold anonymous
  by_cases here : r.isLocal = true
  · rw [if_pos here]
    split <;> rfl
  · rw [if_neg here, if_neg here]

theorem CallPoint.anonymous_anonymous (p : CallPoint) : p.anonymous.anonymous = p.anonymous := by
  unfold anonymous
  cases target : p.target <;> simp [target]

/-- The record of a handle depends on its identity by the id alone. -/
theorem recordOf_nameless (offer : HandleOffer) (w w' : World) :
    (Source.recordOf offer.nameless w').1.anonymous = (Source.recordOf offer w).1.anonymous := by
  cases offer with
  | record r => rfl
  | foreign h => exact h.record.anonymous_anonymous
  | object o => rfl
  | wrapped v => rfl

/-- The record of a callable depends on its identity by id and address alone. -/
theorem Callable.toRecord_nameless (c : Callable) (w w' : World) :
    (c.nameless.toRecord w').1.map CallableRecord.anonymous =
      (c.toRecord w).1.map CallableRecord.anonymous := by
  cases c with
  | native f =>
    simp only [nameless, toRecord]
    split <;> rfl
  | foreign c =>
    simp only [nameless, toRecord, Callable.params, Callable.retvals]
    split <;> simp [Except.map, CallableRecord.anonymous, CallPoint.anonymous_anonymous]

/-! ## 3. Leaves -/

/-- The same outcome, and the same in place of the cells but for what is forgotten. -/
structure Built.SameBut {σ τ β γ : Type} (forget : β → γ) (r : Built σ β) (r' : Built τ β) : Prop where
  outcome : r.outcome = r'.outcome
  built : forget r.built = forget r'.built

theorem Built.SameBut.symm {σ τ β γ : Type} {forget : β → γ} {r : Built σ β} {r' : Built τ β}
    (same : r.SameBut forget r') : r'.SameBut forget r :=
  ⟨same.outcome.symm, same.built.symm⟩

theorem Built.SameBut.trans {σ τ υ β γ : Type} {forget : β → γ} {r : Built σ β} {r' : Built τ β}
    {r'' : Built υ β} (first : r.SameBut forget r') (second : r'.SameBut forget r'') :
    r.SameBut forget r'' :=
  ⟨first.outcome.trans second.outcome, first.built.trans second.built⟩

theorem LeafContent.put_nameless (path : IndexPath) (x : LeafContent) (cell : Cell) (w w' : World) :
    (x.put path cell w).SameBut Cell.anonymous (x.nameless.put path cell w') := by
  cases x with
  | null | scalar s => exact ⟨rfl, rfl⟩
  | text width s =>
    simp only [nameless, put, Cell.setText?]
    cases holdsNul s <;> exact ⟨rfl, rfl⟩
  | handle offer =>
    refine ⟨rfl, ?_⟩
    have record := (recordOf_nameless offer w w').symm
    simp only [nameless, put, Source.filled, Cell.setHandle, Cell.replace, Cell.ofHandle,
      Cell.anonymous, Payload.anonymous, record]
  | callable c =>
    have record := c.toRecord_nameless w w'
    simp only [nameless, put]
    generalize c.toRecord w = given at record ⊢
    generalize c.nameless.toRecord w' = given' at record ⊢
    obtain ⟨e | r, after⟩ := given <;> obtain ⟨e' | r', after'⟩ := given'
    · obtain rfl := Except.error.inj record
      exact ⟨rfl, rfl⟩
    · cases record
    · cases record
    · refine ⟨rfl, ?_⟩
      have same : r'.anonymous = r.anonymous := Except.ok.inj record
      simp only [Source.filled, Cell.setCallable, Cell.replace, Cell.ofCallable, Cell.anonymous,
        Payload.anonymous, same]

/-- **Leaves** are filled alike. -/
theorem Value.fill_nameless (path : IndexPath) (v : Value) (kind : BaseKind) (cell : Cell)
    (w w' : World) :
    (v.fill path kind cell w).SameBut Cell.anonymous (v.nameless.fill path kind cell w') := by
  rw [fill, fill, asLeaf_nameless]
  cases v.asLeaf path kind with
  | error e => exact ⟨rfl, rfl⟩
  | ok x => exact x.put_nameless path cell w w'

/-! ## 4. Levels of cells -/

namespace Cell

theorem tag_anonymous (c : Cell) : c.anonymous.tag = c.tag := by
  cases c <;> rfl

theorem array?_anonymous (c : Cell) :
    c.anonymous.array? = c.array?.map fun a => (a.1.map anonymous, a.2) := by
  cases c with
  | plain tag payload owned => rfl
  | array tag items dimensions owned =>
    rw [anonymous, anonymousOf_eq_map, array?, array?]
    split <;> rfl

theorem items?_anonymous (c : Cell) : c.anonymous.items? = c.items?.map (List.map anonymous) := by
  rw [items?, items?, array?_anonymous, Option.map_map, Option.map_map]
  rfl

theorem lengthsDown_anonymous (depth : Nat) (items : List Cell) :
    lengthsDown depth (items.map anonymous) = lengthsDown depth items := by
  induction depth generalizing items with
  | zero => rw [lengthsDown, lengthsDown, List.length_map]
  | succ depth ih =>
    rw [lengthsDown, lengthsDown, List.length_map]
    cases items with
    | nil => rfl
    | cons first rest =>
      simp only [List.map_cons, List.head?_cons, Option.bind_some, items?_anonymous]
      cases first.items? with
      | none => rfl
      | some inner => simp only [Option.map_some, ih]

theorem levels?_anonymous (c : Cell) : c.anonymous.levels? = c.levels? := by
  rw [levels?, levels?, array?_anonymous]
  cases c.array? with
  | none => rfl
  | some a => simp only [Option.map_some, lengthsDown_anonymous]

end Cell

theorem builtDimensions_anonymous (cells : List Cell) :
    builtDimensions (cells.map Cell.anonymous) = builtDimensions cells := by
  rw [builtDimensions, builtDimensions, List.map_map]
  exact congrArg _ (congrArg _ (List.map_congr_left fun c _ => c.levels?_anonymous))

/-! ## 5. Values -/

theorem checkElement_sameBut {r r' : Built Unit Cell} (same : r.SameBut Cell.anonymous r')
    (path : IndexPath) (flat : Bool) :
    (Source.checkElement path flat r).SameBut Cell.anonymous (Source.checkElement path flat r') := by
  have tag : r.built.tag = r'.built.tag := by
    rw [← r.built.tag_anonymous, same.built, r'.built.tag_anonymous]
  unfold Source.checkElement
  rw [← same.outcome, tag]
  cases outcome : r.outcome with
  | error stop => exact same
  | ok =>
    simp only
    split
    · exact ⟨rfl, same.built⟩
    · exact same

theorem closeArray_sameBut {r r' : Built Unit (List Cell)}
    (same : r.SameBut (List.map Cell.anonymous) r') (leaf : BaseKind) {d d' : Int}
    (dimensions : d = d') :
    (closeArray leaf d r).SameBut Cell.anonymous (closeArray leaf d' r') := by
  subst dimensions
  unfold closeArray
  rw [← same.outcome]
  cases r.outcome <;>
    exact ⟨rfl, by rw [Cell.anonymous_ofArray, Cell.anonymous_ofArray, same.built]⟩

namespace Value

variable {declared : Option BaseKind}

theorem buildItems_nameless {items : List Value}
    (each : ∀ v ∈ items, ∀ path w w',
      (v.build declared path w).SameBut Cell.anonymous (v.nameless.build declared path w'))
    (path : IndexPath) (flat : Bool) (i : Nat) (w w' : World) :
    (buildItems declared path flat i items w).SameBut (List.map Cell.anonymous)
      (buildItems declared path flat i (items.map nameless) w') := by
  induction items generalizing i w w' with
  | nil =>
    rw [List.map_nil, buildItems, buildItems]
    exact ⟨rfl, rfl⟩
  | cons v vs ih =>
    have here := checkElement_sameBut (each v List.mem_cons_self (path ++ [i]) w w') (path ++ [i]) flat
    have rest := ih (fun u mem => each u (List.mem_cons_of_mem _ mem)) (i + 1)
      (Source.checkElement (path ++ [i]) flat (v.build declared (path ++ [i]) w)).world
      (Source.checkElement (path ++ [i]) flat (v.nameless.build declared (path ++ [i]) w')).world
    rw [List.map_cons, buildItems_cons, buildItems_cons]
    simp only [← here.outcome]
    cases (Source.checkElement (path ++ [i]) flat (v.build declared (path ++ [i]) w)).outcome with
    | error stop =>
      exact ⟨rfl, by simp only [List.map_cons, here.built, List.length_map]⟩
    | ok => exact ⟨rest.outcome, by simp only [List.map_cons, here.built, rest.built]⟩

/-- **Below the top level** values are built alike. -/
theorem build_nameless (v : Value) (path : IndexPath) (w w' : World) :
    (v.build declared path w).SameBut Cell.anonymous (v.nameless.build declared path w') := by
  induction v using induct generalizing path w w' with
  | leaf v leaf =>
    have still : v.nameless.items? = none := by rw [items?_nameless, leaf, Option.map_none]
    have kind : v.nameless.leafKind = v.leafKind := leafKind_mapLeaves keepsKinds_forget v
    rw [build_leaf leaf, build_leaf still, kind]
    exact v.fill_nameless path _ .null w w'
  | array items ih =>
    rw [nameless_array, build_array, build_array]
    have shared : sharedKind (items.map nameless) = sharedKind items :=
      sharedKind_mapLeaves keepsKinds_forget items
    rw [shared]
    exact closeArray_sameBut (buildItems_nameless ih path false 0 w w') _
      (dimensions_mapLeaves keepsKinds_forget items).symm

theorem is1D_nameless (info : TypeInfo) (items : List Value) :
    ValueSource.is1D info (items.map nameless) = ValueSource.is1D info items := by
  have flat : (items.map nameless).all (fun v => v.items?.isNone) =
      items.all fun v => v.items?.isNone := by
    rw [List.all_map]
    refine congrArg (items.all ·) (funext fun v => ?_)
    rw [Function.comp, items?_nameless, Option.isNone_map]
  rw [ValueSource.is1D, ValueSource.is1D, flat]

/-- **At the top level** they are, too. -/
theorem buildTop_nameless (v : Value) (i : Nat) (declared : Option TypeInfo) (cell : Cell)
    (w w' : World) :
    (v.buildTop i declared cell w).SameBut Cell.anonymous
      (v.nameless.buildTop i declared cell w') := by
  have type : v.nameless.topType declared = v.topType declared :=
    topType_mapLeaves keepsKinds_forget v declared
  rw [buildTop, buildTop, type]
  cases (v.topType declared).wireTag.isKnown with
  | false => exact ⟨rfl, rfl⟩
  | true =>
    simp only [Bool.not_true, Bool.false_eq_true, if_false]
    cases (v.topType declared).wireTag.isArray with
    | false =>
      simp only [Bool.false_eq_true, if_false]
      cases (v.topType declared).wireTag.kind? with
      | none => exact ⟨rfl, rfl⟩
      | some kind => exact v.fill_nameless [i] kind cell w w'
    | true =>
      simp only [if_true, items?_nameless, mismatch_nameless]
      cases v.items? with
      | none => exact ⟨rfl, rfl⟩
      | some items =>
        have each : ∀ v ∈ items, ∀ path w w', (v.build (declaredLeaf? declared) path w).SameBut
            Cell.anonymous (v.nameless.build (declaredLeaf? declared) path w') :=
          fun v _ => build_nameless v
        have row := buildItems_nameless each [i] (ValueSource.is1D (v.topType declared) items) 0
          (w.freeCell cell) (w'.freeCell cell)
        have leaf : topLeaf declared (items.map nameless) = topLeaf declared items := by
          rw [topLeaf, topLeaf, nameless, sharedKind_mapLeaves keepsKinds_forget]
        simp only [Option.map_some, is1D_nameless, leaf]
        refine closeArray_sameBut row _ ?_
        rw [← builtDimensions_anonymous, row.built, builtDimensions_anonymous]

end Value

/-! ## 6. Sources -/

/-- Rows are built alike by steps that are, from whatever states. -/
theorem buildRow_sameBut {step step' : Nat → Cell → World → Unit → Built Unit Cell}
    (steps : ∀ i c w w', (step i c w ()).SameBut Cell.anonymous (step' i c w' ())) (i : Nat)
    (cells : List Cell) (w w' : World) :
    (buildRow step i cells w ()).SameBut (List.map Cell.anonymous) (buildRow step' i cells w' ()) := by
  induction cells generalizing i w w' with
  | nil => exact ⟨rfl, rfl⟩
  | cons c cs ih =>
    have here := steps i c w w'
    simp only [buildRow, ← here.outcome]
    cases (step i c w ()).outcome with
    | error stop => exact ⟨rfl, by simp only [List.map_cons, here.built]⟩
    | ok =>
      have rest := ih (i + 1) (step i c w ()).world (step' i c w' ()).world
      exact ⟨rest.outcome, by simp only [List.map_cons, here.built, rest.built]⟩

/-- An array of cells without what was minted for them. -/
def CellArray.anonymous (a : CellArray) : CellArray :=
  { a with cells := a.cells.map Cell.anonymous }

namespace ValueSource

/-- The source with its identities forgotten. -/
def nameless (src : ValueSource) : ValueSource :=
  ⟨src.values.map Value.nameless, src.declared⟩

theorem stepAt_nameless {src : ValueSource} (declared : src.declared.length ≤ src.values.length)
    (i : Nat) (c : Cell) (w w' : World) :
    (src.stepAt i c w ()).SameBut Cell.anonymous (src.nameless.stepAt i c w' ()) := by
  have mapped : src.nameless.values[i]? = src.values[i]?.map Value.nameless := List.getElem?_map ..
  have declared' : src.nameless.declared.length ≤ src.nameless.values.length :=
    Nat.le_trans declared (Nat.le_of_eq (List.length_map _).symm)
  rcases stepAt_cases declared i with ⟨v, found, step⟩ | ⟨nowhere, step⟩
  · rw [found, Option.map_some] at mapped
    rw [step, stepAt_eq mapped]
    exact v.buildTop_nameless i src.declared[i]? c w w'
  · rcases stepAt_cases declared' i with ⟨v, found, -⟩ | ⟨-, step'⟩
    · rw [found, nowhere] at mapped
      cases mapped
    · rw [step, step']
      exact ⟨rfl, rfl⟩

/-- **Values that differ in their identities are constructed alike**, from whatever states: with the same
outcome, and in the same cells but for what is minted. -/
theorem construct_alike {src src' : ValueSource} (same : src.nameless = src'.nameless)
    (declared : src.declared.length ≤ src.values.length) (a : CellArray) (w w' : World) :
    (src.construct a w).1 = (src'.construct a w').1 ∧
      (src.construct a w).2.1.anonymous = (src'.construct a w').2.1.anonymous := by
  have declared' : src'.declared.length ≤ src'.values.length := by
    obtain ⟨values, types⟩ := ValueSource.mk.inj same
    have values : src.values.length = src'.values.length := by
      simpa using congrArg List.length values
    rwa [types, values] at declared
  have first := buildRow_sameBut (stepAt_nameless declared) 0 a.cells w w
  have second := buildRow_sameBut (stepAt_nameless declared') 0 a.cells w' w
  rw [← same] at second
  have both := first.trans second.symm
  rw [construct_eq, construct_eq]
  exact ⟨both.outcome, congrArg (fun cells => { a with cells }) both.built⟩

end ValueSource

end RuntimeBridge
