/-
# Constructions in step

Construction asks its source and changes the process; it looks at neither for anything else.  So two
constructions whose sources answer alike go the same way, however their sources and processes differ
otherwise, as long as no question and no change of the process brings the difference out.

The difference is a relation on processes (`World.Unseen`) and one on the states of the sources
(`Source.Alike`).  Leaves need less of the sources (`Source.LeavesAlike`): nobody asks for types and
layouts there.

Main statement: `Source.Alike.constructArray`.
-/
import RuntimeBridge.Wire.Construct
namespace RuntimeBridge

variable {σ τ α β : Type} {ρ : World → World → Prop} {κ : τ → σ → Prop}

/-! ## 1. Related runs -/

/-- The same answer, and related states. -/
structure SameAnswer (κ : τ → σ → Prop) (x : α × τ) (y : α × σ) : Prop where
  answer : x.1 = y.1
  states : κ x.2 y.2

theorem SameAnswer.shared {x : α × τ} {y : α × σ} (same : SameAnswer κ x y) :
    ∃ a s s', x = (a, s) ∧ y = (a, s') ∧ κ s s' :=
  ⟨x.1, x.2, y.2, rfl, Prod.ext same.answer.symm rfl, same.states⟩

/-- A relation on processes that construction does not see. -/
structure World.Unseen (ρ : World → World → Prop) : Prop where
  freed : ∀ {w w' : World} c, ρ w w' → ρ (w.freeCell c) (w'.freeCell c)
  offered : ∀ {w w' : World} offer, ρ w w' →
    SameAnswer ρ (Source.recordOf offer w) (Source.recordOf offer w')
  exported : ∀ {w w' : World} (c : Callable), ρ w w' → SameAnswer ρ (c.toRecord w) (c.toRecord w')

/-- The same outcome, the same cells, and related processes and sources. -/
structure Built.Alike (ρ : World → World → Prop) (κ : τ → σ → Prop) (r : Built τ β)
    (r' : Built σ β) : Prop where
  outcome : r.outcome = r'.outcome
  built : r.built = r'.built
  worlds : ρ r.world r'.world
  states : κ r.state r'.state

/-- The same outcome of filling an array at once, the same array, and related processes and sources. -/
structure Filling.Alike (ρ : World → World → Prop) (κ : τ → σ → Prop) (f : Filling τ)
    (f' : Filling σ) : Prop where
  outcome : f.outcome = f'.outcome
  array : f.array = f'.array
  worlds : ρ f.world f'.world
  states : κ f.state f'.state

namespace Source

/-- The sources answer alike where a leaf is asked for. -/
structure LeavesAlike (κ : τ → σ → Prop) (src : Source τ) (src' : Source σ) : Prop where
  scalar : ∀ {s s'} path tag, κ s s' → SameAnswer κ (src.scalar path tag s) (src'.scalar path tag s')
  text : ∀ {s s'} path tag, κ s s' → SameAnswer κ (src.text path tag s) (src'.text path tag s')
  handle : ∀ {s s'} path, κ s s' → SameAnswer κ (src.handle path s) (src'.handle path s')
  callable : ∀ {s s'} path, κ s s' → SameAnswer κ (src.callable path s) (src'.callable path s')

/-- The sources answer alike. -/
structure Alike (ρ : World → World → Prop) (κ : τ → σ → Prop) (src : Source τ) (src' : Source σ) :
    Prop extends LeavesAlike κ src src' where
  typeInfo : ∀ {s s'} path, κ s s' → SameAnswer κ (src.typeInfo path s) (src'.typeInfo path s')
  arrayMetadata : ∀ {s s'} path info, κ s s' →
    SameAnswer κ (src.arrayMetadata path info s) (src'.arrayMetadata path info s')
  fill : ∀ {w w' s s'} path a, ρ w w' → κ s s' →
    (src.fill path a w s).Alike ρ κ (src'.fill path a w' s')

variable {src : Source τ} {src' : Source σ} {w w' : World} {s : τ} {s' : σ}

/-! ## 2. Leaves -/

theorem alike_refuse (worlds : ρ w w') (states : κ s s') (path : IndexPath) (e : BridgeError)
    (cell : Cell) : (refuse path e cell w s).Alike ρ κ (refuse path e cell w' s') :=
  ⟨rfl, rfl, worlds, states⟩

theorem alike_filled (unseen : World.Unseen ρ) (worlds : ρ w w') (states : κ s s') (old new : Cell) :
    (filled (old.replace new w) s).Alike ρ κ (filled (old.replace new w') s') :=
  ⟨rfl, rfl, unseen.freed old worlds, states⟩

/-- **Leaves** are filled alike. -/
theorem LeavesAlike.constructLeaf (unseen : World.Unseen ρ) (alike : LeavesAlike κ src src')
    (worlds : ρ w w') (states : κ s s') (path : IndexPath) (kind : BaseKind) (cell : Cell) :
    (src.constructLeaf path kind cell w s).Alike ρ κ (src'.constructLeaf path kind cell w' s') := by
  cases kind with
  | null => exact alike_filled unseen worlds states cell _
  | any => exact alike_refuse worlds states path _ cell
  | string width =>
    obtain ⟨answer, t, t', asked, asked', states⟩ :=
      (alike.text path (.ofKind (.string width)) states).shared
    simp only [Source.constructLeaf, asked, asked']
    cases answer with
    | error e => exact alike_refuse worlds states path e cell
    | ok text =>
      simp only [Cell.setText?]
      cases holdsNul text with
      | true => exact alike_refuse worlds states path _ cell
      | false => exact alike_filled unseen worlds states cell _
  | handle =>
    obtain ⟨answer, t, t', asked, asked', states⟩ := (alike.handle path states).shared
    simp only [Source.constructLeaf, asked, asked']
    cases answer with
    | error e => exact alike_refuse worlds states path e cell
    | ok offer =>
      obtain ⟨record, v, v', made, made', worlds⟩ := (unseen.offered offer worlds).shared
      simp only [made, made']
      exact alike_filled unseen worlds states cell _
  | callable =>
    obtain ⟨answer, t, t', asked, asked', states⟩ := (alike.callable path states).shared
    simp only [Source.constructLeaf, asked, asked']
    cases answer with
    | error e => exact alike_refuse worlds states path e cell
    | ok callable =>
      obtain ⟨made, v, v', sent, sent', worlds⟩ := (unseen.exported callable worlds).shared
      simp only [sent, sent']
      cases made with
      | error e => exact alike_refuse worlds states path e cell
      | ok record => exact alike_filled unseen worlds states cell _
  | int | float64 | float32 | bool | char =>
    -- all scalars are asked for in one way, by their tag
    simp only [Source.constructLeaf]
    generalize TypeTag.ofKind _ = tag
    obtain ⟨answer, t, t', asked, asked', states⟩ := (alike.scalar path tag states).shared
    simp only [asked, asked']
    cases answer with
    | error e => exact alike_refuse worlds states path e cell
    | ok scalar =>
      simp only
      split
      · exact alike_filled unseen worlds states cell _
      · exact alike_refuse worlds states path _ cell

/-! ## 3. Rows -/

theorem alike_checkElement {r : Built τ Cell} {r' : Built σ Cell} (alike : r.Alike ρ κ r')
    (path : IndexPath) (is1D : Bool) :
    (checkElement path is1D r).Alike ρ κ (checkElement path is1D r') := by
  obtain ⟨outcome, built, w, s⟩ := r
  obtain ⟨outcome', built', w', s'⟩ := r'
  obtain ⟨rfl, rfl, worlds, states⟩ := alike
  cases outcome with
  | error stop => exact ⟨rfl, rfl, worlds, states⟩
  | ok =>
    simp only [Source.checkElement]
    split
    · exact ⟨rfl, rfl, worlds, states⟩
    · exact ⟨rfl, rfl, worlds, states⟩

/-- **Rows** are built alike by steps that are. -/
theorem alike_buildRow {step : Nat → Cell → World → τ → Built τ Cell}
    {step' : Nat → Cell → World → σ → Built σ Cell}
    (steps : ∀ i c w w' s s', ρ w w' → κ s s' → (step i c w s).Alike ρ κ (step' i c w' s'))
    (i : Nat) (cells : List Cell) (worlds : ρ w w') (states : κ s s') :
    (buildRow step i cells w s).Alike ρ κ (buildRow step' i cells w' s') := by
  induction cells generalizing i w w' s s' with
  | nil => exact ⟨rfl, rfl, worlds, states⟩
  | cons c cs ih =>
    have here := steps i c w w' s s' worlds states
    simp only [buildRow, ← here.outcome, ← here.built]
    cases (step i c w s).outcome with
    | error stop => exact ⟨rfl, rfl, here.worlds, here.states⟩
    | ok =>
      have rest := ih (i + 1) here.worlds here.states
      exact ⟨rest.outcome, congrArg _ rest.built, rest.worlds, rest.states⟩

/-! ## 4. Cells -/

theorem Alike.resolveType (alike : Alike ρ κ src src') (states : κ s s') (path : IndexPath)
    (declared : Option TypeInfo) :
    SameAnswer κ (src.resolveType path declared s) (src'.resolveType path declared s') := by
  cases declared with
  | none => exact alike.typeInfo path states
  | some info =>
    simp only [Source.resolveType]
    split
    · exact alike.typeInfo path states
    · exact ⟨rfl, states⟩

theorem Alike.constructManual (alike : Alike ρ κ src src') (worlds : ρ w w') (states : κ s s')
    (path : IndexPath) (layout : ArrayMetadata) (leaf : TypeTag) :
    (src.constructManual path layout leaf w s).Alike ρ κ
      (src'.constructManual path layout leaf w' s') := by
  have filled := alike.fill path { cells := List.replicate layout.length Cell.null } worlds states
  simp only [Source.constructManual, ← filled.outcome, ← filled.array]
  cases (src.fill path _ w s).outcome with
  | error halt => exact ⟨rfl, rfl, filled.worlds, filled.states⟩
  | ok => exact ⟨rfl, rfl, filled.worlds, filled.states⟩

/-- **Cells** are constructed alike. -/
theorem Alike.constructCell (unseen : World.Unseen ρ) (alike : Alike ρ κ src src') (depth : Nat)
    (path : IndexPath) (declared : Option TypeInfo) (cell : Cell) (worlds : ρ w w')
    (states : κ s s') :
    (src.constructCell depth path declared cell w s).Alike ρ κ
      (src'.constructCell depth path declared cell w' s') := by
  induction depth generalizing path declared cell w w' s s' with
  | zero => exact ⟨rfl, rfl, worlds, states⟩
  | succ depth ih =>
    obtain ⟨type, t, t', asked, asked', states⟩ := (alike.resolveType states path declared).shared
    simp only [Source.constructCell, asked, asked']
    cases type with
    | error e => exact alike_refuse worlds states path e cell
    | ok info =>
      simp only
      cases info.isAny with
      | true => exact alike_refuse worlds states path _ cell
      | false =>
        cases info.wireTag.isKnown with
        | false => exact alike_refuse worlds states path _ cell
        | true =>
          cases info.wireTag.isArray with
          | false =>
            cases info.wireTag.kind? with
            | none => exact alike_refuse worlds states path _ cell
            | some kind => exact alike.constructLeaf unseen worlds states path kind cell
          | true =>
            obtain ⟨layout, u, u', asked, asked', states⟩ :=
              (alike.arrayMetadata path { info with tag := info.wireTag } states).shared
            simp only [asked, asked']
            cases layout with
            | error e => exact alike_refuse worlds states path e cell
            | ok layout =>
              have worlds := unseen.freed cell worlds
              cases manual : layout.manual with
              | true =>
                simp only [manual]
                exact alike.constructManual worlds states path layout _
              | false =>
                simp only [manual]
                have row := alike_buildRow
                  (fun i c _ _ _ _ worlds states =>
                    alike_checkElement (ih (path ++ [i]) none c worlds states) (path ++ [i])
                      layout.is1D)
                  0 (List.replicate layout.length Cell.null) worlds states
                simp only [← row.outcome, ← row.built]
                cases (buildRow _ 0 _ (w.freeCell cell) u).outcome with
                | error stop => exact ⟨rfl, rfl, row.worlds, row.states⟩
                | ok => exact ⟨rfl, rfl, row.worlds, row.states⟩

/-- **Arrays** are constructed alike. -/
theorem Alike.constructArray (unseen : World.Unseen ρ) (alike : Alike ρ κ src src') (depth : Nat)
    (a : CellArray) (declared : List TypeInfo) (worlds : ρ w w') (states : κ s s') :
    (src.constructArray depth a declared w s).Alike ρ κ
      (src'.constructArray depth a declared w' s') := by
  have row := alike_buildRow
    (fun i c _ _ _ _ worlds states =>
      alike.constructCell unseen depth [i] declared[i]? c worlds states) 0 a.cells worlds states
  exact ⟨row.outcome, congrArg (fun cells => { a with cells }) row.built, row.worlds, row.states⟩

end Source

end RuntimeBridge
