/-
# Rows that stop

A row of cells is built from left to right, and the first step that fails ends it.  What stands in the
row then falls apart in three: the cells in front are those that the row up to there would have left by
itself, the cell where it stopped is what the failing step left, and the cells behind are as they were.

Constructing values in an array of cells is such a row, with one step for each cell.

Main statements: `buildRow_stop` for a row that stops, `buildRow_step` for one that goes through.
-/
import RuntimeBridge.Proofs.Wire.Form
namespace RuntimeBridge

/-! ## 1. Rows of steps -/

section Steps

variable {σ : Type} {step : Nat → Cell → World → σ → Built σ Cell}

/-- Steps that agree on the cells of a row build the same row. -/
theorem buildRow_congr {step' : Nat → Cell → World → σ → Built σ Cell} {i : Nat} {cells : List Cell}
    (agree : ∀ j c w s, j < cells.length → step (i + j) c w s = step' (i + j) c w s) (w : World)
    (s : σ) : buildRow step i cells w s = buildRow step' i cells w s := by
  induction cells generalizing i w s with
  | nil => rfl
  | cons c cs ih =>
    have here := agree 0 c w s (by simp)
    rw [Nat.add_zero] at here
    have later : ∀ j c w s, j < cs.length → step (i + 1 + j) c w s = step' (i + 1 + j) c w s := by
      intro j c w s inside
      have index : i + 1 + j = i + (j + 1) := by omega
      rw [index]
      exact agree (j + 1) c w s (by simpa using inside)
    simp only [buildRow, here]
    cases (step' i c w s).outcome with
    | error stop => rfl
    | ok => simp only [ih later]

/-- **Where a row stopped.**  Up to some cell the row goes through; there the step fails, in the state
that the cells in front left; and the cells behind are untouched. -/
theorem buildRow_stop {i : Nat} {cells : List Cell} {w : World} {s : σ} {stop : Stop}
    (stopped : (buildRow step i cells w s).outcome = .error stop) :
    ∃ k old, cells[k]? = some old ∧
      let front := buildRow step i (cells.take k) w s
      let here := step (i + k) old front.world front.state
      front.outcome = .ok () ∧ here.outcome = .error stop ∧
        buildRow step i cells w s =
          ⟨.error stop, front.built ++ here.built :: cells.drop (k + 1), here.world, here.state⟩ := by
  induction cells generalizing i w s with
  | nil => simp [buildRow] at stopped
  | cons c cs ih =>
    cases here : (step i c w s).outcome with
    | error e =>
      simp only [buildRow, here] at stopped ⊢
      obtain rfl := Except.error.inj stopped
      exact ⟨0, c, rfl, rfl, by simpa [buildRow] using here, by simp [buildRow]⟩
    | ok =>
      simp only [buildRow, here] at stopped
      obtain ⟨k, old, found, front, failed, whole⟩ := ih stopped
      have index : i + (k + 1) = i + 1 + k := by omega
      refine ⟨k + 1, old, by simpa using found, ?_⟩
      simp only [List.take_succ_cons, buildRow, here, index]
      refine ⟨front, failed, ?_⟩
      rw [whole]
      simp

/-- **Every cell of a row that went through** is what its step made of the cell that was there. -/
theorem buildRow_step {i : Nat} {cells : List Cell} {w : World} {s : σ}
    (ok : (buildRow step i cells w s).outcome = .ok ()) :
    (buildRow step i cells w s).built.length = cells.length ∧
      ∀ (j : Nat) old, cells[j]? = some old →
        ∃ w' s', (step (i + j) old w' s').outcome = .ok () ∧
          (buildRow step i cells w s).built[j]? = some (step (i + j) old w' s').built := by
  induction cells generalizing i w s with
  | nil => simp [buildRow]
  | cons c cs ih =>
    simp only [buildRow] at ok ⊢
    cases here : (step i c w s).outcome with
    | error stop => simp [here] at ok
    | ok =>
      simp only [here] at ok ⊢
      obtain ⟨length, each⟩ := ih ok
      refine ⟨by simpa using length, fun j old found => ?_⟩
      cases j with
      | zero =>
        obtain rfl : c = old := by simpa using found
        exact ⟨w, s, here, rfl⟩
      | succ j =>
        have index : i + (j + 1) = i + 1 + j := by omega
        rw [index]
        exact each j old (by simpa using found)

end Steps

/-! ## 2. The row of a source -/

namespace ValueSource

variable {src : ValueSource}

/-- What fills the cell at a top-level position. -/
def stepAt (src : ValueSource) (i : Nat) (c : Cell) (w : World) (s : Unit) : Built Unit Cell :=
  src.source.constructCell src.depth [i] src.declared[i]? c w s

theorem construct_eq (src : ValueSource) (a : CellArray) (w : World) :
    src.construct a w =
      let row := buildRow src.stepAt 0 a.cells w ()
      (row.outcome, { a with cells := row.built }, row.world) := rfl

theorem stepAt_eq {i : Nat} {v : Value} (found : src.values[i]? = some v) (c : Cell) (w : World)
    (s : Unit) : src.stepAt i c w s = v.buildTop i src.declared[i]? c w :=
  constructCell_eq_buildTop ((src.valueAt?_single i).trans found)
    (depth_lt (List.mem_of_getElem? found)) c w

/-- A position without a value and without a declared type is refused, and nothing changes. -/
theorem stepAt_missing {src : ValueSource} {i : Nat} (nowhere : src.values[i]? = none)
    (undeclared : src.declared[i]? = none) (c : Cell) (w : World) (s : Unit) :
    src.stepAt i c w s = Source.refuse [i] (missing [i]) c w () := by
  have asked : src.valueAt? [i] = none := (src.valueAt?_single i).trans nowhere
  simp [stepAt, depth, Source.constructCell, Source.resolveType, undeclared, source, typeInfo,
    withValue_missing asked]

/-- With no more types than values, a position has a value or is refused. -/
theorem stepAt_cases (declared : src.declared.length ≤ src.values.length) (i : Nat) :
    (∃ v, src.values[i]? = some v ∧
      ∀ c w s, src.stepAt i c w s = v.buildTop i src.declared[i]? c w) ∨
      src.values[i]? = none ∧ ∀ c w s, src.stepAt i c w s = Source.refuse [i] (missing [i]) c w () := by
  cases found : src.values[i]? with
  | some v => exact .inl ⟨v, rfl, stepAt_eq found⟩
  | none =>
    have undeclared : src.declared[i]? = none :=
      List.getElem?_eq_none (Nat.le_trans declared (List.getElem?_eq_none_iff.mp found))
    exact .inr ⟨rfl, stepAt_missing found undeclared⟩

/-- A front part of the array is filled as it would be by itself. -/
theorem front_alone {k : Nat} {cells : List Cell} (length : cells.length = k)
    (inside : k ≤ src.values.length) (a : CellArray) (w : World) :
    ValueSource.construct ⟨src.values.take k, src.declared.take k⟩ { a with cells } w =
      let row := buildRow src.stepAt 0 cells w ()
      (row.outcome, { a with cells := row.built }, row.world) := by
  let front : ValueSource := ⟨src.values.take k, src.declared.take k⟩
  have same : ∀ w, buildRow front.stepAt 0 cells w () = buildRow src.stepAt 0 cells w () := by
    intro w
    refine buildRow_congr (fun j c w s before => ?_) w ()
    rw [length] at before
    have value := List.getElem?_eq_getElem (show j < src.values.length by omega)
    have alone : front.values[j]? = some src.values[j] := by
      rw [← value]
      exact List.getElem?_take_of_lt before
    have declared : front.declared[j]? = src.declared[j]? := List.getElem?_take_of_lt before
    rw [Nat.zero_add, stepAt_eq alone, stepAt_eq value, declared]
  rw [construct_eq, ← same w]

end ValueSource

end RuntimeBridge
