/-
# States that differ in their pins

How many round trips are under way is nobody's business but that of a function that asks.  Allocating,
constructing, decoding and freeing give the same in states that are the same but for the pins, and leave
such states.

Main statements: `World.construct_sameButPins` and `World.pinBlind_decode`.
-/
import RuntimeBridge.Proofs.World.Freeing
import RuntimeBridge.Proofs.Wire.Lockstep
import RuntimeBridge.Proofs.Wire.Decoding
import RuntimeBridge.Wire.FromValues
namespace RuntimeBridge.World

variable {α β : Type} {w w' : World}

/-! ## 1. The relation -/

/-- The states are the same but for the pins. -/
def SameButPins (w w' : World) : Prop :=
  ∃ pins, w' = { w with pinDepth := pins }

theorem sameButPins_pin (w : World) : w.SameButPins w.pin :=
  ⟨w.pinDepth + 1, rfl⟩

theorem SameButPins.pin (same : w.SameButPins w') : w.pin.SameButPins w'.pin := by
  obtain ⟨pins, rfl⟩ := same
  exact ⟨pins + 1, rfl⟩

theorem SameButPins.unpin (same : w.SameButPins w') : w.unpin.SameButPins w'.unpin := by
  obtain ⟨pins, rfl⟩ := same
  exact ⟨pins - 1, rfl⟩

theorem SameButPins.recordCall (same : w.SameButPins w') (failed : Bool) :
    (w.recordCall failed).SameButPins (w'.recordCall failed) := by
  obtain ⟨pins, rfl⟩ := same
  exact ⟨pins, rfl⟩

theorem SameButPins.recordRun (same : w.SameButPins w') (identity : Nat) :
    (w.recordRun identity).SameButPins (w'.recordRun identity) := by
  obtain ⟨pins, rfl⟩ := same
  exact ⟨pins, rfl⟩

/-- What is done gives the same whatever the pins are, and leaves states that differ in them only. -/
def PinBlind (f : World → α × World) : Prop :=
  ∀ ⦃w w'⦄, w.SameButPins w' → SameAnswer SameButPins (f w) (f w')

/-! ## 2. Cells -/

theorem SameButPins.freeCell (same : w.SameButPins w') (c : Cell) :
    (w.freeCell c).SameButPins (w'.freeCell c) := by
  unfold World.freeCell
  induction c.ownedRecords generalizing w w' with
  | nil => exact same
  | cons r rs ih =>
    obtain ⟨pins, rfl⟩ := same
    refine ih ?_
    simp only [releaseRecord_eq]
    exact ⟨pins, rfl⟩

theorem SameButPins.freeCells (same : w.SameButPins w') (cs : List Cell) :
    (w.freeCells cs).SameButPins (w'.freeCells cs) := by
  induction cs generalizing w w' with
  | nil => exact same
  | cons c cs ih => exact ih (same.freeCell c)

theorem unseen_sameButPins : Unseen SameButPins where
  freed c same := same.freeCell c
  offered offer := by
    rintro ⟨pins, rfl⟩
    cases offer with
    | record r => exact ⟨rfl, pins, rfl⟩
    | foreign h => exact ⟨rfl, pins, rfl⟩
    | object o => exact ⟨rfl, pins, rfl⟩
    | wrapped v => exact ⟨rfl, pins, rfl⟩
  exported c := by
    rintro ⟨pins, rfl⟩
    simp only [Callable.toRecord]
    split
    · exact ⟨rfl, pins, rfl⟩
    · exact ⟨rfl, pins, rfl⟩
    · cases c with
      | native f => exact ⟨rfl, pins, rfl⟩
      | foreign c => exact ⟨rfl, pins, rfl⟩

/-! ## 3. Buffers -/

theorem pinBlind_init (length : Nat) (dimensions : Int) (preferCache : Bool) :
    PinBlind (CellArray.init length dimensions preferCache) := by
  rintro w _ ⟨pins, rfl⟩
  simp only [CellArray.init]
  split
  · exact ⟨rfl, pins, rfl⟩
  · exact ⟨rfl, pins, rfl⟩

theorem pinBlind_alloc (params retvals : Nat) : PinBlind (CallBuffer.alloc params retvals) := by
  intro w w' same
  obtain ⟨p, v, v', made, made', same⟩ := (pinBlind_init params 1 true same).shared
  obtain ⟨r, u, u', there, there', same⟩ := (pinBlind_init retvals 1 true same).shared
  simp only [CallBuffer.alloc, made, made', there, there']
  exact ⟨rfl, same⟩

theorem SameButPins.freeArray (same : w.SameButPins w') (a : CellArray) :
    (a.freeCells w).2.SameButPins (a.freeCells w').2 := by
  obtain ⟨pins, freed⟩ := same.freeCells a.cells
  simp only [CellArray.freeCells, freed]
  cases a.block with
  | none => exact ⟨pins, rfl⟩
  | some block => exact ⟨pins, rfl⟩

theorem SameButPins.freeBuffer (same : w.SameButPins w') (b : CallBuffer) :
    (b.free w).SameButPins (b.free w') :=
  (same.freeArray b.retvals).freeArray b.params

/-! ## 4. Values -/

/-- A source of values has no state that could differ. -/
theorem alike_source (src : ValueSource) : src.source.Alike SameButPins Eq src.source where
  scalar _ _ := by rintro rfl; exact ⟨rfl, rfl⟩
  text _ _ := by rintro rfl; exact ⟨rfl, rfl⟩
  handle _ := by rintro rfl; exact ⟨rfl, rfl⟩
  callable _ := by rintro rfl; exact ⟨rfl, rfl⟩
  typeInfo _ := by rintro rfl; exact ⟨rfl, rfl⟩
  arrayMetadata _ _ := by rintro rfl; exact ⟨rfl, rfl⟩
  fill _ _ same := by rintro rfl; exact ⟨rfl, rfl, same, rfl⟩

/-- **Construction** from values does not see the pins. -/
theorem construct_sameButPins (src : ValueSource) (a : CellArray) (same : w.SameButPins w') :
    ∃ outcome built later later', src.construct a w = (outcome, built, later) ∧
      src.construct a w' = (outcome, built, later') ∧ later.SameButPins later' := by
  have alike := (alike_source src).constructArray unseen_sameButPins src.depth a src.declared same
    (Eq.refl ())
  refine ⟨_, _, _, _, rfl, ?_, alike.worlds⟩
  simp only [ValueSource.construct, alike.outcome, alike.built]

section Traversal

variable {τ : Type} (w : World) (pins : Nat) (sink : Sink τ)

theorem traverseRow_pins {cells : List Cell}
    (each : ∀ c ∈ cells, ∀ path t,
      sink.traverseCell { w with pinDepth := pins } c path t = sink.traverseCell w c path t)
    (path : IndexPath) (i : Nat) (t : τ) :
    sink.traverseRow { w with pinDepth := pins } cells path i t =
      sink.traverseRow w cells path i t := by
  induction cells generalizing i t with
  | nil => rfl
  | cons c cs ih =>
    obtain ⟨here, rest⟩ := List.forall_mem_cons.mp each
    simp only [Sink.traverseRow, here, ih rest]

/-- Traversal reads the objects and the number of samples. -/
theorem traverseCell_pins (c : Cell) (path : IndexPath) (t : τ) :
    sink.traverseCell { w with pinDepth := pins } c path t = sink.traverseCell w c path t := by
  induction c using Cell.induct generalizing path t with
  | plain tag payload owned => rfl
  | array tag items dimensions owned ih =>
    simp only [Sink.traverseCell, traverseRow_pins w pins sink ih]
    rfl

end Traversal

/-- **Decoding** does not see the pins. -/
theorem pinBlind_decode (cells : List Cell) (slots : Nat) :
    PinBlind fun w => w.decode cells slots := by
  rintro w _ ⟨pins, rfl⟩
  simp only [World.decode, Sink.traverseCells,
    traverseRow_pins w pins _ fun c _ => traverseCell_pins w pins _ c]
  split
  · exact ⟨rfl, pins, rfl⟩
  · exact ⟨rfl, pins, rfl⟩

end RuntimeBridge.World
