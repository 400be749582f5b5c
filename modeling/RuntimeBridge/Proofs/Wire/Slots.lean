/-
# Slots that values are written to

Values are put together by writing each of them where its path leads.  What matters of this is how
writes compose: of two writes at one path the second one counts, and writing an element is writing the
array with that element.

Main definition: `fillSlots?`, the slots after a write, as `ValueBuilder.put` leaves them
(`put_of_fillSlots?`).
-/
import RuntimeBridge.Wire.ToValues
import RuntimeBridge.Proofs.Wire.Structure
namespace RuntimeBridge.ValueBuilder

/-! ## 1. Places in a value -/

/-- A value is found again where it was written. -/
theorem descend?_of_replaceAt? {new v v' : Value} {path : List Nat}
    (written : replaceAt? new path v = some v') : ValueSource.descend? v' path = some new := by
  induction path generalizing v v' with
  | nil =>
    rw [← Option.some.inj written]
    rfl
  | cons i rest ih =>
    cases v with
    | array items =>
      simp only [replaceAt?, Option.bind_eq_some_iff, Option.map_eq_some_iff] at written
      obtain ⟨item, found, item', deeper, rfl⟩ := written
      have inside := (List.getElem?_eq_some_iff.mp found).1
      simp only [ValueSource.descend?, Value.items?, Option.bind_some,
        List.getElem?_set_self inside]
      exact ih deeper
    | _ => simp [replaceAt?] at written

/-- Where a path leads to a value, another one can be written. -/
theorem replaceAt?_isSome (new : Value) {v u : Value} {path : List Nat}
    (found : ValueSource.descend? v path = some u) : (replaceAt? new path v).isSome := by
  induction path generalizing v with
  | nil => rfl
  | cons i rest ih =>
    cases v with
    | array items =>
      simp only [ValueSource.descend?, Value.items?, Option.bind_some, Option.bind_eq_some_iff]
        at found
      obtain ⟨item, atIndex, deeper⟩ := found
      simpa [replaceAt?, atIndex] using ih deeper
    | _ => simp [ValueSource.descend?, Value.items?] at found

/-- Of two writes at one place the second one counts. -/
theorem replaceAt?_replaceAt? {x y v v' : Value} {path : List Nat}
    (written : replaceAt? x path v = some v') : replaceAt? y path v' = replaceAt? y path v := by
  induction path generalizing v v' with
  | nil => rfl
  | cons i rest ih =>
    cases v with
    | array items =>
      simp only [replaceAt?, Option.bind_eq_some_iff, Option.map_eq_some_iff] at written
      obtain ⟨item, found, item', deeper, rfl⟩ := written
      have inside := (List.getElem?_eq_some_iff.mp found).1
      simp only [replaceAt?, List.getElem?_set_self inside, found, Option.bind_some, ih deeper]
      simp [List.set_set]
    | _ => simp [replaceAt?] at written

/-- Writing an element is writing the array with that element. -/
theorem replaceAt?_append {x v : Value} {path : List Nat} {items : List Value} {i : Nat}
    (found : ValueSource.descend? v path = some (.array items)) (inside : i < items.length) :
    replaceAt? x (path ++ [i]) v = replaceAt? (.array (items.set i x)) path v := by
  induction path generalizing v with
  | nil =>
    obtain rfl := Option.some.inj found
    simp [replaceAt?, List.getElem?_eq_getElem inside]
  | cons j rest ih =>
    cases v with
    | array outer =>
      simp only [ValueSource.descend?, Value.items?, Option.bind_some, Option.bind_eq_some_iff]
        at found
      obtain ⟨item, atIndex, deeper⟩ := found
      simp only [List.cons_append, replaceAt?, atIndex, Option.bind_some, ih deeper]
    | _ => simp [ValueSource.descend?, Value.items?] at found

/-- Writing what is there changes nothing. -/
theorem replaceAt?_self {v u : Value} {path : List Nat}
    (found : ValueSource.descend? v path = some u) : replaceAt? u path v = some v := by
  induction path generalizing v with
  | nil => exact found.symm
  | cons i rest ih =>
    cases v with
    | array items =>
      simp only [ValueSource.descend?, Value.items?, Option.bind_some, Option.bind_eq_some_iff]
        at found
      obtain ⟨item, atIndex, deeper⟩ := found
      obtain ⟨inside, rfl⟩ := List.getElem?_eq_some_iff.mp atIndex
      simp [replaceAt?, atIndex, ih deeper]
    | _ => simp [ValueSource.descend?, Value.items?] at found

/-! ## 2. Slots -/

/-- The slots after a value was written at a path, unless that leads nowhere. -/
def fillSlots? (slots : List Value) (path : IndexPath) (new : Value) : Option (List Value) :=
  let first := path.head?.getD 0
  let slots := widen slots (first + 1)
  (slots[first]?.bind (replaceAt? new path.tail)).map fun v => slots.set first v

theorem fillSlots?_cons_iff {slots slots' : List Value} {first : Nat} {rest : List Nat}
    {new : Value} :
    fillSlots? slots (first :: rest) new = some slots' ↔
      ∃ u v, (widen slots (first + 1))[first]? = some u ∧ replaceAt? new rest u = some v ∧
        (widen slots (first + 1)).set first v = slots' := by
  simp only [fillSlots?, List.head?_cons, Option.getD_some, List.tail_cons,
    Option.map_eq_some_iff, Option.bind_eq_some_iff]
  constructor
  · rintro ⟨v, ⟨u, atFirst, replaced⟩, same⟩
    exact ⟨u, v, atFirst, replaced, same⟩
  · rintro ⟨u, v, atFirst, replaced, same⟩
    exact ⟨v, ⟨u, atFirst, replaced⟩, same⟩

/-- A write that is possible is made. -/
theorem put_of_fillSlots? {b : ValueBuilder} {path : IndexPath} {new : Value} {slots : List Value}
    (written : fillSlots? b.slots path new = some slots) :
    b.put path new = (.ok (), { b with slots }) := by
  unfold fillSlots? at written
  obtain ⟨v, found, rfl⟩ := Option.map_eq_some_iff.mp written
  simp only [put, found]

theorem widen_eq_self {slots : List Value} {count : Nat} (h : count ≤ slots.length) :
    widen slots count = slots := by
  rw [widen, Nat.sub_eq_zero_of_le h, List.replicate_zero, List.append_nil]

/-- The path leads to a value in the slots. -/
def SlotAt (slots : List Value) (path : IndexPath) (v : Value) : Prop :=
  path ≠ [] ∧ (⟨slots, []⟩ : ValueSource).valueAt? path = some v

theorem slotAt_cons {slots : List Value} {first : Nat} {rest : List Nat} {v : Value} :
    SlotAt slots (first :: rest) v ↔
      ∃ u, slots[first]? = some u ∧ ValueSource.descend? u rest = some v := by
  simp [SlotAt, ValueSource.valueAt?, Option.bind_eq_some_iff]

theorem fillSlots?_cons {slots : List Value} {first : Nat} {rest : List Nat} {u : Value}
    (found : slots[first]? = some u) (new : Value) :
    fillSlots? slots (first :: rest) new =
      (replaceAt? new rest u).map fun v => slots.set first v := by
  have inside := (List.getElem?_eq_some_iff.mp found).1
  simp [fillSlots?, widen_eq_self inside, found]

/-- What was written is found at its path. -/
theorem slotAt_of_fillSlots? {slots slots' : List Value} {path : IndexPath} {new : Value}
    (inside : path ≠ []) (written : fillSlots? slots path new = some slots') :
    SlotAt slots' path new := by
  cases path with
  | nil => exact absurd rfl inside
  | cons first rest =>
    obtain ⟨u, v, atFirst, replaced, rfl⟩ := fillSlots?_cons_iff.mp written
    have there := (List.getElem?_eq_some_iff.mp atFirst).1
    exact slotAt_cons.mpr ⟨v, List.getElem?_set_self there, descend?_of_replaceAt? replaced⟩

/-- Where a path leads to a value, another one can be written. -/
theorem fillSlots?_of_slotAt {slots : List Value} {path : IndexPath} {v : Value}
    (there : SlotAt slots path v) (new : Value) : ∃ slots', fillSlots? slots path new = some slots' := by
  cases path with
  | nil => exact absurd rfl there.1
  | cons first rest =>
    obtain ⟨u, atFirst, leads⟩ := slotAt_cons.mp there
    obtain ⟨u', replaced⟩ := Option.isSome_iff_exists.mp (replaceAt?_isSome new leads)
    exact ⟨_, by rw [fillSlots?_cons atFirst, replaced]; rfl⟩

/-- Writing what is there changes nothing. -/
theorem fillSlots?_self {slots : List Value} {path : IndexPath} {v : Value}
    (there : SlotAt slots path v) : fillSlots? slots path v = some slots := by
  cases path with
  | nil => exact absurd rfl there.1
  | cons first rest =>
    obtain ⟨u, atFirst, leads⟩ := slotAt_cons.mp there
    obtain ⟨inside, rfl⟩ := List.getElem?_eq_some_iff.mp atFirst
    rw [fillSlots?_cons atFirst, replaceAt?_self leads, Option.map_some, List.set_getElem_self]

/-- At the top level there is always room. -/
theorem fillSlots?_top (slots : List Value) (i : Nat) (new : Value) :
    fillSlots? slots [i] new = some ((widen slots (i + 1)).set i new) := by
  have inside : i < (widen slots (i + 1)).length := by
    simp only [widen, List.length_append, List.length_replicate]
    omega
  simp [fillSlots?, replaceAt?, List.getElem?_eq_getElem inside]

/-- Of two writes at one path the second one counts. -/
theorem fillSlots?_fillSlots? {slots slots' : List Value} {path : IndexPath} {x : Value}
    (inside : path ≠ []) (written : fillSlots? slots path x = some slots') (y : Value) :
    fillSlots? slots' path y = fillSlots? slots path y := by
  cases path with
  | nil => exact absurd rfl inside
  | cons first rest =>
    obtain ⟨u, v, atFirst, replaced, rfl⟩ := fillSlots?_cons_iff.mp written
    have there := (List.getElem?_eq_some_iff.mp atFirst).1
    rw [fillSlots?_cons (List.getElem?_set_self there), replaceAt?_replaceAt? replaced]
    simp only [fillSlots?, List.head?_cons, Option.getD_some, List.tail_cons, atFirst,
      Option.bind_some, List.set_set]

/-- Writing an element is writing the array with that element. -/
theorem fillSlots?_append {slots : List Value} {path : IndexPath} {items : List Value} {i : Nat}
    (there : SlotAt slots path (.array items)) (inside : i < items.length) (x : Value) :
    fillSlots? slots (path ++ [i]) x = fillSlots? slots path (.array (items.set i x)) := by
  cases path with
  | nil => exact absurd rfl there.1
  | cons first rest =>
    obtain ⟨u, atFirst, leads⟩ := slotAt_cons.mp there
    rw [List.cons_append, fillSlots?_cons atFirst, fillSlots?_cons atFirst,
      replaceAt?_append leads inside]

end RuntimeBridge.ValueBuilder
