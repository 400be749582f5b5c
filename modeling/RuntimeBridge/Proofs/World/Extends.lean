/-
# What ids stand for later

The objects table gives each id once.  While values are constructed, ids that were given keep what
they stand for and more are given (`World.Extends`); once cells are freed, some stand for nothing
any more (`World.Follows`).  Either way no id comes to stand for something else, so a call point
that led to no function of this runtime never leads to one (`Follows.functionAt?_eq_none`), and one
that was freed leads to none from then on (`functionAt?_releaseRecords`).
-/
import RuntimeBridge.Proofs.World.Registered
import RuntimeBridge.Proofs.World.Freeing
namespace RuntimeBridge.World

/-! ## 1. Two orders -/

/-- Ids that were given stand for the same as before. -/
structure Extends (w later : World) : Prop where
  grows : w.objects.nextId ≤ later.objects.nextId
  same : ∀ id < w.objects.nextId, later.objects.resolve? id = w.objects.resolve? id

/-- Ids that were given stand for the same as before, or for nothing. -/
structure Follows (w later : World) : Prop where
  grows : w.objects.nextId ≤ later.objects.nextId
  same : ∀ id < w.objects.nextId, ∀ o, later.objects.resolve? id = some o →
    w.objects.resolve? id = some o

variable {w later : World}

theorem extends_of_objects_eq (same : later.objects = w.objects) : w.Extends later where
  grows := Nat.le_of_eq (by rw [same])
  same id _ := by rw [same]

theorem Extends.refl (w : World) : w.Extends w :=
  extends_of_objects_eq rfl

theorem Extends.trans {a b c : World} (first : a.Extends b) (second : b.Extends c) :
    a.Extends c where
  grows := Nat.le_trans first.grows second.grows
  same id given :=
    (second.same id (Nat.lt_of_lt_of_le given first.grows)).trans (first.same id given)

theorem Extends.keeps (ext : w.Extends later) : w.Keeps later := by
  intro id o found
  rw [ext.same id (HandleTable.lt_nextId_of_resolve? found)]
  exact found

theorem Extends.follows (ext : w.Extends later) : w.Follows later where
  grows := ext.grows
  same id given o found := by
    rw [← ext.same id given]
    exact found

theorem Follows.trans {a b c : World} (first : a.Follows b) (second : b.Follows c) :
    a.Follows c where
  grows := Nat.le_trans first.grows second.grows
  same id given o found :=
    first.same id given o (second.same id (Nat.lt_of_lt_of_le given first.grows) o found)

/-! ## 2. Operations -/

theorem extends_registerObject (w : World) (o : Object) : w.Extends (w.registerObject o).2 where
  grows := Nat.le_succ _
  same id given := by
    show (w.objects.register o).2.resolve? id = _
    rw [HandleTable.resolve?_register, if_neg (Nat.ne_of_lt given)]

theorem extends_exportForCell (w : World) (f : NativeFunction) :
    w.Extends (w.exportForCell f).2 :=
  (extends_registerObject w (.ofFunction f)).trans (extends_of_objects_eq rfl)

theorem follows_release (w : World) (id? : Option Nat) (points : List CallPoint)
    (cellExports : List Nat) :
    w.Follows { w with objects := w.objects.dropping id?, points, cellExports } where
  grows := Nat.le_of_eq (w.objects.nextId_dropping id?).symm
  same id _ o found := by
    simp only [HandleTable.resolve?_dropping] at found
    split at found
    · cases found
    · exact found

theorem follows_releaseRecords (w : World) (rs : List CallableRecord) :
    w.Follows (w.releaseRecords rs) := by
  induction rs generalizing w with
  | nil => exact (Extends.refl w).follows
  | cons r rs ih =>
    have first : w.Follows (w.releaseRecord r) := by
      rw [releaseRecord_eq]
      exact follows_release w _ _ _
    exact first.trans (ih (w.releaseRecord r))

/-! ## 3. Call points -/

/-- The id behind a call point of this runtime was given. -/
def Gave (w : World) (p : CallPoint) : Prop :=
  ∀ id, p.handle? = some id → id < w.objects.nextId

theorem Gave.mono {p : CallPoint} (gave : w.Gave p)
    (grows : w.objects.nextId ≤ later.objects.nextId) : later.Gave p :=
  fun id here => Nat.lt_of_lt_of_le (gave id here) grows

/-- A function is registered under an id that was given. -/
theorem gave_of_functionAt? {p : CallPoint} (leads : w.functionAt? p ≠ none) : w.Gave p := by
  intro id handle
  obtain ⟨f, found⟩ := Option.ne_none_iff_exists'.mp leads
  rw [functionAt?_eq, handle, Option.bind_some] at found
  obtain ⟨o, registered, -⟩ := Option.bind_eq_some_iff.mp found
  exact HandleTable.lt_nextId_of_resolve? registered

/-- **No id is given again**: a call point that leads to no function never leads to one. -/
theorem Follows.functionAt?_eq_none (follows : w.Follows later) {p : CallPoint} (gave : w.Gave p)
    (nothing : w.functionAt? p = none) : later.functionAt? p = none := by
  rw [functionAt?_eq] at nothing ⊢
  cases handle : p.handle? with
  | none => rfl
  | some id =>
    simp only [handle, Option.bind_some] at nothing ⊢
    cases found : later.objects.resolve? id with
    | none => rfl
    | some o =>
      have before := follows.same id (gave id handle) o found
      rwa [before] at nothing

/-- An id that was released stands for nothing. -/
theorem functionAt?_dropping (w : World) (p : CallPoint) (points : List CallPoint)
    (cellExports : List Nat) :
    { w with objects := w.objects.dropping p.handle?, points, cellExports }.functionAt? p =
      none := by
  rw [functionAt?_eq]
  cases handle : p.handle? with
  | none => rfl
  | some id => simp only [HandleTable.resolve?_dropping, if_true, Option.bind_some, Option.bind_none]

/-- **A noted call point leads to nothing** once a record with its address was freed, whoever owned
the record. -/
theorem functionAt?_releaseRecords {w : World} {rs : List CallableRecord} {p : CallPoint}
    (holds : w.Holds p) (noted : p.address ∈ w.cellExports) (gave : w.Gave p)
    (mem : p.address ∈ addressesOf rs) : (w.releaseRecords rs).functionAt? p = none := by
  induction rs generalizing w with
  | nil => exact absurd mem List.not_mem_nil
  | cons first rest ih =>
    rw [releaseRecords_cons]
    by_cases here : first.address? = some p.address
    · -- released now, and nothing that is freed after it brings it back
      obtain ⟨q, point, address⟩ := Option.map_eq_some_iff.mp here
      rw [releaseRecord_noted point (address ▸ noted),
        pointAt_congr address holds.address_mem_taken, holds.pointAt]
      refine (follows_releaseRecords _ rest).functionAt?_eq_none ?_ (functionAt?_dropping w p _ _)
      exact gave.mono (Nat.le_of_eq (w.objects.nextId_dropping _).symm)
    · have later : p.address ∈ addressesOf rest := by
        obtain ⟨r, mem, address⟩ := mem_addressesOf.mp mem
        refine mem_addressesOf.mpr ⟨r, (List.mem_cons.mp mem).resolve_left ?_, address⟩
        rintro rfl
        exact here address
      refine ih ?_ ?_ ?_ later
      · exact holds.releaseRecord (.inr here)
      · rw [releaseRecord_eq]
        exact List.mem_filter.mpr ⟨noted, decide_eq_true here⟩
      · rw [releaseRecord_eq]
        exact gave.mono (Nat.le_of_eq (w.objects.nextId_dropping _).symm)

end RuntimeBridge.World
