/-
# What is registered stays registered

Registering an object, or exporting a function, adds an entry to the objects table and disturbs none.
So what was sent by its id can be looked up in any later state that keeps the entries (`World.Keeps`).
-/
import RuntimeBridge.World.Exports
namespace RuntimeBridge

namespace World

/-! ## 1. Later states -/

/-- Whatever is registered in the first state is registered under the same id in the second one. -/
def Keeps (w later : World) : Prop :=
  ∀ id o, w.objects.resolve? id = some o → later.objects.resolve? id = some o

theorem Keeps.refl (w : World) : w.Keeps w :=
  fun _ _ found => found

theorem Keeps.trans {a b c : World} (first : a.Keeps b) (second : b.Keeps c) : a.Keeps c :=
  fun id o found => second id o (first id o found)

/-- A registered function stays registered. -/
theorem Keeps.function? {w later : World} (keeps : w.Keeps later) {id : Nat} {f : NativeFunction}
    (found : (w.objects.resolve? id).bind Object.function? = some f) :
    (later.objects.resolve? id).bind Object.function? = some f := by
  obtain ⟨o, here, isFunction⟩ := Option.bind_eq_some_iff.mp found
  rw [keeps id o here]
  exact isFunction

/-- States with the same table keep the same things. -/
theorem keeps_of_objects_eq {w later : World} (same : later.objects = w.objects) : w.Keeps later := by
  intro id o found
  rw [same]
  exact found

/-! ## 2. Registration -/

theorem keeps_registerObject (w : World) (o : Object) : w.Keeps (w.registerObject o).2 := by
  intro id o' found
  have before := HandleTable.lt_nextId_of_resolve? found
  show (w.objects.register o).2.resolve? id = some o'
  rw [HandleTable.resolve?_register, if_neg (Nat.ne_of_lt before)]
  exact found

theorem resolve?_registerObject (w : World) (o : Object) :
    (w.registerObject o).2.objects.resolve? (w.registerObject o).1 = some o := by
  show (w.objects.register o).2.resolve? w.objects.nextId = some o
  rw [HandleTable.resolve?_register, if_pos rfl]

theorem registerObject_pos (w : World) (o : Object) : 0 < (w.registerObject o).1 :=
  w.objects.nextId_pos

/-! ## 3. Exports -/

theorem keeps_exportForCell (w : World) (f : NativeFunction) : w.Keeps (w.exportForCell f).2 :=
  keeps_registerObject w (.ofFunction f)

/-- The call point of an export leads to its function. -/
theorem functionAt?_exportForCell {w later : World} {f : NativeFunction}
    (keeps : (w.exportForCell f).2.Keeps later) :
    later.functionAt? (w.exportForCell f).1 = some f := by
  have found := keeps _ _ (resolve?_registerObject w (.ofFunction f))
  show (later.objects.resolve? (w.registerObject (.ofFunction f)).1).bind Object.function? = some f
  rw [found]
  rfl

end World

end RuntimeBridge
