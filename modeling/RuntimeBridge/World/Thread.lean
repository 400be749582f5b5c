/-
# Threads

Each thread has a cell cache and a pin depth of its own; all else in the state of a process is shared.
A new thread starts with an empty cache of the capacity that is set for new threads, and without pins.

Main statement: `World.onThread_same`, what a thread does leaves the cache and the pins of the others alone.
-/
import RuntimeBridge.World.Basic
namespace RuntimeBridge.World

/-- The process as a new thread sees it. -/
def enterThread (w : World) : World :=
  { w with cache := { capacity := w.threadCells }, cacheMade := false, pinDepth := 0 }

/-- The process as this thread sees it again after another one did something. -/
def leaveThread (w after : World) : World :=
  { after with cache := w.cache, cacheMade := w.cacheMade, pinDepth := w.pinDepth }

/-- Do something on a new thread. -/
def onThread {α : Type} (f : World → α × World) (w : World) : α × World :=
  let (x, after) := f w.enterThread
  (x, w.leaveThread after)

theorem onThread_same {α : Type} (f : World → α × World) (w : World) :
    (onThread f w).2.cache = w.cache ∧ (onThread f w).2.pinDepth = w.pinDepth :=
  ⟨rfl, rfl⟩

end RuntimeBridge.World
