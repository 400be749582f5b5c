/-
# Filling cells

Whatever is put into a cell, what the cell owned before is freed first, except when the new value
is refused: a text that holds NUL leaves the cell as it was.
-/
import RuntimeBridge.World.Exports
namespace RuntimeBridge

namespace Cell

/-- Replace `old` by `new`. -/
def replace (old new : Cell) (w : World) : Cell × World :=
  (new, w.freeCell old)

/-- Free a cell; it is null afterwards. -/
def free (c : Cell) (w : World) : Cell × World :=
  c.replace null w

def setScalar (c : Cell) (s : Scalar) (w : World) : Cell × World :=
  c.replace (ofScalar s) w

/-- Put a text into the cell, unless it holds NUL. -/
def setText? (c : Cell) (width : Width) (s : String) (w : World) : Option (Cell × World) :=
  if holdsNul s then none else some (c.replace (ofText width s) w)

def setHandle (c : Cell) (r : HandleRecord) (w : World) : Cell × World :=
  c.replace (ofHandle r) w

def setCallable (c : Cell) (r : CallableRecord) (w : World) : Cell × World :=
  c.replace (ofCallable r) w

/-- Put an array of null cells into the cell. -/
def setArray (c : Cell) (leaf : TypeTag) (length : Nat) (dimensions : Int) (w : World) :
    Cell × World :=
  c.replace (ofArray leaf (List.replicate length null) dimensions) w

/-- Apply a change to element `k` of an array cell, if there is one. -/
def updateItem (c : Cell) (k : Nat) (new : Cell) : Cell :=
  match c with
  | array tag items dimensions owned => array tag (items.set k new) dimensions owned
  | plain tag payload owned => plain tag payload owned

end Cell

end RuntimeBridge
