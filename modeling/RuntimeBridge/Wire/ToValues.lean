/-
# Values as a sink

Decoded cells are put together as values again.  The sink has a slot for each top-level position,
more of them as they are needed, and writes each value where its path leads.  It also notes the
shape of each array.
-/
import RuntimeBridge.Wire.Traverse
namespace RuntimeBridge

structure ValueBuilder where
  slots : List Value
  /-- Path and shape of each array, in the order of traversal. -/
  shapes : List (IndexPath × ArrayShape) := []
  /-- The next identity for handles of other runtimes. -/
  supply : Nat

namespace ValueBuilder

/-! ## 1. Writing at a path -/

/-- `v` with `new` at the place that the indices lead to. -/
def replaceAt? (new : Value) : List Nat → Value → Option Value
  | [], _ => some new
  | i :: rest, .array items =>
    items[i]?.bind fun item =>
      (replaceAt? new rest item).map fun item => .array (items.set i item)
  | _ :: _, _ => none

/-- Slots for at least `count` positions. -/
def widen (slots : List Value) (count : Nat) : List Value :=
  slots ++ List.replicate (count - slots.length) .null

/-- Write a value at a path. -/
def put (b : ValueBuilder) (path : IndexPath) (new : Value) :
    Except BridgeError Unit × ValueBuilder :=
  let first := path.head?.getD 0
  let slots := widen b.slots (first + 1)
  match slots[first]?.bind (replaceAt? new path.tail) with
  | some v => (.ok (), { b with slots := slots.set first v })
  | none =>
    (.error (.marshal (.typeMismatch (.path path) "value" "nothing")), { b with slots })

/-! ## 2. The sink -/

/-- Write a decoded handle; a handle of another runtime is a new one. -/
def putHandle (b : ValueBuilder) (path : IndexPath) (h : DecodedHandle) :
    Except BridgeError Unit × ValueBuilder :=
  match h with
  | .object o => b.put path (.object o)
  | .foreign r => { b with supply := b.supply + 1 }.put path (.foreign ⟨b.supply, r⟩)

/-- Note the shape of an array and write an array of so many nulls. -/
def putArray (b : ValueBuilder) (path : IndexPath) (shape : ArrayShape) :
    Except BridgeError Bool × ValueBuilder :=
  let noted := { b with shapes := b.shapes ++ [(path, shape)] }
  match noted.put path (.array (List.replicate shape.length .null)) with
  | (.ok (), b) => (.ok true, b)
  | (.error e, b) => (.error e, b)

def sink : Sink ValueBuilder where
  onNull path b := b.put path .null
  onScalar path s b := b.put path (.scalar s)
  onText path w s b := b.put path (.string w s)
  onHandle path h b := b.putHandle path h
  onCallable path c b := b.put path (.callable c)
  onArray path shape _ b := b.putArray path shape

/-- The shape noted for a path. -/
def shape? (b : ValueBuilder) (path : IndexPath) : Option ArrayShape :=
  (b.shapes.find? fun e => e.1 == path).map Prod.snd

end ValueBuilder

/-! ## 3. Decoding to values -/

/-- The values of some cells in at least `slots` slots, and the shapes of the arrays in them. -/
def World.decode (w : World) (cells : List Cell) (slots : Nat) :
    Except Stop ValueBuilder × World :=
  let start : ValueBuilder := { slots := List.replicate slots .null, supply := w.supply }
  match ValueBuilder.sink.traverseCells w cells start with
  | (.ok (), b) => (.ok b, { w with supply := b.supply })
  | (.error stop, b) => (.error stop, { w with supply := b.supply })

/-- Octets that a value takes, apart from what it points to. -/
def valueOctets : Nat := 40

/-- As `decode`; more slots than a block of memory can have are a panic. -/
def World.decodeInto (w : World) (cells : List Cell) (slots : Nat) :
    Outcome (Except Stop ValueBuilder × World) := do
  reserve slots valueOctets
  return w.decode cells slots

end RuntimeBridge
