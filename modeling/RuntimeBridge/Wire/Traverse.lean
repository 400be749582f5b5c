/-
# Traversal: from cells to native values

Cells are decoded depth first, in index order, and handed to a sink.  Traversal reads the objects
table and the exported functions; it changes nothing in the process.
-/
import RuntimeBridge.Wire.Sink
import RuntimeBridge.Wire.Construct
namespace RuntimeBridge

/-! ## 1. Types of handles -/

/-- The type of the object in a handle cell of this runtime. -/
def World.handleType? (w : World) (c : Cell) : Option ObjectType :=
  c.handle?.bind fun r =>
    if r.isLocal then (w.objects.resolve? r.handle).map Object.type else none

/-- The type shared by the objects in the first few cells; nothing when one of them is no handle of
this runtime, or stands for nothing. -/
def World.sampleType? (w : World) (cells : List Cell) (samples : Nat) : Option ObjectType :=
  match (cells.take samples).mapM w.handleType? with
  | some (first :: rest) => if rest.all (· == first) then some first else none
  | _ => none

/-! ## 2. Cells -/

namespace Sink

variable {τ : Type}

/-- The answer of a sink, with the place where it was given. -/
def answer {α : Type} (path : IndexPath) (r : Except BridgeError α × τ) : Except Stop α × τ :=
  match r with
  | (.ok x, t) => (.ok x, t)
  | (.error e, t) => (.error ⟨.error e, path⟩, t)

/-- A violation found by traversal itself. -/
def violation {α : Type} (path : IndexPath) (e : MarshalError) (t : τ) : Except Stop α × τ :=
  (.error ⟨.marshal e, path⟩, t)

/-- Decode a cell that is no array. -/
def traverseLeaf (w : World) (sink : Sink τ) (c : Cell) (path : IndexPath) (t : τ) :
    Except Stop Unit × τ :=
  match c.tag.kind? with
  | some .null => answer path (sink.onNull path t)
  | some (.string width) =>
    match c.text? with
    | some text => answer path (sink.onText path width text t)
    | none => violation path (.invalidString (.path path) c.tag) t
  | some .handle =>
    match c.handle? with
    | none => answer path (sink.onNull path t)
    | some r =>
      if r.isNull then answer path (sink.onNull path t)
      else if r.isLocal then
        match w.resolveLocal r with
        | .ok o => answer path (sink.onHandle path (.object o) t)
        | .error e => (.error ⟨.error (.handle e), path⟩, t)
      else answer path (sink.onHandle path (.foreign r) t)
  | some .callable =>
    match c.callable?.bind fun r => r.callable? w with
    | some f => answer path (sink.onCallable path f t)
    | none => violation path (.nullCallable (.path path)) t
  | some .any => violation path (.unknownType c.tag (.path path)) t
  | some _ =>
    match c.scalar? with
    | some s => answer path (sink.onScalar path s t)
    | none => violation path (.invalidChar (.path path)) t
  | none => violation path (.unknownType c.tag (.path path)) t

/-- The shape of an array cell. -/
def shapeOf (w : World) (sink : Sink τ) (items : List Cell) (dimensions : Int) (path : IndexPath)
    (t : τ) : ArrayShape :=
  let common := Cell.commonTag items
  { length := items.length
    dimensions
    commonType := common
    objectType :=
      if common == .handle then
        (sink.expectedType path t).or (w.sampleType? items w.handleSamples)
      else none }

mutual

/-- Decode a cell and hand it to the sink. -/
def traverseCell (w : World) (sink : Sink τ) : Cell → IndexPath → τ → Except Stop Unit × τ
  | .plain tag payload owned, path, t =>
    if tag.isAny then violation path (.unresolvedAny (.path path)) t
    else if tag.isArray then violation path (.nullArray (.path path)) t
    else traverseLeaf w sink (.plain tag payload owned) path t
  | .array tag items dimensions owned, path, t =>
    if tag.isAny then violation path (.unresolvedAny (.path path)) t
    else if tag.isArray then
      match answer path (sink.onArray path (shapeOf w sink items dimensions path t) items t) with
      | (.error stop, t) => (.error stop, t)
      | (.ok false, t) => (.ok (), t)
      | (.ok true, t) => traverseRow w sink items path 0 t
    else traverseLeaf w sink (.array tag items dimensions owned) path t

/-- Decode the elements of an array from index `i` on. -/
def traverseRow (w : World) (sink : Sink τ) :
    List Cell → IndexPath → Nat → τ → Except Stop Unit × τ
  | [], _, _, t => (.ok (), t)
  | c :: cs, path, i, t =>
    match traverseCell w sink c (path ++ [i]) t with
    | (.error stop, t) => (.error stop, t)
    | (.ok (), t) => traverseRow w sink cs path (i + 1) t

end

/-- Decode the cells of an array as top-level positions. -/
def traverseCells (w : World) (sink : Sink τ) (cells : List Cell) (t : τ) : Except Stop Unit × τ :=
  traverseRow w sink cells [] 0 t

end Sink

end RuntimeBridge
