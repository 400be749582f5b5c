/-
# Cells in scenes

The JSON forms of cells and arrays of cells, and of changes of a cell.
-/
import RuntimeBridge.Scene.Values
import RuntimeBridge.Cell.Change
namespace RuntimeBridge.Scene

/-! ## 1. Writing -/

/-- A callable record and what its call point leads to. -/
def ofRecord (w : World) (r : CallableRecord) : Json :=
  let target (p : CallPoint) : Json :=
    if p.isLocal then
      .arr [.str "local", .ofOption (fun (f : NativeFunction) => .str f.name) (w.functionAt? p)]
    else .arr [.str "foreign"]
  .obj [("params", .ofList ofTag r.params), ("retvals", .ofList ofTag r.retvals),
    ("target", .ofOption target r.point)]

def arrayForm (cells : List Json) (dimensions : Int) (cached : Bool) : Json :=
  .obj [("len", .ofNat cells.length), ("dims", .ofInt dimensions), ("cache", .bool cached),
    ("cells", .arr cells)]

/-- What a cell that is no array holds. -/
def payloadForm (w : World) (c : Cell) : List (String × Json) :=
  if c.tag.isString then
    match c with
    | .plain _ (.text b) _ => [("units", .ofList .ofNat b.visibleUnits)]
    | _ => [("units", .null)]
  else if c.tag == .handle then [("h", .ofOption ofHandle c.handle?)]
  else if c.tag == .callable then [("c", .ofOption (ofRecord w) c.callable?)]
  else if c.tag.isScalar then [("v", .ofOption ofScalar c.scalar?)]
  else []

def cellForm (c : Cell) (content : List (String × Json)) : Json :=
  .obj ([("t", ofTag c.tag), ("own", .bool c.owned)] ++ content)

mutual

def ofCell (w : World) : Cell → Json
  | .plain tag payload owned =>
    let c := Cell.plain tag payload owned
    cellForm c (if tag.isArray then [("a", .null)] else payloadForm w c)
  | .array tag items dimensions owned =>
    let c := Cell.array tag items dimensions owned
    cellForm c
      (if tag.isArray then [("a", arrayForm (ofCells w items) dimensions false)]
      else payloadForm w c)

def ofCells (w : World) : List Cell → List Json
  | [] => []
  | c :: cs => ofCell w c :: ofCells w cs

end

def ofCellList (w : World) (cells : List Cell) : Json := .arr (ofCells w cells)

def ofCellArray (w : World) (a : CellArray) : Json :=
  arrayForm (ofCells w a.cells) a.dimensions a.cached

/-! ## 2. Reading -/

/-- A hand-made cell of at most so much depth. -/
def readCellDown : Nat → Json → SceneM Cell
  | 0, _ => complain "cell too deep"
  | depth + 1, j => do
    let tag ← readTag (← member j "t")
    if let some units := j.member? "units" then
      let width :=
        match tag.kind? with
        | some (.string w) => w
        | _ => .w8
      return .plain tag (.text (.ofUnits width (← readList readNat units))) true
    if let some h := j.member? "h" then return .plain tag (.handle (← readHandle h)) true
    if let some a := j.member? "a" then
      let cells ← listMember (readCellDown depth) a "cells"
      return .array tag cells (← intMember a "dims") true
    if let some c := j.member? "c" then
      let params ← readTypes c "params"
      let retvals ← readTypes c "retvals"
      let point ←
        match ← optional readCallable c "fn" with
        | none => pure none
        | some (.native f) => some <$> onWorld fun w => w.exportFunction f
        | some (.foreign g) => pure (some g.point)
      return .plain tag (.callable ⟨point, params.map TypeInfo.tag, retvals.map TypeInfo.tag⟩) true
    return .plain tag (.word (UInt64.ofNat (← natMember j "u"))) false

/-- A hand-made cell. -/
def readCell (j : Json) : SceneM Cell := readCellDown (j.depth + 1) j

/-- The cells under a key. -/
def readCells (j : Json) (key : String) : SceneM (List Cell) := listMember readCell j key

/-! ## 3. Changes -/

/-- The indices of the elements that a change goes down to, and the change there. -/
def changePath : Nat → Json → SceneM (List Nat × Json)
  | 0, _ => complain "change too deep"
  | depth + 1, j => do
    match j.member? "elem", j.member? "then" with
    | some k, some next =>
      let (path, change) ← changePath depth next
      return ((← readNat k) :: path, change)
    | _, _ => return ([], j)

/-- A change that puts a value into a cell. -/
def settingOf : Value → SceneM CellChange
  | .scalar s => return .setScalar s
  | .string w s => return .setText w s
  | .null => return .free
  | .object o => return .setObject o
  | .foreign h => return .setHandle h.record
  | .callable f => return .setCallable f
  | .array _ => complain "arrays are set with their layout"

/-- A change of the cell itself. -/
def readChange (j : Json) : SceneM CellChange := do
  if j.text? == some "free" || j.text? == some "set_null" then return .free
  if let some v := j.lookup? "set" then return ← settingOf (← readValue v)
  if let some c := j.member? "raw" then return .put (← readCell c)
  match ← readItems (← member j "array") with
  | [length, dimensions, leaf] =>
    return .setArray (← readTag leaf) (← readNat length) (← readInt dimensions)
  | _ => complain "length, dimensions and tag expected"

def ofChangeError : ChangeError → Json
  | .interiorNul => .obj [("error", .str "InteriorNul")]
  | .notAnArray => .obj [("error", .str "not an array")]
  | .halted h => ofHalt h

/-- Carry out a described change: null or the error, and the cell afterwards. -/
def changeCell (c : Cell) (j : Json) : SceneM (Json × Cell) := do
  let (path, step) ← changePath (j.depth + 1) j
  match c.follow path with
  | .error e => return (ofChangeError e, c)
  | .ok _ =>
    let change ← readChange step
    let r := (CellChange.under path change).apply c (← getWorld)
    setWorld r.world
    return (match r.outcome with | .ok () => .null | .error e => ofChangeError e, r.cell)

/-- Carry out a described change of cell `k` of an array. -/
def changeCellOf (a : CellArray) (k : Nat) (j : Json) : SceneM (Json × CellArray) := do
  match a.cellAt k with
  | .error halt => return (ofHalt halt, a)
  | .ok c =>
    let (result, c) ← changeCell c j
    return (result, a.setCell k c)

/-! ## 4. Readers of a cell -/

/-- The kinds of scalars by the names of their readers. -/
def scalarReaders : List (String × BaseKind) :=
  [("as_f64", .float64), ("as_f32", .float32), ("as_i8", .int .int8), ("as_i16", .int .int16),
    ("as_i32", .int .int32), ("as_i64", .int .int64), ("as_u8", .int .uint8),
    ("as_u16", .int .uint16), ("as_u32", .int .uint32), ("as_u64", .int .uint64),
    ("as_size", .int .size), ("as_bool", .bool), ("as_char", .char .w8), ("as_char", .char .w16),
    ("as_char", .char .w32)]

/-- What the readers of a cell find in it. -/
def readings (c : Cell) : Json :=
  let found (key : String) (j : Option Json) : List (String × Json) :=
    (j.map fun j => (key, j)).toList
  let mark {α : Type} (x : Option α) : Option Json := x.map fun _ => .bool true
  .obj (scalarReaders.flatMap (fun r => found r.1 ((c.scalarOf? r.2).map ofBareScalar)) ++
    found "as_string" (c.text?.map .str) ++ found "as_array" (mark c.array?) ++
    found "as_handle" (mark c.handle?) ++ found "as_callable" (mark c.callable?))

/-- A cell and what its readers find. -/
def ofCellState (w : World) (c : Cell) : Json :=
  .obj [("is_null", .bool c.isNull), ("cell", ofCell w c), ("get", readings c)]

end RuntimeBridge.Scene
