/-
# Construction: from native values to cells

Each position has a type, declared or found by asking the source; the type decides what the source
is asked for next.  Arrays are built depth first.  When a position fails, the cells built before it
stay, so that whoever owns the array can free them, and those behind it are untouched.

How many dimensions an array has is read off its finished elements.  Nothing bounds the depth of the
arrays that a source announces, so construction is given a bound and stops where it is used up.
-/
import RuntimeBridge.Wire.Source
namespace RuntimeBridge

/-! ## 1. Results -/

/-- Where construction or traversal stopped, and why. -/
structure Stop where
  reason : Halt
  path : IndexPath
  deriving DecidableEq, Repr

/-- What a step of construction leaves: how it went, what stands in place of the cells it was given,
and the state of process and source. -/
structure Built (σ β : Type) where
  outcome : Except Stop Unit
  built : β
  world : World
  state : σ

/-! ## 2. Rows -/

/-- Build the cells of a row one after the other, up to the first failure. -/
def buildRow {σ : Type} (step : Nat → Cell → World → σ → Built σ Cell) :
    Nat → List Cell → World → σ → Built σ (List Cell)
  | _, [], w, s => ⟨.ok (), [], w, s⟩
  | i, c :: cs, w, s =>
    let here := step i c w s
    match here.outcome with
    | .error stop => ⟨.error stop, here.built :: cs, here.world, here.state⟩
    | .ok () =>
      let rest := buildRow step (i + 1) cs here.world here.state
      ⟨rest.outcome, here.built :: rest.built, rest.world, rest.state⟩

/-! ## 3. Dimensions of finished arrays -/

/-- Lengths of an array and of the arrays that its first elements open, down to a depth. -/
def lengthsDown : Nat → List Cell → List Nat
  | 0, items => [items.length]
  | depth + 1, items =>
    items.length ::
      match items.head?.bind Cell.items? with
      | some inner => lengthsDown depth inner
      | none => []

/-- Levels of an array cell; a ragged array has none, nor has a cell that is no array. -/
def Cell.levels? (c : Cell) : Option (List Nat) :=
  match c.array? with
  | none => none
  | some (items, dimensions) =>
    if dimensions = mixedDimensions then none
    else some (lengthsDown (dimensions.toNat - 1) items)

/-- Dimensions of an array with these elements. -/
def builtDimensions (items : List Cell) : Int :=
  dimensionsOver (agreedLevels (items.map Cell.levels?))

/-! ## 4. Cells -/

namespace Source

variable {σ : Type}

/-- The type of a position: the declared one, unless it is `any` or missing. -/
def resolveType (src : Source σ) (path : IndexPath) (declared : Option TypeInfo) (s : σ) :
    Except BridgeError TypeInfo × σ :=
  match declared with
  | some info => if info.isAny then src.typeInfo path s else (.ok info, s)
  | none => src.typeInfo path s

/-- A cell that stays as it was because of an error. -/
def refuse (path : IndexPath) (e : BridgeError) (cell : Cell) (w : World) (s : σ) : Built σ Cell :=
  ⟨.error ⟨.error e, path⟩, cell, w, s⟩

/-- A cell that was filled. -/
def filled (result : Cell × World) (s : σ) : Built σ Cell :=
  ⟨.ok (), result.1, result.2, s⟩

/-- The wire record of what a source has for a handle. -/
def recordOf : HandleOffer → World → HandleRecord × World
  | .record r, w => (r, w)
  | .foreign h, w => (h.record, w)
  | .object o, w => w.localHandle o
  | .wrapped v, w =>
    let (o, w) := w.newObject (.value v)
    w.localHandle o

/-- Fill a cell with a value of a kind; an array is not a kind. -/
def constructLeaf (src : Source σ) (path : IndexPath) (kind : BaseKind) (cell : Cell) (w : World)
    (s : σ) : Built σ Cell :=
  let tag := TypeTag.ofKind kind
  match kind with
  | .null => filled (cell.free w) s
  | .string width =>
    match src.text path tag s with
    | (.error e, s) => refuse path e cell w s
    | (.ok text, s) =>
      match cell.setText? width text w with
      | some result => filled result s
      | none => refuse path (.marshal (.interiorNul (.path path))) cell w s
  | .handle =>
    match src.handle path s with
    | (.error e, s) => refuse path e cell w s
    | (.ok offer, s) =>
      let (record, w) := recordOf offer w
      filled (cell.setHandle record w) s
  | .callable =>
    match src.callable path s with
    | (.error e, s) => refuse path e cell w s
    | (.ok callable, s) =>
      match callable.toRecord w with
      | (.error e, w) => refuse path e cell w s
      | (.ok record, w) => filled (cell.setCallable record w) s
  | .any => refuse path (.marshal (.unknownType tag (.path path))) cell w s
  | _ =>
    match src.scalar path tag s with
    | (.error e, s) => refuse path e cell w s
    | (.ok scalar, s) =>
      if scalar.tag == tag then filled (cell.setScalar scalar w) s
      else
        refuse path (.marshal (.typeMismatch (.path path) tag.toText scalar.tag.toText)) cell w s

/-- The leaf tag that an array cell carries for an announced one. -/
def arrayLeaf (announced : TypeTag) : TypeTag :=
  if announced.bits == 0 || !announced.isKnown then .any else announced.base

/-- Have the source fill the array `cell` at once. -/
def constructManual (src : Source σ) (path : IndexPath) (layout : ArrayMetadata) (leaf : TypeTag)
    (w : World) (s : σ) : Built σ Cell :=
  let f := src.fill path { cells := List.replicate layout.length Cell.null } w s
  match f.outcome with
  | .error halt =>
    ⟨.error ⟨halt, path⟩, .ofArray leaf f.array.cells f.array.dimensions, f.world, f.state⟩
  | .ok () =>
    let dimensions := if layout.is1D then 1 else f.array.dimensions
    filled (.ofArray leaf f.array.cells dimensions, f.world) f.state

/-- Stop at an element that is an array where none may be. -/
def checkElement (path : IndexPath) (is1D : Bool) (r : Built σ Cell) : Built σ Cell :=
  match r.outcome with
  | .error _ => r
  | .ok () =>
    if is1D && r.built.tag.isArray then
      { r with outcome := .error ⟨.marshal (.nestedArrayIn1D (.path path)), path⟩ }
    else r

/-- Fill a cell, down to a depth, with the value at a path. -/
def constructCell (src : Source σ) :
    Nat → IndexPath → Option TypeInfo → Cell → World → σ → Built σ Cell
  | 0, path, _, cell, w, s => ⟨.error ⟨.tooDeep, path⟩, cell, w, s⟩
  | depth + 1, path, declared, cell, w, s =>
    match src.resolveType path declared s with
    | (.error e, s) => refuse path e cell w s
    | (.ok info, s) =>
      if info.isAny then refuse path (.marshal (.unresolvedAny (.path path))) cell w s
      else
        let tag := info.wireTag
        if !tag.isKnown then refuse path (.marshal (.unknownType tag (.path path))) cell w s
        else if tag.isArray then
          match src.arrayMetadata path { info with tag } s with
          | (.error e, s) => refuse path e cell w s
          | (.ok layout, s) =>
            let leaf := arrayLeaf layout.commonType
            let w := w.freeCell cell
            if layout.manual then constructManual src path layout leaf w s
            else
              let row := buildRow
                (fun i c w s => checkElement (path ++ [i]) layout.is1D
                  (constructCell src depth (path ++ [i]) none c w s))
                0 (List.replicate layout.length Cell.null) w s
              match row.outcome with
              | .error stop =>
                ⟨.error stop, .ofArray leaf row.built mixedDimensions, row.world, row.state⟩
              | .ok () =>
                let dimensions := if layout.is1D then 1 else builtDimensions row.built
                ⟨.ok (), .ofArray leaf row.built dimensions, row.world, row.state⟩
        else
          match tag.kind? with
          | some kind => constructLeaf src path kind cell w s
          | none => refuse path (.marshal (.unknownType tag (.path path))) cell w s

/-! ## 5. Arrays of top-level positions -/

/-- Fill the cells of an array; position `i` has the `i`-th declared type, if there is one. -/
def constructArray (src : Source σ) (depth : Nat) (a : CellArray) (declared : List TypeInfo)
    (w : World) (s : σ) : Built σ CellArray :=
  let row := buildRow
    (fun i c w s => constructCell src depth [i] declared[i]? c w s) 0 a.cells w s
  ⟨row.outcome, { a with cells := row.built }, row.world, row.state⟩

end Source

end RuntimeBridge
