/-
# Values as a source

A list of values with their declared types is a source: a path leads from a top-level value through
nested arrays.  Elements of a declared array take the declared kind where theirs is of the same
class, so a declared array of one integer kind holds that kind all the way down.
-/
import RuntimeBridge.Wire.Construct
namespace RuntimeBridge

structure ValueSource where
  values : List Value
  declared : List TypeInfo := []

/-- Depth of the nested arrays of a value. -/
def Value.depth : Value → Nat
  | .array items => depthOf items + 1
  | _ => 0
where
  /-- Greatest depth of some elements. -/
  depthOf : List Value → Nat
    | [] => 0
    | v :: vs => max v.depth (depthOf vs)

namespace ValueSource

/-! ## 1. Paths -/

/-- The value that the indices lead to from `v`. -/
def descend? (v : Value) : List Nat → Option Value
  | [] => some v
  | i :: rest => (v.items?.bind fun items => items[i]?).bind fun item => descend? item rest

/-- The value at a path. -/
def valueAt? (src : ValueSource) : IndexPath → Option Value
  | [] => src.values[0]?
  | i :: rest => src.values[i]?.bind fun v => descend? v rest

/-- The error of a path that leads nowhere. -/
def missing (path : IndexPath) : BridgeError :=
  .marshal (.typeMismatch (.path path) "value" "nothing")

/-- The error of a value that has no form of a tag. -/
def mismatch (path : IndexPath) (expected : TypeTag) (found : Value) : BridgeError :=
  .marshal (.typeMismatch (.path path) expected.toText found.typeTag.toText)

/-- Apply a reader to the value at a path. -/
def withValue {α : Type} (src : ValueSource) (path : IndexPath)
    (read : Value → Except BridgeError α) : Except BridgeError α :=
  match src.valueAt? path with
  | some v => read v
  | none => .error (missing path)

/-! ## 2. Declared kinds -/

/-- The leaf tag that the top-level position of a path declares for its array. -/
def declaredBase? (src : ValueSource) (path : IndexPath) : Option TypeTag :=
  (path.head?.bind fun i => src.declared[i]?).bind fun info =>
    let base := info.tag.base
    if (info.tag.isArray || info.dimensions > 0) && base.bits != 0 && !base.isAny then some base
    else none

/-- Values of one tag can be given as values of the other. -/
def compatible (declared inspected : TypeTag) : Bool :=
  (declared.isNumeric && inspected.isNumeric) || (declared.isString && inspected.isString) ||
    (declared.isChar && inspected.isChar)

/-- The tag of a value below the top level: the declared one where it is compatible. -/
def coerce (src : ValueSource) (path : IndexPath) (inspected : TypeTag) : TypeTag :=
  if path.length < 2 then inspected
  else
    match src.declaredBase? path with
    | some declared =>
      if compatible declared inspected.base then
        if inspected.isArray then declared.withArray else declared
      else inspected
    | none => inspected

/-! ## 3. Answers -/

def typeInfo (src : ValueSource) (path : IndexPath) : Except BridgeError TypeInfo :=
  src.withValue path fun v =>
    let info := v.typeInfo
    .ok { info with tag := src.coerce path info.tag }

/-- An array is one-dimensional if it is declared with one dimension, and not if it is declared
with more; without a positive number of dimensions it is if it holds no array. -/
def is1D (declared : TypeInfo) (items : List Value) : Bool :=
  if declared.dimensions = 1 then true
  else if declared.dimensions > 1 then false
  else items.all fun v => v.items?.isNone

/-- The leaf tag of the array at a path. -/
def leafTag (src : ValueSource) (path : IndexPath) (items : List Value) : TypeTag :=
  match (if path.length == 1 then src.declaredBase? path else none) with
  | some base => base
  | none => (src.coerce path (Value.leafTag items)).base

def arrayMetadata (src : ValueSource) (path : IndexPath) (declared : TypeInfo) :
    Except BridgeError ArrayMetadata :=
  src.withValue path fun v =>
    match v.items? with
    | none => .error (mismatch path declared.tag v)
    | some items =>
      .ok { length := items.length
            is1D := is1D declared items
            commonType := src.leafTag path items
            manual := false }

/-- The value as a scalar of a kind: integers as long as they fit, any number in floating point. -/
def scalarOf (path : IndexPath) (kind : BaseKind) (v : Value) : Except BridgeError Scalar :=
  let tag := TypeTag.ofKind kind
  match kind with
  | .int k =>
    match v.integer? with
    | none => .error (mismatch path tag v)
    | some n =>
      match Fixed.ofInt? k n with
      | some x => .ok (.int k x)
      | none => .error (.marshal (.outOfRange (.path path) tag))
  | .float64 =>
    match v.float? with
    | some x => .ok (.float64 x)
    | none => .error (mismatch path tag v)
  | .float32 =>
    match v with
    | .scalar (.float32 x) => .ok (.float32 x)
    | _ =>
      match v.float? with
      | some x => .ok (.float32 x.narrow)
      | none => .error (mismatch path tag v)
  | .bool =>
    match v.bool? with
    | some b => .ok (.bool b)
    | none => .error (mismatch path tag v)
  | .char w =>
    match v.char? with
    | some c => .ok (.char w c)
    | none => .error (mismatch path tag v)
  | _ => .error (mismatch path tag v)

def scalar (src : ValueSource) (path : IndexPath) (tag : TypeTag) : Except BridgeError Scalar :=
  src.withValue path fun v =>
    match tag.kind? with
    | some kind => scalarOf path kind v
    | none => .error (mismatch path tag v)

def text (src : ValueSource) (path : IndexPath) (tag : TypeTag) : Except BridgeError String :=
  src.withValue path fun v =>
    match v.text? with
    | some s => .ok s
    | none => .error (mismatch path tag v)

def handle (src : ValueSource) (path : IndexPath) : Except BridgeError HandleOffer :=
  src.withValue path fun v =>
    match v with
    | .object o => .ok (.object o)
    | .foreign h => .ok (.foreign h)
    | .null => .ok (.record .nullLocal)
    | v => .ok (.wrapped v)

def callable (src : ValueSource) (path : IndexPath) : Except BridgeError Callable :=
  src.withValue path fun v =>
    match v.callable? with
    | some c => .ok c
    | none => .error (mismatch path .callable v)

/-- The source that answers from the values. -/
def source (src : ValueSource) : Source Unit where
  typeInfo path _ := (src.typeInfo path, ())
  arrayMetadata path declared _ := (src.arrayMetadata path declared, ())
  scalar path tag _ := (src.scalar path tag, ())
  text path tag _ := (src.text path tag, ())
  handle path _ := (src.handle path, ())
  callable path _ := (src.callable path, ())

/-! ## 4. Construction from values -/

/-- A depth that construction from the values never uses up. -/
def depth (src : ValueSource) : Nat :=
  Value.depth.depthOf src.values + 1

/-- Fill an array from the values under their declared types. -/
def construct (src : ValueSource) (a : CellArray) (w : World) : Except Stop Unit × CellArray × World :=
  let r := src.source.constructArray src.depth a src.declared w ()
  (r.outcome, r.built, r.world)

end ValueSource

end RuntimeBridge
