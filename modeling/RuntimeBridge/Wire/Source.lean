/-
# Sources: where cells are filled from

Construction asks a source about the value at an index path: its type, the layout of an array, the
value as a scalar, a text, a handle or a callable.  A source keeps a state of its own and may refuse
any question with an error.
-/
import RuntimeBridge.Value.Profile
import RuntimeBridge.Error.Basic
import RuntimeBridge.Cell.Array
namespace RuntimeBridge

/-- The layout of an array as its source announces it. -/
structure ArrayMetadata where
  length : Nat
  /-- One-dimensional: no element may be an array. -/
  is1D : Bool
  /-- The tag that the leaves share, or `any`. -/
  commonType : TypeTag
  /-- The source fills the array at once. -/
  manual : Bool
  deriving DecidableEq, Repr

/-- What a source has for a handle. -/
inductive HandleOffer where
  /-- A wire record, passed on unchanged. -/
  | record (r : HandleRecord)
  /-- A handle of another runtime, passed on. -/
  | foreign (h : ForeignHandle)
  /-- An object of this runtime, to be registered. -/
  | object (o : Object)
  /-- Any other value, to be wrapped as an object and registered. -/
  | wrapped (v : Value)

/-- What filling an array at once leaves: how it went, the array, and the state of process and
source. -/
structure Filling (σ : Type) where
  outcome : Outcome Unit
  array : CellArray
  world : World
  state : σ

/-- The answer of a source that cannot fill arrays. -/
def refuseFill {σ : Type} (path : IndexPath) (a : CellArray) (w : World) (s : σ) : Filling σ :=
  ⟨.error (.marshal (.bulkArrayUnsupported (.path path))), a, w, s⟩

structure Source (σ : Type) where
  /-- The type of the value, asked where none is declared. -/
  typeInfo : IndexPath → σ → Except BridgeError TypeInfo × σ
  arrayMetadata : IndexPath → TypeInfo → σ → Except BridgeError ArrayMetadata × σ
  scalar : IndexPath → TypeTag → σ → Except BridgeError Scalar × σ
  text : IndexPath → TypeTag → σ → Except BridgeError String × σ
  handle : IndexPath → σ → Except BridgeError HandleOffer × σ
  callable : IndexPath → σ → Except BridgeError Callable × σ
  /-- Fill an array of null cells at once, with whatever the process is needed for. -/
  fill : IndexPath → CellArray → World → σ → Filling σ := refuseFill

end RuntimeBridge
