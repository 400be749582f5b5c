/-
# What is minted on the way

A value that crosses the wire comes back as the same value, except that handles of other runtimes are
new ones for the same record.  The cells in between depend on the value alone, except for the ids under
which objects and functions were registered and for the addresses of call points.  Both kinds of
identity are forgotten here (`anonymous`), and what is left of the cell of a value is a function of the
value (`Value.skeleton`).
-/
import RuntimeBridge.Proofs.Value.Tree
namespace RuntimeBridge

/-! ## 1. Values -/

namespace Value

mutual

/-- A value whose handles of other runtimes have forgotten which ones they are. -/
def anonymous : Value → Value
  | foreign h => foreign ⟨0, h.record⟩
  | array items => array (anonymousOf items)
  | v => v

def anonymousOf : List Value → List Value
  | [] => []
  | v :: vs => v.anonymous :: anonymousOf vs

end

theorem anonymousOf_eq_map (vs : List Value) : anonymousOf vs = vs.map anonymous := by
  induction vs with
  | nil => rfl
  | cons v vs ih => rw [anonymousOf, ih, List.map_cons]

theorem anonymous_array (items : List Value) :
    (array items).anonymous = array (items.map anonymous) := by
  rw [anonymous, anonymousOf_eq_map]

end Value

/-! ## 2. Cells -/

/-- A handle record without the id under which the object is registered here. -/
def HandleRecord.anonymous (r : HandleRecord) : HandleRecord :=
  if r.isLocal then { r with handle := 0 } else r

/-- A call point of this runtime without its address and the id of its function. -/
def CallPoint.anonymous (p : CallPoint) : CallPoint :=
  match p.target with
  | .exported shape context => ⟨0, .exported shape { context with handle := 0 }⟩
  | .remote _ => p

def CallableRecord.anonymous (r : CallableRecord) : CallableRecord :=
  { r with point := r.point.map CallPoint.anonymous }

def Payload.anonymous : Payload → Payload
  | .handle r => .handle r.anonymous
  | .callable r => .callable r.anonymous
  | p => p

namespace Cell

mutual

/-- A cell without the ids and addresses that were minted for it. -/
def anonymous : Cell → Cell
  | plain tag payload owned => plain tag payload.anonymous owned
  | array tag items dimensions owned => array tag (anonymousOf items) dimensions owned

def anonymousOf : List Cell → List Cell
  | [] => []
  | c :: cs => c.anonymous :: anonymousOf cs

end

theorem anonymousOf_eq_map (cs : List Cell) : anonymousOf cs = cs.map anonymous := by
  induction cs with
  | nil => rfl
  | cons c cs ih => rw [anonymousOf, ih, List.map_cons]

theorem anonymous_ofArray (leaf : TypeTag) (cells : List Cell) (dimensions : Int) :
    (ofArray leaf cells dimensions).anonymous =
      ofArray leaf (cells.map anonymous) dimensions := by
  rw [ofArray, anonymous, anonymousOf_eq_map, ofArray]

end Cell

/-! ## 3. Skeletons -/

/-- The record of a function, apart from what is minted for it. -/
def NativeFunction.skeleton (f : NativeFunction) : CallableRecord where
  point := some ⟨0, .exported f.shape ⟨0, f.params.length, f.retvals.length⟩⟩
  params := f.params.map TypeInfo.wireTag
  retvals := f.retvals.map TypeInfo.wireTag

/-- The record of a foreign callable. -/
def ForeignCallable.skeleton (c : ForeignCallable) : CallableRecord where
  point := some c.point.anonymous
  params := c.params.map TypeInfo.wireTag
  retvals := c.retvals.map TypeInfo.wireTag

namespace Value

mutual

/-- The cell of a value in its own kinds, apart from what is minted for it. -/
def skeleton : Value → Cell
  | null => .null
  | scalar s => .ofScalar s
  | string w text => .ofText w text
  | array items => .ofArray (.ofKind (sharedKind items)) (skeletonOf items) (dimensions items)
  | object _ => .ofHandle (.ofLocal 0)
  | foreign h => .ofHandle h.record.anonymous
  | callable (.native f) => .ofCallable f.skeleton
  | callable (.foreign c) => .ofCallable c.skeleton

def skeletonOf : List Value → List Cell
  | [] => []
  | v :: vs => v.skeleton :: skeletonOf vs

end

theorem skeletonOf_eq_map (vs : List Value) : skeletonOf vs = vs.map skeleton := by
  induction vs with
  | nil => rfl
  | cons v vs ih => rw [skeletonOf, ih, List.map_cons]

/-! ## 4. Values that can be sent and come back -/

/-- Nothing about a leaf keeps it from being sent: texts hold no NUL, signatures are short. -/
def Sendable : Value → Prop
  | string _ text => holdsNul text = false
  | callable c => c.params.length ≤ signatureLimit ∧ c.retvals.length ≤ signatureLimit
  | _ => True

/-- A leaf comes back as what it is: callables are functions of this runtime, and handles of other
runtimes stand for something there. -/
def Returns : Value → Prop
  | callable (.foreign _) => False
  | foreign h => h.record.isNull = false ∧ h.record.isLocal = false
  | _ => True

end Value

end RuntimeBridge
