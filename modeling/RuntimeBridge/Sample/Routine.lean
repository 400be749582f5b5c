/-
# Sample routines of other runtimes

Dispatchers that are not this runtime's own: one that always succeeds, one that always fails, and
the one of the sample plugin library, whose context is a number.
-/
import RuntimeBridge.Call.Program
namespace RuntimeBridge

namespace SampleRoutine

/-! ## 1. Names -/

def accepting (shape : CallShape) : RemoteRoutine := ⟨"accepting", shape, 0⟩

def failing (shape : CallShape) : RemoteRoutine := ⟨"failing", shape, 0⟩

def library (shape : CallShape) (context : Nat) : RemoteRoutine := ⟨"library", shape, context⟩

/-! ## 2. Cells -/

/-- The number of a 64-bit integer cell. -/
def int64? (c : Cell) : Option Int :=
  (c.scalarOf? (.int .int64)).bind Scalar.integer?

/-- The sum of 64-bit integer cells, unless one is something else. -/
def sum? (cells : List Cell) : Option Int :=
  (cells.mapM int64?).map fun ns => ns.foldl (· + ·) 0

/-- Put a 64-bit integer into each cell of the return values. -/
def answer (part : CallPart) (n : Int) (w : World) : RemoteResult :=
  match part.retvals? with
  | none => ⟨none, part, w⟩
  | some a =>
    let cell := Cell.ofScalar (.int .int64 (Fixed.wrap .int64 n))
    ⟨none, part.withRetvals { a with cells := a.cells.map fun _ => cell }, w.freeCells a.cells⟩

def fail (text : String) (part : CallPart) (w : World) : RemoteResult :=
  ⟨some text, part, w⟩

/-- The cells of the parameters. -/
def paramCells (part : CallPart) : List Cell :=
  (part.params?.map CellArray.cells).getD []

/-! ## 3. Routines -/

/-- Sums integers; without parameters it answers 7. -/
def runAccepting (shape : CallShape) (part : CallPart) (w : World) : RemoteResult :=
  match shape with
  | .paramsRet =>
    match sum? (paramCells part) with
    | some n => answer part n w
    | none => fail "foreign sum: int64 expected" part w
  | .noParamsRet => answer part 7 w
  | .paramsNoRet | .noParamsNoRet => ⟨none, part, w⟩

/-- Sums integers and its context; takes at most one parameter when it returns nothing, and fails
when it takes nothing either, unless its context is zero. -/
def runLibrary (shape : CallShape) (context : Nat) (part : CallPart) (w : World) : RemoteResult :=
  match shape with
  | .paramsRet =>
    match sum? (paramCells part) with
    | some n => answer part (context + n) w
    | none => fail "int64 expected" part w
  | .paramsNoRet =>
    if (paramCells part).length > 1 then fail "too many" part w else ⟨none, part, w⟩
  | .noParamsRet => answer part context w
  | .noParamsNoRet => if context = 0 then ⟨none, part, w⟩ else fail "c failure" part w

/-- What a routine does. -/
def run (r : RemoteRoutine) (part : CallPart) (w : World) : RemoteResult :=
  if r.name == "accepting" then runAccepting r.shape part w
  else if r.name == "library" then runLibrary r.shape r.context part w
  else fail "foreign failure" part w

end SampleRoutine

end RuntimeBridge
