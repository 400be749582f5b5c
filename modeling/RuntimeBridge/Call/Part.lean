/-
# Parts of a call buffer

A dispatcher is given the part of the buffer pair that its call shape needs: both arrays, one of
them, or nothing.
-/
import RuntimeBridge.Cell.Array
import RuntimeBridge.Call.Shape
namespace RuntimeBridge

inductive CallPart where
  | pair (params retvals : CellArray)
  | params (a : CellArray)
  | retvals (a : CellArray)
  | nothing

namespace CallPart

def params? : CallPart → Option CellArray
  | pair p _ => some p
  | params p => some p
  | _ => none

def retvals? : CallPart → Option CellArray
  | pair _ r => some r
  | retvals r => some r
  | _ => none

/-- The part with another array of return values, if it has one. -/
def withRetvals (part : CallPart) (a : CellArray) : CallPart :=
  match part with
  | pair p _ => pair p a
  | retvals _ => retvals a
  | part => part

end CallPart

namespace CallBuffer

/-- The part of a buffer that a shape needs. -/
def part (b : CallBuffer) : CallShape → CallPart
  | .paramsRet => .pair b.params b.retvals
  | .paramsNoRet => .params b.params
  | .noParamsRet => .retvals b.retvals
  | .noParamsNoRet => .nothing

/-- The buffer after a call that changed a part of it. -/
def withPart (b : CallBuffer) (part : CallPart) : CallBuffer :=
  { params := part.params?.getD b.params, retvals := part.retvals?.getD b.retvals }

theorem withPart_part (b : CallBuffer) (shape : CallShape) : b.withPart (b.part shape) = b := by
  cases shape <;> rfl

end CallBuffer

end RuntimeBridge
