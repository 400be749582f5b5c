/-
# Scalars

Values that lie in the cell itself: numbers, truth values and characters.  A scalar has a base
kind, and a 64-bit word from which a reader who knows the kind gets it back.
-/
import RuntimeBridge.Number.Integer
import RuntimeBridge.Number.Binary
import RuntimeBridge.Cell.CharPayload
import RuntimeBridge.Type.Tag
namespace RuntimeBridge

inductive Scalar where
  | int (k : IntKind) (n : Fixed k)
  | float64 (x : Binary64)
  | float32 (x : Binary32)
  | bool (b : Bool)
  | char (w : Width) (c : Char)
  deriving DecidableEq

namespace Scalar

/-! ## 1. Kind -/

def kind : Scalar → BaseKind
  | int k _ => .int k
  | float64 _ => .float64
  | float32 _ => .float32
  | bool _ => .bool
  | char w _ => .char w

def tag (s : Scalar) : TypeTag :=
  .ofKind s.kind

/-! ## 2. Wire form -/

/-- The word that carries the scalar. -/
def toWord : Scalar → UInt64
  | int _ n => n.toWord
  | float64 x => x.pattern
  | float32 x => UInt64.ofNat x.pattern.toNat
  | bool b => if b then 1 else 0
  | char w c => (CharPayload.encode w c).toWord

/-- The scalar of a kind that a word carries.  Kinds that are not scalar have none, and a word that
holds no character has no scalar of a character kind. -/
def ofWord? (kind : BaseKind) (word : UInt64) : Option Scalar :=
  match kind with
  | .int k => some (int k (Fixed.ofWord k word))
  | .float64 => some (float64 ⟨word⟩)
  | .float32 => some (float32 ⟨word.toUInt32⟩)
  | .bool => some (bool (word.toNat % 0x100 != 0))
  | .char w => (CharPayload.ofWord w word).decode?.map (char w)
  | _ => none

/-! ## 3. Numbers -/

/-- The number of an integer scalar. -/
def integer? : Scalar → Option Int
  | int _ n => some n.val
  | _ => none

/-- The number of a numeric scalar as a binary64 value. -/
def float? : Scalar → Option Binary64
  | float64 x => some x
  | float32 x => some x.widen
  | int _ n => some (.ofInt n.val)
  | _ => none

def char? : Scalar → Option Char
  | char _ c => some c
  | _ => none

def bool? : Scalar → Option Bool
  | bool b => some b
  | _ => none

/-- Equality of scalars of one kind; numbers in floating point compare as numbers. -/
def same : Scalar → Scalar → Bool
  | float64 x, float64 y => x.sameNumber y
  | float32 x, float32 y => x.sameNumber y
  | s, t => s == t

end Scalar

end RuntimeBridge
