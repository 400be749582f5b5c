/-
# Base kinds

What a value can be on the wire, apart from an array of such.  Each kind has a name and a bit of
its own; `any` stands for a kind not known yet.
-/
import RuntimeBridge.Number.Integer
namespace RuntimeBridge

/-! ## 1. Code unit widths -/

/-- Width of the code units in which characters and texts are written. -/
inductive Width where
  | w8 | w16 | w32
  deriving DecidableEq, Repr

/-! ## 2. Kinds -/

inductive BaseKind where
  | int (k : IntKind)
  | float64 | float32
  | bool
  | string (w : Width)
  | char (w : Width)
  | handle
  | callable
  | null
  | any
  deriving DecidableEq, Repr

namespace BaseKind

/-- The bit that stands for a kind. -/
def bit : BaseKind → UInt64
  | float64 => 1
  | float32 => 2
  | int .int8 => 4
  | int .int16 => 8
  | int .int32 => 16
  | int .int64 => 32
  | int .uint8 => 64
  | int .uint16 => 128
  | int .uint32 => 256
  | int .uint64 => 512
  | bool => 1024
  | string .w8 => 4096
  | string .w16 => 8192
  | string .w32 => 16384
  | handle => 32768
  | int .size => 262144
  | char .w8 => 524288
  | char .w16 => 1048576
  | char .w32 => 2097152
  | any => 4194304
  | null => 8388608
  | callable => 16777216

/-- The name of a kind. -/
def name : BaseKind → String
  | float64 => "float64"
  | float32 => "float32"
  | int .int8 => "int8"
  | int .int16 => "int16"
  | int .int32 => "int32"
  | int .int64 => "int64"
  | int .uint8 => "uint8"
  | int .uint16 => "uint16"
  | int .uint32 => "uint32"
  | int .uint64 => "uint64"
  | bool => "bool"
  | string .w8 => "string8"
  | string .w16 => "string16"
  | string .w32 => "string32"
  | handle => "handle"
  | int .size => "size"
  | char .w8 => "char8"
  | char .w16 => "char16"
  | char .w32 => "char32"
  | any => "any"
  | null => "null"
  | callable => "callable"

/-- Every kind, by its bit. -/
def all : List BaseKind :=
  [float64, float32, int .int8, int .int16, int .int32, int .int64, int .uint8, int .uint16,
    int .uint32, int .uint64, bool, string .w8, string .w16, string .w32, handle, int .size,
    char .w8, char .w16, char .w32, any, null, callable]

/-- The kind that a bit stands for. -/
def ofBit? (b : UInt64) : Option BaseKind :=
  all.find? fun kind => kind.bit == b

/-- The kind of a name. -/
def ofName? (s : String) : Option BaseKind :=
  all.find? fun kind => kind.name == s

def isNumeric : BaseKind → Bool
  | int _ | float64 | float32 => true
  | _ => false

def isString : BaseKind → Bool
  | string _ => true
  | _ => false

def isChar : BaseKind → Bool
  | char _ => true
  | _ => false

/-- Kinds whose values lie in the cell itself. -/
def isScalar (kind : BaseKind) : Bool :=
  kind.isNumeric || kind.isChar || kind == bool

theorem mem_all (kind : BaseKind) : kind ∈ all := by
  cases kind with
  | int k => cases k <;> decide
  | string w => cases w <;> decide
  | char w => cases w <;> decide
  | _ => decide

theorem ofBit?_bit (kind : BaseKind) : ofBit? kind.bit = some kind := by
  cases kind with
  | int k => cases k <;> decide
  | string w => cases w <;> decide
  | char w => cases w <;> decide
  | _ => decide

theorem ofName?_name (kind : BaseKind) : ofName? kind.name = some kind := by
  cases kind with
  | int k => cases k <;> decide
  | string w => cases w <;> decide
  | char w => cases w <;> decide
  | _ => decide

end BaseKind

end RuntimeBridge
