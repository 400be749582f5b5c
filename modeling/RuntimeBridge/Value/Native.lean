/-
# Native types

Native code works with typed data: integers of nine kinds, floating point, truth values,
characters, texts, objects, callables, lists and options of such.  Each type has its data, a
conversion from values, which may fail, and one back to values, which does not.

Integers convert between kinds as long as the number fits; characters and texts of all widths are
taken, and given back in one.
-/
import RuntimeBridge.Value.Profile
import RuntimeBridge.Error.Basic
namespace RuntimeBridge

inductive NativeType where
  | int (k : IntKind)
  | float64 | float32
  | bool
  | char
  | text
  | object
  | callable
  | list (t : NativeType)
  | option (t : NativeType)
  deriving DecidableEq, Repr

/-- The name of an integer kind among the native types. -/
def IntKind.nativeName : IntKind → String
  | int8 => "i8"
  | int16 => "i16"
  | int32 => "i32"
  | int64 => "i64"
  | uint8 => "u8"
  | uint16 => "u16"
  | uint32 => "u32"
  | uint64 => "u64"
  | size => "usize"

namespace NativeType

/-! ## 1. Data -/

/-- The data of a native type. -/
def Data : NativeType → Type
  | int k => Fixed k
  | float64 => Binary64
  | float32 => Binary32
  | bool => Bool
  | char => Char
  | text => String
  | object => Object
  | callable => Callable
  | list t => List t.Data
  | option t => Option t.Data

/-- The name of a type in texts of errors. -/
def name : NativeType → String
  | int k => k.nativeName
  | float64 => "f64"
  | float32 => "f32"
  | bool => "bool"
  | char => "char"
  | text => "string"
  | object => "object"
  | callable => "callable"
  | list _ => "array"
  | option t => t.name

/-- The integer kind of a name among the native types. -/
def intKind? (name : String) : Option IntKind :=
  [IntKind.int8, .int16, .int32, .int64, .uint8, .uint16, .uint32, .uint64, .size].find?
    fun k => k.nativeName == name

/-- The native type that a description of at most so many characters names: a name, or a list or an
option of a description between angle brackets. -/
def parseChars? : Nat → List Char → Option NativeType
  | 0, _ => none
  | length + 1, 'v' :: 'e' :: 'c' :: '<' :: rest => (parseChars? length rest.dropLast).map list
  | length + 1, 'o' :: 'p' :: 't' :: '<' :: rest => (parseChars? length rest.dropLast).map option
  | _ + 1, cs =>
    let name := String.ofList cs
    if name == "f64" then some float64
    else if name == "f32" then some float32
    else if name == "bool" then some bool
    else if name == "char" then some char
    else if name == "string" then some text
    else if name == "object" then some object
    else if name == "callable" then some callable
    else (intKind? name).map int

/-- The native type that a description names. -/
def parse? (s : String) : Option NativeType :=
  parseChars? (s.length + 1) s.toList

/-! ## 2. From values -/

/-- The error of a value that has no form of the type. -/
def mismatch (t : NativeType) (v : Value) : MarshalError :=
  .typeMismatch .single t.name v.typeTag.toText

/-- What was found, or the error of a value that has no form of the type. -/
def orMismatch {α : Type} (t : NativeType) (v : Value) : Option α → Except MarshalError α
  | some x => .ok x
  | none => .error (t.mismatch v)

/-- The data that a value converts to. -/
def ofValue : (t : NativeType) → Value → Except MarshalError t.Data
  | int k, v =>
    match v.integer? with
    | none => .error ((int k).mismatch v)
    | some n =>
      match Fixed.ofInt? k n with
      | some x => .ok x
      | none => .error (.outOfRange .single (.ofKind (.int k)))
  | float64, v => orMismatch float64 v v.float?
  | float32, v => orMismatch float32 v (v.float?.map Binary64.narrow)
  | bool, v => orMismatch bool v v.bool?
  | char, v => orMismatch char v v.char?
  | text, v => orMismatch text v v.text?
  | object, v => orMismatch object v v.object?
  | callable, v => orMismatch callable v v.callable?
  | list t, v =>
    match v.items? with
    | some items => items.mapM t.ofValue
    | none => .error ((list t).mismatch v)
  | option t, v => if v.isNull then .ok none else (t.ofValue v).map some

/-! ## 3. To values -/

/-- The value of native data. -/
def toValue : (t : NativeType) → t.Data → Value
  | int k, x => .scalar (.int k x)
  | float64, x => .scalar (.float64 x)
  | float32, x => .scalar (.float32 x)
  | bool, x => .scalar (.bool x)
  | char, x => .scalar (.char .w32 x)
  | text, x => .string .w8 x
  | object, x => .object x
  | callable, x => .callable x
  | list t, xs => .array (xs.map t.toValue)
  | option t, x =>
    match x with
    | none => .null
    | some y => t.toValue y

/-- A value converted to a native type and back. -/
def convert (t : NativeType) (v : Value) : Except MarshalError Value :=
  (t.ofValue v).map t.toValue

end NativeType

end RuntimeBridge
