/-
# Values

What native code passes and receives: nothing, scalars, texts, arrays of values, objects of this
runtime, handles to objects of other runtimes, and callables.

Objects, functions and foreign handles are SHARED: copies of one of them are the same thing and
carry the same identity.  An object's content is one of the types that native code registers here,
a value that is passed as an opaque object, or a function.
-/
import RuntimeBridge.Value.Scalar
import RuntimeBridge.Type.Info
import RuntimeBridge.Handle.Record
import RuntimeBridge.Call.Point
namespace RuntimeBridge

/-! ## 1. Functions and callables -/

/-- A function of this runtime with its signature.  What it does when called is not part of it; the
program that owns the functions says so by identity. -/
structure NativeFunction where
  identity : Nat
  name : String
  params : List TypeInfo
  retvals : List TypeInfo
  deriving DecidableEq, Repr

def NativeFunction.shape (f : NativeFunction) : CallShape :=
  .ofCounts f.params.length f.retvals.length

/-- A function of another runtime: its call point, and the signature it is called with. -/
structure ForeignCallable where
  point : CallPoint
  params : List TypeInfo
  retvals : List TypeInfo
  deriving DecidableEq, Repr

inductive Callable where
  | native (f : NativeFunction)
  | foreign (c : ForeignCallable)
  deriving DecidableEq, Repr

namespace Callable

def params : Callable → List TypeInfo
  | native f => f.params
  | foreign c => c.params

def retvals : Callable → List TypeInfo
  | native f => f.retvals
  | foreign c => c.retvals

def shape (c : Callable) : CallShape :=
  .ofCounts c.params.length c.retvals.length

/-- Two callables are the same function, or the same call point. -/
def same : Callable → Callable → Bool
  | native f, native g => f.identity == g.identity
  | foreign c, foreign d => c.point.address == d.point.address
  | _, _ => false

end Callable

/-! ## 2. Foreign handles -/

/-- A handle to an object of another runtime.  Copies share the token, and with it the knowledge
whether the object was released. -/
structure ForeignHandle where
  token : Nat
  record : HandleRecord
  deriving DecidableEq, Repr

/-- Two handles name the same object of the same runtime. -/
def ForeignHandle.same (a b : ForeignHandle) : Bool :=
  a.record.handle == b.record.handle && a.record.runtime == b.record.runtime

/-! ## 3. Values and objects -/

mutual

inductive Value where
  | null
  | scalar (s : Scalar)
  | string (w : Width) (text : String)
  | array (items : List Value)
  | object (o : Object)
  | foreign (h : ForeignHandle)
  | callable (c : Callable)

inductive Object where
  | mk (identity : Nat) (content : ObjectContent)

inductive ObjectContent where
  | number (n : UInt32)
  | text (s : String)
  | flag (b : Bool)
  | value (v : Value)
  | function (f : NativeFunction)

end

instance : Inhabited Value := ⟨.null⟩

/-- The types of objects. -/
inductive ObjectType where
  | number | text | flag | value | function
  deriving DecidableEq, Repr

/-- The name of a type of objects in descriptions and texts of errors. -/
def ObjectType.name : ObjectType → String
  | number => "u32"
  | text => "alloc::string::String"
  | flag => "bool"
  | value => "xllr::value::Value"
  | function => "xllr::callable::NativeFunction"

def ObjectContent.type : ObjectContent → ObjectType
  | number _ => .number
  | text _ => .text
  | flag _ => .flag
  | value _ => .value
  | function _ => .function

namespace Object

def identity : Object → Nat
  | mk identity _ => identity

def content : Object → ObjectContent
  | mk _ content => content

def type (o : Object) : ObjectType :=
  o.content.type

/-- The function that an object is. -/
def function? (o : Object) : Option NativeFunction :=
  match o.content with
  | .function f => some f
  | _ => none

/-- Two objects are one. -/
def same (a b : Object) : Bool :=
  a.identity == b.identity

/-- The description of an object in logs. -/
def describe (o : Object) : String :=
  "Object<" ++ o.type.name ++ ">"

/-- A function as an object; the two are one thing and share the identity. -/
def ofFunction (f : NativeFunction) : Object :=
  mk f.identity (.function f)

end Object

/-! ## 4. Views of a value -/

namespace Value

def isNull : Value → Bool
  | null => true
  | _ => false

def items? : Value → Option (List Value)
  | array items => some items
  | _ => none

def text? : Value → Option String
  | string _ text => some text
  | _ => none

def scalar? : Value → Option Scalar
  | scalar s => some s
  | _ => none

def integer? (v : Value) : Option Int := v.scalar?.bind Scalar.integer?

def float? (v : Value) : Option Binary64 := v.scalar?.bind Scalar.float?

def char? (v : Value) : Option Char := v.scalar?.bind Scalar.char?

def bool? (v : Value) : Option Bool := v.scalar?.bind Scalar.bool?

def object? : Value → Option Object
  | object o => some o
  | _ => none

def callable? : Value → Option Callable
  | callable c => some c
  | _ => none

/-- Lengths of the elements of an array of arrays. -/
def rowLengths? (v : Value) : Option (List Nat) :=
  v.items?.bind fun items => items.mapM fun row => row.items?.map List.length

/-! ## 5. Equality -/

mutual

/-- Equality of values.  Floating-point numbers compare as numbers, shared things by identity. -/
def same : Value → Value → Bool
  | null, null => true
  | scalar s, scalar t => s.same t
  | string w s, string x t => w == x && s == t
  | array xs, array ys => sameItems xs ys
  | object a, object b => a.same b
  | foreign a, foreign b => a.same b
  | callable a, callable b => a.same b
  | _, _ => false

/-- Equality of arrays, element by element. -/
def sameItems : List Value → List Value → Bool
  | [], [] => true
  | x :: xs, y :: ys => same x y && sameItems xs ys
  | _, _ => false

end

end Value

end RuntimeBridge
