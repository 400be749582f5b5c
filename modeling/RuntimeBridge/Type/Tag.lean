/-
# Type tags

A tag is a 64-bit word: the bit of a base kind, and the array bit when the value is an array with
leaves of that kind.  The array bit alone is an array of nothing in particular; any other word is
an unknown tag, which has a text but cannot be read back from it.
-/
import RuntimeBridge.Type.Kind
import RuntimeBridge.Text.Blank
namespace RuntimeBridge

structure TypeTag where
  bits : UInt64
  deriving DecidableEq, Repr

namespace TypeTag

/-! ## 1. The array bit -/

/-- The array bit alone. -/
def array : TypeTag := ⟨65536⟩

def isArray (t : TypeTag) : Bool :=
  t.bits &&& array.bits != 0

/-- A tag without its array bit. -/
def base (t : TypeTag) : TypeTag :=
  ⟨t.bits &&& ~~~array.bits⟩

/-- A tag with the array bit. -/
def withArray (t : TypeTag) : TypeTag :=
  ⟨t.bits ||| array.bits⟩

/-! ## 2. Kinds -/

/-- The tag of a base kind. -/
def ofKind (kind : BaseKind) : TypeTag :=
  ⟨kind.bit⟩

/-- The kind of a tag without array bit. -/
def kind? (t : TypeTag) : Option BaseKind :=
  BaseKind.ofBit? t.bits

def any : TypeTag := ofKind .any

def null : TypeTag := ofKind .null

def handle : TypeTag := ofKind .handle

def callable : TypeTag := ofKind .callable

/-- Exactly the tag of `any`; an array of `any` is an array whose leaves differ. -/
def isAny (t : TypeTag) : Bool :=
  t == any

/-- The test `p` holds of the kind of the tag. -/
def hasKind (t : TypeTag) (p : BaseKind → Bool) : Bool :=
  t.kind?.any p

def isNumeric (t : TypeTag) : Bool := t.hasKind BaseKind.isNumeric

def isString (t : TypeTag) : Bool := t.hasKind BaseKind.isString

def isChar (t : TypeTag) : Bool := t.hasKind BaseKind.isChar

def isScalar (t : TypeTag) : Bool := t.hasKind BaseKind.isScalar

/-- The name of the base kind. -/
def name? (t : TypeTag) : Option String :=
  t.base.kind?.map BaseKind.name

/-- Tags made of a base kind, an array bit, or both. -/
def isKnown (t : TypeTag) : Bool :=
  (t.isArray && t.base.bits == 0) || t.base.kind?.isSome

theorem kind?_ofKind (kind : BaseKind) : (ofKind kind).kind? = some kind :=
  BaseKind.ofBit?_bit kind

/-! ## 3. Text -/

/-- The ending of the names of array tags. -/
def arrayEnding : String := "_array"

/-- The text of a tag. -/
def toText (t : TypeTag) : String :=
  match t.name?, t.isArray with
  | some name, true => name ++ arrayEnding
  | some name, false => name
  | none, true => if t.base.bits == 0 then "array" else "unknown(" ++ t.bits.toNat.repr ++ ")"
  | none, false => "unknown(" ++ t.bits.toNat.repr ++ ")"

/-- A list without `ending`, if it ends so. -/
def stripEnding? (ending cs : List Char) : Option (List Char) :=
  if ending.isSuffixOf cs then some (cs.take (cs.length - ending.length)) else none

/-- The kind that a base name stands for; three short names stand beside the kinds' own. -/
def kindOfText? (s : String) : Option BaseKind :=
  if s == "string" then some (.string .w8)
  else if s == "float" then some .float64
  else if s == "int" then some (.int .int64)
  else BaseKind.ofName? s

/-- The text in the form in which names are compared: without blanks around it, in small
letters. -/
def normalizeName (s : String) : String :=
  lowerAscii (trim s)

/-- The tag that a text names. -/
def ofText? (s : String) : Option TypeTag :=
  let name := normalizeName s
  if name == "array" then some array
  else
    match stripEnding? arrayEnding.toList name.toList with
    | some front => (kindOfText? (String.ofList front)).map fun kind => (ofKind kind).withArray
    | none => (kindOfText? name).map ofKind

end TypeTag

end RuntimeBridge
