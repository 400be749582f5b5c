/-
# Declared types and signatures

A declared type is a tag with an optional alias, which is a note for readers only, and a number of
array dimensions.  A signature is a list of declared types.
-/
import RuntimeBridge.Type.Tag
namespace RuntimeBridge

/-- Dimensions of an array that is ragged, mixed or not known. -/
def mixedDimensions : Int := -1

/-! ## 1. Declared types -/

structure TypeInfo where
  tag : TypeTag
  aliasName : Option String := none
  dimensions : Int := 0
  deriving DecidableEq, Repr

namespace TypeInfo

/-- A declared type without alias and dimensions. -/
def ofTag (tag : TypeTag) : TypeInfo := { tag }

/-- An array with leaves of `leaf`. -/
def ofArray (leaf : TypeTag) (dimensions : Int) : TypeInfo :=
  { tag := leaf.withArray, dimensions }

def isAny (t : TypeInfo) : Bool := t.tag.isAny

/-- Agreement of tag and dimensions; aliases do not count. -/
def agrees (expected requested : TypeInfo) : Bool :=
  expected.tag == requested.tag && expected.dimensions == requested.dimensions

/-- The tag that the type has on the wire: one with dimensions is an array. -/
def wireTag (t : TypeInfo) : TypeTag :=
  if t.dimensions > 0 then t.tag.withArray else t.tag

/-- The text of a declared type: tag, dimensions unless zero, alias if there is one. -/
def toText (t : TypeInfo) : String :=
  t.tag.toText ++
    (if t.dimensions == 0 then "" else "[" ++ toString t.dimensions ++ "]") ++
    (match t.aliasName with
    | none => ""
    | some name => " (" ++ name ++ ")")

end TypeInfo

/-! ## 2. Signatures -/

/-- Agreement position by position. -/
def signaturesAgree (expected requested : List TypeInfo) : Bool :=
  expected.length == requested.length &&
    (expected.zip requested).all fun pair => pair.1.agrees pair.2

/-- The text of a signature. -/
def signatureText (types : List TypeInfo) : String :=
  "(" ++ ", ".intercalate (types.map TypeInfo.toText) ++ ")"

/-- The greatest length of a signature on the wire. -/
def signatureLimit : Nat := 127

end RuntimeBridge
