/-
# Signatures as C descriptors

Another runtime gets a signature as an array of descriptors and a signed 8-bit count.  The alias is
a C string, so an alias that holds NUL has none.  Types come back from descriptors in one normal
form: scalars, which many runtimes declare with a negative number of dimensions, have none.
-/
import RuntimeBridge.Error.Basic
import RuntimeBridge.Text.Utf8
namespace RuntimeBridge

structure TypeDescriptor where
  tag : TypeTag
  /-- Octets of the alias; it ends at the first zero. -/
  aliasName : Option (List UInt8)
  /-- The receiver has to free the alias. -/
  freeAlias : Bool
  dimensions : Int
  deriving DecidableEq, Repr

namespace TypeDescriptor

/-- The descriptor of a type. -/
def ofInfo (t : TypeInfo) : TypeDescriptor where
  tag := t.tag
  aliasName :=
    t.aliasName.bind fun a => if a.toList.any (· == '\x00') then none else some (Utf8.encode a)
  freeAlias := false
  dimensions := t.dimensions

/-- The type that a descriptor declares. -/
def toInfo (d : TypeDescriptor) : TypeInfo where
  tag := d.tag
  aliasName := d.aliasName.map fun octets => Utf8.decodeLossy (octets.takeWhile (· != 0))
  dimensions := if !d.tag.isArray && d.dimensions < 0 then 0 else d.dimensions

/-- The descriptors of a signature, unless it is longer than the count can say. -/
def pack (types : List TypeInfo) : Except MarshalError (List TypeDescriptor) :=
  match signatureCount? types.length with
  | .ok _ => .ok (types.map ofInfo)
  | .error e => .error e

/-- The signature in the first `count` descriptors; none behind the null pointer. -/
def unpack (descriptors : Option (List TypeDescriptor)) (count : Int) : List TypeInfo :=
  match descriptors with
  | none => []
  | some ds => (ds.take count.toNat).map toInfo

end TypeDescriptor

end RuntimeBridge
