/-
# Characters in a cell

A character lies in the cell itself, as the code units of its width: four octets, two 16-bit units
or one 32-bit number, with zeros behind the units it needs.  Reading looks at as many units as the
first one announces and ignores the rest.
-/
import RuntimeBridge.Type.Kind
import RuntimeBridge.Text.Utf8
import RuntimeBridge.Text.Utf16
import RuntimeBridge.Text.CodePoint
namespace RuntimeBridge

inductive CharPayload where
  | octets (a b c d : UInt8)
  | pair (a b : UInt16)
  | number (a : UInt32)
  deriving DecidableEq, Repr

namespace CharPayload

/-! ## 1. Characters -/

/-- The units of a character, padded with zeros. -/
def encode : Width → Char → CharPayload
  | .w8, ch =>
    let units := Utf8.encodeChar ch
    .octets (units.getD 0 0) (units.getD 1 0) (units.getD 2 0) (units.getD 3 0)
  | .w16, ch =>
    let units := Utf16.encodeChar ch
    .pair (units.getD 0 0) (units.getD 1 0)
  | .w32, ch => .number ch.val

/-- The character whose units the payload begins with. -/
def decode? : CharPayload → Option Char
  | .octets a b c d => Utf8.decodeFirst? [a, b, c, d]
  | .pair a b => Utf16.decodeFirst? [a, b]
  | .number a => CodePoint.char? a.toNat

/-! ## 2. Units -/

/-- All units of the payload, padding included. -/
def units : CharPayload → List Nat
  | .octets a b c d => [a.toNat, b.toNat, c.toNat, d.toNat]
  | .pair a b => [a.toNat, b.toNat]
  | .number a => [a.toNat]

/-- The payload with these units, zeros where there are too few. -/
def ofUnits : Width → List Nat → CharPayload
  | .w8, us =>
    .octets (us.getD 0 0).toUInt8 (us.getD 1 0).toUInt8 (us.getD 2 0).toUInt8 (us.getD 3 0).toUInt8
  | .w16, us => .pair (us.getD 0 0).toUInt16 (us.getD 1 0).toUInt16
  | .w32, us => .number (us.getD 0 0).toUInt32

/-! ## 3. Words -/

/-- The payload as the low half of a word, first unit lowest. -/
def toWord : CharPayload → UInt64
  | .octets a b c d =>
    UInt64.ofNat (a.toNat + b.toNat * 0x100 + c.toNat * 0x10000 + d.toNat * 0x1000000)
  | .pair a b => UInt64.ofNat (a.toNat + b.toNat * 0x10000)
  | .number a => UInt64.ofNat a.toNat

/-- The payload in the low half of a word. -/
def ofWord (w : Width) (word : UInt64) : CharPayload :=
  let n := word.toNat
  match w with
  | .w8 =>
    .octets n.toUInt8 (n / 0x100).toUInt8 (n / 0x10000).toUInt8 (n / 0x1000000).toUInt8
  | .w16 => .pair n.toUInt16 (n / 0x10000).toUInt16
  | .w32 => .number n.toUInt32

end CharPayload

end RuntimeBridge
