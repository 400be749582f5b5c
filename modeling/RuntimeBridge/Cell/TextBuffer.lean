/-
# Text buffers

A text lies outside its cell in a buffer of code units that ends with a zero.  What follows the
first zero is not part of the text, so a text that holds NUL has no buffer.
-/
import RuntimeBridge.Type.Kind
import RuntimeBridge.Text.Utf8
import RuntimeBridge.Text.Utf16
import RuntimeBridge.Text.CodePoint
namespace RuntimeBridge

inductive TextBuffer where
  | octets (units : List UInt8)
  | pairs (units : List UInt16)
  | numbers (units : List UInt32)
  deriving DecidableEq, Repr

/-- NUL occurs in the text. -/
def holdsNul (s : String) : Bool :=
  s.toList.any fun c => c == '\x00'

namespace TextBuffer

def width : TextBuffer → Width
  | octets _ => .w8
  | pairs _ => .w16
  | numbers _ => .w32

/-- The units of a text, and a zero. -/
def ofText (w : Width) (s : String) : TextBuffer :=
  match w with
  | .w8 => octets (Utf8.encode s ++ [0])
  | .w16 => pairs (Utf16.encode s ++ [0])
  | .w32 => numbers (CodePoint.encode s ++ [0])

/-- A buffer with these units, and a zero behind them. -/
def ofUnits (w : Width) (us : List Nat) : TextBuffer :=
  match w with
  | .w8 => octets (us.map Nat.toUInt8 ++ [0])
  | .w16 => pairs (us.map Nat.toUInt16 ++ [0])
  | .w32 => numbers (us.map Nat.toUInt32 ++ [0])

/-- The units before the first zero. -/
def visible : TextBuffer → TextBuffer
  | octets us => octets (us.takeWhile (· != 0))
  | pairs us => pairs (us.takeWhile (· != 0))
  | numbers us => numbers (us.takeWhile (· != 0))

/-- The units before the first zero, as numbers. -/
def visibleUnits (b : TextBuffer) : List Nat :=
  match b.visible with
  | octets us => us.map UInt8.toNat
  | pairs us => us.map UInt16.toNat
  | numbers us => us.map UInt32.toNat

/-- The text of the buffer, unless its units are no text. -/
def text? (b : TextBuffer) : Option String :=
  match b.visible with
  | octets us => Utf8.decode? us
  | pairs us => Utf16.decode? us
  | numbers us => CodePoint.decode? us

end TextBuffer

end RuntimeBridge
