/-
# Binary floating point

Floating-point values are carried as their bit patterns, in the two IEEE 754 formats binary32 and
binary64.  A pattern decodes to a datum: a signed multiple of a power of two, an infinity, or no
number.  Rounding goes the other way: to the nearest value of a format, ties to the even one.

Three conversions are built from the two: binary32 to binary64 (exact), binary64 to binary32, and
integer to binary64.
-/
namespace RuntimeBridge

/-! ## 1. Formats -/

/-- Widths of the two fields behind the sign bit. -/
structure BinaryFormat where
  fractionBits : Nat
  exponentBits : Nat
  deriving DecidableEq, Repr

namespace BinaryFormat

def binary32 : BinaryFormat := ⟨23, 8⟩

def binary64 : BinaryFormat := ⟨52, 11⟩

/-- Exponent fields of infinities and of patterns that are no number. -/
def topExponent (f : BinaryFormat) : Nat :=
  Nat.pow 2 f.exponentBits - 1

/-- Power of two of the last fraction bit of the least values of the format. -/
def leastPower (f : BinaryFormat) : Int :=
  2 - ((Nat.pow 2 (f.exponentBits - 1) : Nat) : Int) - f.fractionBits

/-- The pattern of the positive infinity. -/
def infinity (f : BinaryFormat) : Nat :=
  f.topExponent * Nat.pow 2 f.fractionBits

/-- The bit that marks a pattern as negative. -/
def signBit (f : BinaryFormat) : Nat :=
  Nat.pow 2 (f.fractionBits + f.exponentBits)

end BinaryFormat

/-! ## 2. Decoding -/

/-- What a pattern stands for; `finite s m q` is the number `m · 2^q`, negative when `s` holds. -/
inductive BinaryDatum where
  | finite (negative : Bool) (significand : Nat) (power : Int)
  | infinite (negative : Bool)
  | noNumber (negative : Bool) (payload : Nat)
  deriving DecidableEq, Repr

/-- The datum of a bit pattern of format `f`. -/
def BinaryFormat.decode (f : BinaryFormat) (pattern : Nat) : BinaryDatum :=
  let negative := pattern / f.signBit % 2 == 1
  let exponent := pattern / Nat.pow 2 f.fractionBits % Nat.pow 2 f.exponentBits
  let fraction := pattern % Nat.pow 2 f.fractionBits
  if exponent == f.topExponent then
    if fraction == 0 then .infinite negative else .noNumber negative fraction
  else if exponent == 0 then
    .finite negative fraction f.leastPower
  else
    .finite negative (Nat.pow 2 f.fractionBits + fraction) (f.leastPower + (exponent - 1))

/-! ## 3. Rounding -/

/-- `m / 2^d` rounded to the nearest natural number, ties to the even one. -/
def divPowRounded (m d : Nat) : Nat :=
  let low := m / Nat.pow 2 d
  let rest := 2 * (m % Nat.pow 2 d)
  if rest < Nat.pow 2 d ∨ (rest = Nat.pow 2 d ∧ low % 2 = 0) then low else low + 1

/-- The pattern of the positive value of format `f` nearest to `m · 2^q`.

The unit is the last place that the format offers for a number of this size.  Significands below
`2 ^ fractionBits` occur only at the least power, where the exponent field is zero; any other
significand carries its leading bit into the exponent field, as does one that rounding made a
power of two. -/
def BinaryFormat.roundMagnitude (f : BinaryFormat) (m : Nat) (q : Int) : Nat :=
  if m = 0 then 0
  else
    let unit := max f.leastPower (q + (Nat.log2 m : Int) - f.fractionBits)
    let significand :=
      if unit ≤ q then m * Nat.pow 2 (q - unit).toNat else divPowRounded m (unit - q).toNat
    min f.infinity ((unit - f.leastPower).toNat * Nat.pow 2 f.fractionBits + significand)

/-- The pattern of format `f` for a datum: the nearest value, an infinity of the same sign, or a
quiet pattern that is no number and keeps the leading bits of the payload. -/
def BinaryFormat.encode (f : BinaryFormat) (sourceFractionBits : Nat) : BinaryDatum → Nat
  | .finite negative m q => (if negative then f.signBit else 0) + f.roundMagnitude m q
  | .infinite negative => (if negative then f.signBit else 0) + f.infinity
  | .noNumber negative payload =>
    let scaled := payload * Nat.pow 2 f.fractionBits / Nat.pow 2 sourceFractionBits
    let quiet := Nat.pow 2 (f.fractionBits - 1)
    (if negative then f.signBit else 0) + f.infinity + (quiet + scaled % quiet)

/-! ## 4. The two formats as types -/

/-- A binary64 value, by its bit pattern. -/
structure Binary64 where
  pattern : UInt64
  deriving DecidableEq, Repr

/-- A binary32 value, by its bit pattern. -/
structure Binary32 where
  pattern : UInt32
  deriving DecidableEq, Repr

namespace Binary64

def datum (x : Binary64) : BinaryDatum :=
  BinaryFormat.binary64.decode x.pattern.toNat

def isNoNumber (x : Binary64) : Bool :=
  match x.datum with
  | .noNumber _ _ => true
  | _ => false

/-- The nearest binary64 value of an integer. -/
def ofInt (n : Int) : Binary64 :=
  ⟨UInt64.ofNat (BinaryFormat.binary64.encode 52 (.finite (n < 0) n.natAbs 0))⟩

/-- Numeric equality: a pattern that is no number equals nothing, and the two zeros are equal. -/
def sameNumber (x y : Binary64) : Bool :=
  match x.datum, y.datum with
  | .noNumber _ _, _ => false
  | _, .noNumber _ _ => false
  | .finite _ 0 _, .finite _ 0 _ => true
  | _, _ => x == y

end Binary64

namespace Binary32

def datum (x : Binary32) : BinaryDatum :=
  BinaryFormat.binary32.decode x.pattern.toNat

def isNoNumber (x : Binary32) : Bool :=
  match x.datum with
  | .noNumber _ _ => true
  | _ => false

/-- Numeric equality: a pattern that is no number equals nothing, and the two zeros are equal. -/
def sameNumber (x y : Binary32) : Bool :=
  match x.datum, y.datum with
  | .noNumber _ _, _ => false
  | _, .noNumber _ _ => false
  | .finite _ 0 _, .finite _ 0 _ => true
  | _, _ => x == y

end Binary32

/-- The binary64 value of a binary32 value. -/
def Binary32.widen (x : Binary32) : Binary64 :=
  ⟨UInt64.ofNat (BinaryFormat.binary64.encode 23 x.datum)⟩

/-- The binary32 value nearest to a binary64 value. -/
def Binary64.narrow (x : Binary64) : Binary32 :=
  ⟨UInt32.ofNat (BinaryFormat.binary32.encode 52 x.datum)⟩

end RuntimeBridge
