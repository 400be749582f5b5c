/-
# Code points

The third way to write a text: one 32-bit number for each character.  A number in the surrogate
range or above U+10FFFF is no character.
-/
namespace RuntimeBridge.CodePoint

/-- The character with this number, if there is one. -/
def char? (n : Nat) : Option Char :=
  if n < 0xD800 ∨ 0xDFFF < n ∧ n < 0x110000 then some (Char.ofNat n) else none

/-- The numbers of the characters of a text. -/
def encode (s : String) : List UInt32 :=
  s.toList.map fun c => c.val

/-- The characters with these numbers, if all of them are characters. -/
def decodeChars? (units : List UInt32) : Option (List Char) :=
  units.mapM fun u => char? u.toNat

/-- The text with these numbers, if all of them are characters. -/
def decode? (units : List UInt32) : Option String :=
  (decodeChars? units).map String.ofList

/-- Every character is found under its own number. -/
theorem char?_toNat (c : Char) : char? c.toNat = some c := by
  have valid : c.toNat < 0xD800 ∨ 0xDFFF < c.toNat ∧ c.toNat < 0x110000 := c.valid
  simp [char?, valid]

end RuntimeBridge.CodePoint
