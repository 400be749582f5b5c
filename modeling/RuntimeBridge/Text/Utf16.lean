/-
# UTF-16: units of characters, and back

A character below U+10000 is one unit, any other a high surrogate and a low surrogate.  Reading is
strict: a surrogate outside such a pair stands for nothing, and there is no text for its units.
-/
namespace RuntimeBridge.Utf16

/-! ## 1. Encoding -/

/-- The one or two units of a character. -/
def encodeChar (c : Char) : List UInt16 :=
  let n := c.toNat
  if n < 0x10000 then
    [n.toUInt16]
  else
    [(0xD800 + (n - 0x10000) / 0x400).toUInt16, (0xDC00 + (n - 0x10000) % 0x400).toUInt16]

/-- The units of a list of characters, one after the other. -/
def encodeChars (cs : List Char) : List UInt16 :=
  cs.flatMap encodeChar

/-- The units of a text. -/
def encode (s : String) : List UInt16 :=
  encodeChars s.toList

theorem encodeChars_cons (c : Char) (cs : List Char) :
    encodeChars (c :: cs) = encodeChar c ++ encodeChars cs := rfl

/-! ## 2. Decoding -/

/-- Units that open a pair. -/
def isHigh (u : UInt16) : Bool :=
  0xD800 ≤ u && u ≤ 0xDBFF

/-- Units that close a pair. -/
def isLow (u : UInt16) : Bool :=
  0xDC00 ≤ u && u ≤ 0xDFFF

/-- The character of a pair. -/
def pairChar (high low : UInt16) : Char :=
  Char.ofNat (0x10000 + high.toNat % 0x400 * 0x400 + low.toNat % 0x400)

/-- The characters of units in which every surrogate belongs to a pair. -/
def decodeChars? : List UInt16 → Option (List Char)
  | [] => some []
  | u :: rest =>
    if isHigh u then
      match rest with
      | v :: more => if isLow v then (decodeChars? more).map (pairChar u v :: ·) else none
      | [] => none
    else if isLow u then none
    else (decodeChars? rest).map (Char.ofNat u.toNat :: ·)

/-- The text of units in which every surrogate belongs to a pair. -/
def decode? (units : List UInt16) : Option String :=
  (decodeChars? units).map String.ofList

/-- The character that the units begin with, if they begin with one. -/
def decodeFirst? : List UInt16 → Option Char
  | [] => none
  | u :: rest =>
    if isHigh u then
      match rest with
      | v :: _ => if isLow v then some (pairChar u v) else none
      | [] => none
    else if isLow u then none
    else some (Char.ofNat u.toNat)

end RuntimeBridge.Utf16
