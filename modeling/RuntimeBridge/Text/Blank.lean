/-
# Blanks

Names, paths and their parts are read without the blanks around them.  A blank is a character with
the Unicode property White_Space.
-/
namespace RuntimeBridge

/-! ## 1. The class -/

/-- The characters with the property White_Space. -/
def isBlank (c : Char) : Bool :=
  let n := c.toNat
  (0x09 ≤ n && n ≤ 0x0D) || n == 0x20 || n == 0x85 || n == 0xA0 || n == 0x1680 ||
    (0x2000 ≤ n && n ≤ 0x200A) || n == 0x2028 || n == 0x2029 || n == 0x202F || n == 0x205F ||
    n == 0x3000

/-! ## 2. Trimming -/

/-- The characters without the blanks around them. -/
def trimChars (cs : List Char) : List Char :=
  ((cs.dropWhile isBlank).reverse.dropWhile isBlank).reverse

/-- A text without the blanks around it. -/
def trim (s : String) : String :=
  String.ofList (trimChars s.toList)

/-! ## 3. Letter case -/

/-- An ASCII capital becomes its small letter, any other character stays. -/
def lowerAscii (s : String) : String :=
  String.ofList (s.toList.map Char.toLower)

/-- Equality of texts that takes no notice of the case of ASCII letters. -/
def sameIgnoringCase (s t : String) : Bool :=
  lowerAscii s == lowerAscii t

end RuntimeBridge
