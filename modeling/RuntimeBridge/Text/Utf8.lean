/-
# UTF-8: octets of characters, and back

A text crosses a runtime boundary as octets.  Reading octets cuts them into CHUNKS: a chunk is
either the one to four octets of a character, or the octets of the longest beginning of a
character that breaks off.  Both readers are read off the chunks:

* `decode?` accepts exactly the octets without a broken chunk;
* `decodeLossy` puts U+FFFD in place of each broken chunk.
-/
namespace RuntimeBridge.Utf8

/-! ## 1. Encoding -/

/-- The octets of one character, lead octet first. -/
def encodeChar (c : Char) : List UInt8 :=
  let n := c.toNat
  if n < 0x80 then
    [n.toUInt8]
  else if n < 0x800 then
    [(0xC0 + n / 0x40).toUInt8, (0x80 + n % 0x40).toUInt8]
  else if n < 0x10000 then
    [(0xE0 + n / 0x1000).toUInt8, (0x80 + n / 0x40 % 0x40).toUInt8, (0x80 + n % 0x40).toUInt8]
  else
    [(0xF0 + n / 0x40000).toUInt8, (0x80 + n / 0x1000 % 0x40).toUInt8,
      (0x80 + n / 0x40 % 0x40).toUInt8, (0x80 + n % 0x40).toUInt8]

/-- The octets of a list of characters, one after the other. -/
def encodeChars (cs : List Char) : List UInt8 :=
  cs.flatMap encodeChar

/-- The octets of a text. -/
def encode (s : String) : List UInt8 :=
  encodeChars s.toList

theorem encodeChars_cons (c : Char) (cs : List Char) :
    encodeChars (c :: cs) = encodeChar c ++ encodeChars cs := rfl

/-! ## 2. Chunks -/

/-- Octets that may stand behind a lead octet. -/
def isTail (b : UInt8) : Bool :=
  0x80 ≤ b && b ≤ 0xBF

/-- Octets that may stand second behind lead `a`: a shorter form would have done below the range
of `E0` and `F0`, and above the range of `ED` and `F4` no character lies. -/
def isSecond (a b : UInt8) : Bool :=
  (if a = 0xE0 then 0xA0 else if a = 0xF0 then 0x90 else 0x80) ≤ b &&
    b ≤ (if a = 0xED then 0x9F else if a = 0xF4 then 0x8F else 0xBF)

/-- The low six bits of an octet. -/
def tailBits (b : UInt8) : Nat :=
  b.toNat % 0x40

/-- The first chunk of `a :: rest`: its character, or nothing when it breaks off, and the number
of octets it takes. -/
def chunk (a : UInt8) (rest : List UInt8) : Option Char × Nat :=
  if a < 0x80 then
    (some (Char.ofNat a.toNat), 1)
  else if 0xC2 ≤ a && a ≤ 0xDF then
    match rest with
    | b :: _ =>
      if isTail b then (some (Char.ofNat (a.toNat % 0x20 * 0x40 + tailBits b)), 2) else (none, 1)
    | [] => (none, 1)
  else if 0xE0 ≤ a && a ≤ 0xEF then
    match rest with
    | b :: more =>
      if isSecond a b then
        match more with
        | c :: _ =>
          if isTail c then
            (some (Char.ofNat (a.toNat % 0x10 * 0x1000 + tailBits b * 0x40 + tailBits c)), 3)
          else (none, 2)
        | [] => (none, 2)
      else (none, 1)
    | [] => (none, 1)
  else if 0xF0 ≤ a && a ≤ 0xF4 then
    match rest with
    | b :: more =>
      if isSecond a b then
        match more with
        | c :: most =>
          if isTail c then
            match most with
            | d :: _ =>
              if isTail d then
                (some (Char.ofNat (a.toNat % 0x08 * 0x40000 + tailBits b * 0x1000 +
                  tailBits c * 0x40 + tailBits d)), 4)
              else (none, 3)
            | [] => (none, 3)
          else (none, 2)
        | [] => (none, 2)
      else (none, 1)
    | [] => (none, 1)
  else
    (none, 1)

/-- The chunks of the octets behind the first `skip`. -/
def chunksAfter : Nat → List UInt8 → List (Option Char)
  | _, [] => []
  | skip + 1, _ :: rest => chunksAfter skip rest
  | 0, a :: rest =>
    let found := chunk a rest
    found.1 :: chunksAfter (found.2 - 1) rest

/-- The chunks of a run of octets, in order. -/
def chunks (octets : List UInt8) : List (Option Char) :=
  chunksAfter 0 octets

theorem chunks_nil : chunks [] = [] := rfl

theorem chunksAfter_append (front rest : List UInt8) :
    chunksAfter front.length (front ++ rest) = chunks rest := by
  induction front with
  | nil => cases rest <;> rfl
  | cons a front ih => simpa [chunksAfter] using ih

/-! ## 3. Readers -/

/-- The characters of octets that hold no broken chunk. -/
def decodeChars? (octets : List UInt8) : Option (List Char) :=
  (chunks octets).mapM id

/-- The text of octets that hold no broken chunk. -/
def decode? (octets : List UInt8) : Option String :=
  (decodeChars? octets).map String.ofList

/-- The text of any octets, with U+FFFD for each broken chunk. -/
def decodeLossy (octets : List UInt8) : String :=
  String.ofList ((chunks octets).map fun found => found.getD '\uFFFD')

/-- The character that the octets begin with, if they begin with one. -/
def decodeFirst? : List UInt8 → Option Char
  | [] => none
  | a :: rest => (chunk a rest).1

end RuntimeBridge.Utf8
