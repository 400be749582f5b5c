/-
# Character payloads are an exact codec

A payload of four octets, two 16-bit units or one number holds a character just when it begins with
the units of that character; what stands behind them does not count.  So longer forms, sequences
that break off, surrogates on their own and numbers without a character hold none.  The writer puts
zeros behind the units it needs, and the reader gets the character back.

Main statement: `char_codec`, for payloads and for the cells they lie in.
-/
import RuntimeBridge.Cell.Change
import RuntimeBridge.Proofs.Cell.Payload
import RuntimeBridge.Proofs.Text.Decoding
namespace RuntimeBridge

/-! ## 1. Units -/

/-- How many units of this width a payload has. -/
def Width.payloadUnits : Width → Nat
  | .w8 => 4
  | .w16 => 2
  | .w32 => 1

namespace CharPayload

def width : CharPayload → Width
  | octets _ _ _ _ => .w8
  | pair _ _ => .w16
  | number _ => .w32

/-- The units that a character needs, as numbers: its octets in UTF-8, its units in UTF-16, its code
point. -/
def encoding (w : Width) (c : Char) : List Nat :=
  match w with
  | .w8 => (String.utf8EncodeChar c).map UInt8.toNat
  | .w16 =>
    if c.toNat < 0x10000 then [c.toNat]
    else [0xD800 + (c.toNat - 0x10000) / 0x400, 0xDC00 + (c.toNat - 0x10000) % 0x400]
  | .w32 => [c.toNat]

theorem encoding_w8 (c : Char) : encoding .w8 c = (Utf8.encodeChar c).map UInt8.toNat := by
  rw [encoding, Utf8.encodeChar_eq_utf8EncodeChar]

/-- The units of UTF-16 are small enough for 16 bits. -/
theorem encoding_w16 (c : Char) : encoding .w16 c = (Utf16.encodeChar c).map UInt16.toNat := by
  have bounds := char_toNat_bounds c
  simp only [encoding, Utf16.encodeChar]
  split
  · rw [List.map_singleton, toUInt16_toNat ‹_›]
  · rw [List.map_cons, List.map_singleton, toUInt16_toNat (by omega), toUInt16_toNat (by omega)]

theorem width_encode (w : Width) (c : Char) : (encode w c).width = w := by
  cases w <;> rfl

theorem length_units (p : CharPayload) : p.units.length = p.width.payloadUnits := by
  cases p <;> rfl

/-! ## 2. Writing and reading -/

/-- **A written payload is the units of the character, and zeros.** -/
theorem units_encode (w : Width) (c : Char) :
    (encode w c).units =
      encoding w c ++ List.replicate (w.payloadUnits - (encoding w c).length) 0 := by
  cases w with
  | w8 =>
    rw [encoding_w8]
    simp only [encode, units, Utf8.encodeChar]
    split_ifs <;> rfl
  | w16 =>
    rw [encoding_w16]
    simp only [encode, units, Utf16.encodeChar]
    split_ifs <;> rfl
  | w32 => rfl

/-- **A payload holds the character whose units it begins with**, and no other. -/
theorem decode?_eq_some_iff (p : CharPayload) (c : Char) :
    p.decode? = some c ↔ encoding p.width c <+: p.units := by
  cases p with
  | octets a b d e =>
    have numbers : (octets a b d e).units = [a, b, d, e].map UInt8.toNat := rfl
    rw [decode?, Utf8.decodeFirst?_eq_some_iff, width, encoding_w8, numbers,
      List.prefix_map_iff_of_injective fun _ _ => UInt8.toNat_inj.mp]
  | pair a b =>
    have numbers : (pair a b).units = [a, b].map UInt16.toNat := rfl
    rw [decode?, Utf16.decodeFirst?_eq_some_iff, width, encoding_w16, numbers,
      List.prefix_map_iff_of_injective fun _ _ => UInt16.toNat_inj.mp]
  | number a =>
    rw [decode?, CodePoint.char?_eq_some_iff, width, encoding, units, List.cons_prefix_cons]
    simp only [List.nil_prefix, and_true, eq_comm]

theorem ofWord_toWord (p : CharPayload) : ofWord p.width p.toWord = p := by
  cases p with
  | octets a b d e => exact octets_ofWord_toWord a b d e
  | pair a b => exact pair_ofWord_toWord a b
  | number a => exact number_ofWord_toWord a

end CharPayload

/-! ## 3. Cells -/

namespace Cell

/-- The character of a cell, if its tag is one of a character. -/
def char? (c : Cell) : Option Char := c.scalar?.bind Scalar.char?

/-- A character cell with this payload. -/
def ofPayload (p : CharPayload) (owned : Bool) : Cell :=
  plain (.ofKind (.char p.width)) (.word p.toWord) owned

/-- A character cell holds what its payload holds. -/
theorem char?_ofPayload (p : CharPayload) (owned : Bool) :
    (ofPayload p owned).char? = p.decode? := by
  have kind : (ofPayload p owned).tag.kind? = some (.char p.width) := TypeTag.kind?_ofKind _
  have word : (ofPayload p owned).word = p.toWord := rfl
  simp only [char?, scalar?, kind, word, Option.bind_some, Scalar.ofWord?,
    CharPayload.ofWord_toWord]
  cases p.decode? <;> rfl

theorem ofScalar_char (w : Width) (ch : Char) :
    ofScalar (.char w ch) = ofPayload (.encode w ch) false := by
  rw [ofPayload, CharPayload.width_encode]
  rfl

end Cell

/-- **Character payloads are an exact codec** in each width: a character is written as its units with
zeros behind them and is read back; any payload holds exactly the character whose units it begins
with, and none if it begins with the units of none; and so it is with the cells they lie in. -/
theorem char_codec :
    (∀ (w : Width) (ch : Char),
      (CharPayload.encode w ch).decode? = some ch ∧
      (CharPayload.encode w ch).units = CharPayload.encoding w ch ++
        List.replicate (w.payloadUnits - (CharPayload.encoding w ch).length) 0 ∧
      ∀ (c : Cell) (world : World), (CellChange.setScalar (.char w ch)).apply c world =
        ⟨.ok (), .ofPayload (.encode w ch) false, world.freeCell c⟩) ∧
    ∀ p : CharPayload, p.units.length = p.width.payloadUnits ∧
      (∀ ch, p.decode? = some ch ↔ CharPayload.encoding p.width ch <+: p.units) ∧
      (p.decode? = none ↔ ∀ ch, ¬ CharPayload.encoding p.width ch <+: p.units) ∧
      ∀ owned, (Cell.ofPayload p owned).char? = p.decode? := by
  refine ⟨fun w ch => ⟨CharPayload.decode?_encode w ch, CharPayload.units_encode w ch, ?_⟩,
    fun p => ⟨p.length_units, p.decode?_eq_some_iff, ?_, Cell.char?_ofPayload p⟩⟩
  · intro c world
    rw [← Cell.ofScalar_char]
    rfl
  · simp only [Option.eq_none_iff_forall_ne_some, ne_eq, CharPayload.decode?_eq_some_iff]

/-- The longer form of a slash, a low surrogate in front and a number above the characters. -/
example :
    (CharPayload.octets 0xC0 0xAF 0 0).decode? = none ∧
      (CharPayload.pair 0xDE00 0xD83D).decode? = none ∧
      (CharPayload.number 0x110000).decode? = none := by
  decide

end RuntimeBridge
