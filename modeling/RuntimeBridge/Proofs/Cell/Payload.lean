/-
# Payloads are read back

What a cell holds of a scalar or a text is read back by a reader who knows the kind: the word of a
scalar (`Scalar.ofWord?_toWord`) and the buffer of a text without NUL (`TextBuffer.text?_ofText`).
-/
import RuntimeBridge.Cell.Basic
import RuntimeBridge.Proofs.Text.Encoding
namespace RuntimeBridge

/-! ## 1. Characters -/

namespace CharPayload

/-- Four octets hold the octets of a character, with zeros behind them. -/
theorem octets_eq_append (c : Char) :
    ∃ rest, [(Utf8.encodeChar c).getD 0 0, (Utf8.encodeChar c).getD 1 0,
      (Utf8.encodeChar c).getD 2 0, (Utf8.encodeChar c).getD 3 0] = Utf8.encodeChar c ++ rest := by
  simp only [Utf8.encodeChar]
  split
  · exact ⟨[0, 0, 0], rfl⟩
  · split
    · exact ⟨[0, 0], rfl⟩
    · split
      · exact ⟨[0], rfl⟩
      · exact ⟨[], rfl⟩

/-- Two units hold the units of a character, with a zero behind a single one. -/
theorem pair_eq_append (c : Char) :
    ∃ rest, [(Utf16.encodeChar c).getD 0 0, (Utf16.encodeChar c).getD 1 0] =
      Utf16.encodeChar c ++ rest := by
  simp only [Utf16.encodeChar]
  split
  · exact ⟨[0], rfl⟩
  · exact ⟨[], rfl⟩

/-- **Characters are read back** in every width. -/
theorem decode?_encode (w : Width) (c : Char) : (encode w c).decode? = some c := by
  cases w with
  | w8 =>
    obtain ⟨rest, units⟩ := octets_eq_append c
    simp only [encode, decode?, units, Utf8.decodeFirst?_encodeChar]
  | w16 =>
    obtain ⟨rest, units⟩ := pair_eq_append c
    simp only [encode, decode?, units, Utf16.decodeFirst?_encodeChar]
  | w32 => exact CodePoint.char?_toNat c

theorem octets_ofWord_toWord (a b c d : UInt8) :
    ofWord .w8 (octets a b c d).toWord = octets a b c d := by
  have ha := a.toNat_lt
  have hb := b.toNat_lt
  have hc := c.toNat_lt
  have hd := d.toNat_lt
  simp only [ofWord, toWord, octets.injEq, ← UInt8.toNat_inj, UInt64.toNat_ofNat',
    Nat.toUInt8, UInt8.toNat_ofNat']
  omega

theorem pair_ofWord_toWord (a b : UInt16) : ofWord .w16 (pair a b).toWord = pair a b := by
  have ha := a.toNat_lt
  have hb := b.toNat_lt
  simp only [ofWord, toWord, pair.injEq, ← UInt16.toNat_inj, UInt64.toNat_ofNat',
    Nat.toUInt16, UInt16.toNat_ofNat']
  omega

theorem number_ofWord_toWord (a : UInt32) : ofWord .w32 (number a).toWord = number a := by
  have ha := a.toNat_lt
  simp only [ofWord, toWord, number.injEq, ← UInt32.toNat_inj, UInt64.toNat_ofNat',
    Nat.toUInt32, UInt32.toNat_ofNat']
  omega

/-- The units of a character survive in a word. -/
theorem ofWord_toWord_encode (w : Width) (c : Char) :
    ofWord w (encode w c).toWord = encode w c := by
  cases w with
  | w8 => exact octets_ofWord_toWord _ _ _ _
  | w16 => exact pair_ofWord_toWord _ _
  | w32 => exact number_ofWord_toWord _

end CharPayload

/-! ## 2. Scalars -/

/-- **Scalars are read back**: the word of a scalar is that scalar to a reader of its kind. -/
theorem Scalar.ofWord?_toWord (s : Scalar) : ofWord? s.kind s.toWord = some s := by
  cases s with
  | int k n => simp only [kind, toWord, ofWord?, Fixed.ofWord_toWord]
  | float64 x => rfl
  | float32 x =>
    have word : (UInt64.ofNat x.pattern.toNat).toUInt32 = x.pattern := by
      have := x.pattern.toNat_lt
      simp only [← UInt32.toNat_inj, UInt64.toNat_toUInt32, UInt64.toNat_ofNat']
      omega
    simp only [kind, toWord, ofWord?, word]
  | bool b => cases b <;> rfl
  | char w c =>
    simp only [kind, toWord, ofWord?, CharPayload.ofWord_toWord_encode,
      CharPayload.decode?_encode, Option.map_some]

/-! ## 3. Texts -/

/-- What stands before the first zero of units without zeros and a zero behind them. -/
theorem takeWhile_ne_append_zero {α : Type} [BEq α] [LawfulBEq α] [Zero α] {units : List α}
    (h : ∀ u ∈ units, u ≠ 0) : (units ++ [0]).takeWhile (· != 0) = units := by
  rw [List.takeWhile_append_of_pos (by simpa using h), List.takeWhile_cons_of_neg (by simp),
    List.append_nil]

theorem holdsNul_eq_false_iff (s : String) : holdsNul s = false ↔ ∀ c ∈ s.toList, c ≠ '\x00' := by
  simp [holdsNul]

/-- **Texts without NUL are read back** in every width. -/
theorem TextBuffer.text?_ofText (w : Width) {s : String} (h : holdsNul s = false) :
    (ofText w s).text? = some s := by
  rw [holdsNul_eq_false_iff] at h
  cases w with
  | w8 =>
    have nonzero : ∀ u ∈ Utf8.encode s, u ≠ 0 := by
      intro u mem
      obtain ⟨c, hc, hu⟩ := List.mem_flatMap.mp mem
      exact Utf8.ne_zero_of_mem_encodeChar (h c hc) u hu
    simp only [ofText, text?, visible, takeWhile_ne_append_zero nonzero, Utf8.decode?_encode]
  | w16 =>
    have nonzero : ∀ u ∈ Utf16.encode s, u ≠ 0 := by
      intro u mem
      obtain ⟨c, hc, hu⟩ := List.mem_flatMap.mp mem
      exact Utf16.ne_zero_of_mem_encodeChar (h c hc) u hu
    simp only [ofText, text?, visible, takeWhile_ne_append_zero nonzero, Utf16.decode?_encode]
  | w32 =>
    have nonzero : ∀ u ∈ CodePoint.encode s, u ≠ 0 := by
      intro u mem
      obtain ⟨c, hc, rfl⟩ := List.mem_map.mp mem
      exact CodePoint.val_ne_zero (h c hc)
    simp only [ofText, text?, visible, takeWhile_ne_append_zero nonzero, CodePoint.decode?_encode]

theorem TextBuffer.width_ofText (w : Width) (s : String) : (ofText w s).width = w := by
  cases w <;> rfl

end RuntimeBridge
