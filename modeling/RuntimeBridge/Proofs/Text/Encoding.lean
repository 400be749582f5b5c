/-
# Encodings are read back

Each of the three ways to write a text gives the text back to its own reader.  For UTF-8 and UTF-16
the argument is per character: the units of one character, whatever follows them, are read as that
character and leave what follows.

* `Utf8.decode?_encode`, `Utf16.decode?_encode`, `CodePoint.decode?_encode`: strict readers;
* `Utf8.decodeLossy_encode`: the repairing reader has nothing to repair;
* `Message.take_octets`: a message crosses an error slot with a blank for each NUL.
-/
import Mathlib.Data.List.TakeWhile
import RuntimeBridge.Text.Message
import RuntimeBridge.Text.Utf16
import RuntimeBridge.Text.CodePoint
namespace RuntimeBridge

/-! ## 1. Numbers of characters and units -/

theorem toUInt8_toNat {n : Nat} (h : n < 0x100) : n.toUInt8.toNat = n := by
  simpa using Nat.mod_eq_of_lt h

theorem toUInt16_toNat {n : Nat} (h : n < 0x10000) : n.toUInt16.toNat = n := by
  simpa using Nat.mod_eq_of_lt h

/-- The number of a character lies outside the surrogates and below U+110000. -/
theorem char_toNat_bounds (c : Char) :
    c.toNat < 0xD800 ∨ 0xDFFF < c.toNat ∧ c.toNat < 0x110000 := c.valid

/-- NUL is the character with the number zero. -/
theorem eq_nul_iff (c : Char) : c = '\x00' ↔ c.toNat = 0 := by
  constructor
  · rintro rfl
    rfl
  · intro h
    rw [← Char.ofNat_toNat c, h]

/-! ## 2. UTF-8 -/

namespace Utf8

theorem isTail_iff (b : UInt8) : isTail b = true ↔ 0x80 ≤ b.toNat ∧ b.toNat ≤ 0xBF := by
  simp [isTail, UInt8.le_iff_toNat_le]

/-- An octet with six bits behind the mark of a tail is a tail, and holds them. -/
theorem tail_octet {n : Nat} (h : n < 0x40) :
    isTail (0x80 + n).toUInt8 = true ∧ tailBits (0x80 + n).toUInt8 = n := by
  have hn : (0x80 + n).toUInt8.toNat = 0x80 + n := toUInt8_toNat (by omega)
  rw [isTail_iff, tailBits, hn]
  omega

/-- A tail that leads neither to a shorter form nor out of the characters may stand second. -/
theorem isSecond_of {a b : UInt8} (tail : 0x80 ≤ b.toNat ∧ b.toNat ≤ 0xBF)
    (e0 : a.toNat = 0xE0 → 0xA0 ≤ b.toNat) (ed : a.toNat = 0xED → b.toNat ≤ 0x9F)
    (f0 : a.toNat = 0xF0 → 0x90 ≤ b.toNat) (f4 : a.toNat = 0xF4 → b.toNat ≤ 0x8F) :
    isSecond a b = true := by
  simp only [isSecond, Bool.and_eq_true, decide_eq_true_eq, UInt8.le_iff_toNat_le,
    ← UInt8.toNat_inj]
  constructor
  · split
    · exact e0 ‹_›
    · split
      · exact f0 ‹_›
      · exact tail.1
  · split
    · exact ed ‹_›
    · split
      · exact f4 ‹_›
      · exact tail.2

theorem chunk_one {n : Nat} (h : n < 0x80) (rest : List UInt8) :
    chunk n.toUInt8 rest = (some (Char.ofNat n), 1) := by
  have hn : n.toUInt8.toNat = n := toUInt8_toNat (by omega)
  have lead : n.toUInt8 < 0x80 := by
    rw [UInt8.lt_iff_toNat_lt, hn]
    exact h
  simp only [chunk, if_pos lead, hn]

theorem chunk_two {n : Nat} (h : 0x80 ≤ n) (h' : n < 0x800) (rest : List UInt8) :
    chunk (0xC0 + n / 0x40).toUInt8 ((0x80 + n % 0x40).toUInt8 :: rest) =
      (some (Char.ofNat n), 2) := by
  have ha : (0xC0 + n / 0x40).toUInt8.toNat = 0xC0 + n / 0x40 := toUInt8_toNat (by omega)
  obtain ⟨tail, bits⟩ := tail_octet (n := n % 0x40) (by omega)
  have lead : ¬ (0xC0 + n / 0x40).toUInt8 < 0x80 := by
    rw [UInt8.lt_iff_toNat_lt, ha]
    simp
    omega
  have range : (0xC2 ≤ (0xC0 + n / 0x40).toUInt8 && (0xC0 + n / 0x40).toUInt8 ≤ 0xDF) = true := by
    simp only [Bool.and_eq_true, decide_eq_true_eq, UInt8.le_iff_toNat_le, ha]
    simp
    omega
  simp only [chunk, if_neg lead, if_pos range, if_pos tail, ha, bits]
  congr 3
  omega

theorem chunk_three {n : Nat} (h : 0x800 ≤ n) (h' : n < 0xD800 ∨ 0xDFFF < n ∧ n < 0x10000)
    (rest : List UInt8) :
    chunk (0xE0 + n / 0x1000).toUInt8
        ((0x80 + n / 0x40 % 0x40).toUInt8 :: (0x80 + n % 0x40).toUInt8 :: rest) =
      (some (Char.ofNat n), 3) := by
  have ha : (0xE0 + n / 0x1000).toUInt8.toNat = 0xE0 + n / 0x1000 := toUInt8_toNat (by omega)
  have hb : (0x80 + n / 0x40 % 0x40).toUInt8.toNat = 0x80 + n / 0x40 % 0x40 :=
    toUInt8_toNat (by omega)
  obtain ⟨-, bits⟩ := tail_octet (n := n / 0x40 % 0x40) (by omega)
  obtain ⟨tail, bits'⟩ := tail_octet (n := n % 0x40) (by omega)
  have lead : ¬ (0xE0 + n / 0x1000).toUInt8 < 0x80 := by
    rw [UInt8.lt_iff_toNat_lt, ha]
    simp
    omega
  have two : ¬ (0xC2 ≤ (0xE0 + n / 0x1000).toUInt8 &&
      (0xE0 + n / 0x1000).toUInt8 ≤ 0xDF) = true := by
    simp only [Bool.and_eq_true, decide_eq_true_eq, UInt8.le_iff_toNat_le, ha]
    simp
    omega
  have three : (0xE0 ≤ (0xE0 + n / 0x1000).toUInt8 &&
      (0xE0 + n / 0x1000).toUInt8 ≤ 0xEF) = true := by
    simp only [Bool.and_eq_true, decide_eq_true_eq, UInt8.le_iff_toNat_le, ha]
    simp
    omega
  have second : isSecond (0xE0 + n / 0x1000).toUInt8 (0x80 + n / 0x40 % 0x40).toUInt8 = true := by
    apply isSecond_of <;> rw [hb] <;> omega
  simp only [chunk, if_neg lead, if_neg two, if_pos three, if_pos second, if_pos tail, ha, bits,
    bits']
  congr 3
  omega

theorem chunk_four {n : Nat} (h : 0x10000 ≤ n) (h' : n < 0x110000) (rest : List UInt8) :
    chunk (0xF0 + n / 0x40000).toUInt8
        ((0x80 + n / 0x1000 % 0x40).toUInt8 :: (0x80 + n / 0x40 % 0x40).toUInt8 ::
          (0x80 + n % 0x40).toUInt8 :: rest) =
      (some (Char.ofNat n), 4) := by
  have ha : (0xF0 + n / 0x40000).toUInt8.toNat = 0xF0 + n / 0x40000 := toUInt8_toNat (by omega)
  have hb : (0x80 + n / 0x1000 % 0x40).toUInt8.toNat = 0x80 + n / 0x1000 % 0x40 :=
    toUInt8_toNat (by omega)
  obtain ⟨-, bits⟩ := tail_octet (n := n / 0x1000 % 0x40) (by omega)
  obtain ⟨tail, bits'⟩ := tail_octet (n := n / 0x40 % 0x40) (by omega)
  obtain ⟨tail', bits''⟩ := tail_octet (n := n % 0x40) (by omega)
  have lead : ¬ (0xF0 + n / 0x40000).toUInt8 < 0x80 := by
    rw [UInt8.lt_iff_toNat_lt, ha]
    simp
    omega
  have two : ¬ (0xC2 ≤ (0xF0 + n / 0x40000).toUInt8 &&
      (0xF0 + n / 0x40000).toUInt8 ≤ 0xDF) = true := by
    simp only [Bool.and_eq_true, decide_eq_true_eq, UInt8.le_iff_toNat_le, ha]
    simp
    omega
  have three : ¬ (0xE0 ≤ (0xF0 + n / 0x40000).toUInt8 &&
      (0xF0 + n / 0x40000).toUInt8 ≤ 0xEF) = true := by
    simp only [Bool.and_eq_true, decide_eq_true_eq, UInt8.le_iff_toNat_le, ha]
    simp
    omega
  have four : (0xF0 ≤ (0xF0 + n / 0x40000).toUInt8 &&
      (0xF0 + n / 0x40000).toUInt8 ≤ 0xF4) = true := by
    simp only [Bool.and_eq_true, decide_eq_true_eq, UInt8.le_iff_toNat_le, ha]
    simp
    omega
  have second : isSecond (0xF0 + n / 0x40000).toUInt8 (0x80 + n / 0x1000 % 0x40).toUInt8 =
      true := by
    apply isSecond_of <;> rw [hb] <;> omega
  simp only [chunk, if_neg lead, if_neg two, if_neg three, if_pos four, if_pos second, if_pos tail,
    if_pos tail', ha, bits, bits', bits'']
  congr 3
  omega

/-- **The octets of a character are one chunk**, whatever follows them. -/
theorem chunk_encodeChar (c : Char) :
    ∃ lead tails, encodeChar c = lead :: tails ∧
      ∀ rest, chunk lead (tails ++ rest) = (some c, tails.length + 1) := by
  have bounds := char_toNat_bounds c
  simp only [encodeChar]
  split
  · refine ⟨_, [], rfl, fun rest => ?_⟩
    rw [List.nil_append, chunk_one ‹_›, Char.ofNat_toNat]
    rfl
  · split
    · refine ⟨_, [_], rfl, fun rest => ?_⟩
      rw [List.singleton_append, chunk_two (by omega) ‹_›, Char.ofNat_toNat]
      rfl
    · split
      · refine ⟨_, [_, _], rfl, fun rest => ?_⟩
        rw [List.cons_append, List.singleton_append, chunk_three (by omega) (by omega),
          Char.ofNat_toNat]
        rfl
      · refine ⟨_, [_, _, _], rfl, fun rest => ?_⟩
        rw [List.cons_append, List.cons_append, List.singleton_append,
          chunk_four (by omega) (by omega), Char.ofNat_toNat]
        rfl

/-- The chunks of the octets of some characters are these characters. -/
theorem chunks_encodeChars (cs : List Char) : chunks (encodeChars cs) = cs.map some := by
  induction cs with
  | nil => rfl
  | cons c cs ih =>
    obtain ⟨lead, tails, octets, read⟩ := chunk_encodeChar c
    rw [encodeChars_cons, octets, chunks, List.cons_append, chunksAfter, read]
    simp only [Nat.add_sub_cancel, chunksAfter_append, ih, List.map_cons]

/-- **UTF-8 is read back.** -/
theorem decode?_encode (s : String) : decode? (encode s) = some s := by
  have read : (s.toList.map some).mapM id = some s.toList := by
    rw [List.mapM_map]
    exact (List.mapM_pure (m := Option) (f := id)).trans (congrArg some (List.map_id _))
  rw [decode?, decodeChars?, encode, chunks_encodeChars, read, Option.map_some,
    String.ofList_toList]

/-- In the octets of characters there is nothing to repair. -/
theorem decodeLossy_encodeChars (cs : List Char) :
    decodeLossy (encodeChars cs) = String.ofList cs := by
  rw [decodeLossy, chunks_encodeChars, List.map_map]
  congr 1
  exact List.map_id cs

/-- The units of a character, followed by anything, begin with that character. -/
theorem decodeFirst?_encodeChar (c : Char) (rest : List UInt8) :
    decodeFirst? (encodeChar c ++ rest) = some c := by
  obtain ⟨lead, tails, octets, read⟩ := chunk_encodeChar c
  rw [octets, List.cons_append, decodeFirst?, read]

/-- Only NUL has an octet that is zero. -/
theorem ne_zero_of_mem_encodeChar {c : Char} (h : c ≠ '\x00') :
    ∀ b ∈ encodeChar c, b ≠ 0 := by
  have bounds := char_toNat_bounds c
  have positive : c.toNat ≠ 0 := fun zero => h ((eq_nul_iff c).mpr zero)
  have of_toNat : ∀ {n : Nat}, 0 < n → n < 0x100 → n.toUInt8 ≠ 0 := by
    intro n low high zero
    have := congrArg UInt8.toNat zero
    rw [toUInt8_toNat high] at this
    simp at this
    omega
  intro b mem
  simp only [encodeChar] at mem
  split at mem
  · rw [List.mem_singleton.mp mem]
    exact of_toNat (by omega) (by omega)
  · split at mem
    · simp only [List.mem_cons, List.not_mem_nil, or_false] at mem
      rcases mem with rfl | rfl <;> exact of_toNat (by omega) (by omega)
    · split at mem
      · simp only [List.mem_cons, List.not_mem_nil, or_false] at mem
        rcases mem with rfl | rfl | rfl <;> exact of_toNat (by omega) (by omega)
      · simp only [List.mem_cons, List.not_mem_nil, or_false] at mem
        rcases mem with rfl | rfl | rfl | rfl <;> exact of_toNat (by omega) (by omega)

end Utf8

/-! ## 3. UTF-16 -/

namespace Utf16

theorem isHigh_iff (u : UInt16) : isHigh u = true ↔ 0xD800 ≤ u.toNat ∧ u.toNat ≤ 0xDBFF := by
  simp [isHigh, UInt16.le_iff_toNat_le]

theorem isLow_iff (u : UInt16) : isLow u = true ↔ 0xDC00 ≤ u.toNat ∧ u.toNat ≤ 0xDFFF := by
  simp [isLow, UInt16.le_iff_toNat_le]

/-- A character below U+10000 is one unit, which is no surrogate. -/
theorem encodeChar_one {c : Char} (h : c.toNat < 0x10000) :
    ∃ u, encodeChar c = [u] ∧ isHigh u = false ∧ isLow u = false ∧ Char.ofNat u.toNat = c := by
  have bounds := char_toNat_bounds c
  have hn : c.toNat.toUInt16.toNat = c.toNat := toUInt16_toNat h
  refine ⟨_, if_pos h, ?_, ?_, ?_⟩
  · rw [← Bool.not_eq_true, isHigh_iff, hn]
    omega
  · rw [← Bool.not_eq_true, isLow_iff, hn]
    omega
  · rw [hn, Char.ofNat_toNat]

/-- Any other character is a pair of surrogates, which stands for it. -/
theorem encodeChar_pair {c : Char} (h : ¬ c.toNat < 0x10000) :
    ∃ high low, encodeChar c = [high, low] ∧ isHigh high = true ∧ isLow low = true ∧
      pairChar high low = c := by
  have bounds := char_toNat_bounds c
  have hh : (0xD800 + (c.toNat - 0x10000) / 0x400).toUInt16.toNat =
      0xD800 + (c.toNat - 0x10000) / 0x400 := toUInt16_toNat (by omega)
  have hl : (0xDC00 + (c.toNat - 0x10000) % 0x400).toUInt16.toNat =
      0xDC00 + (c.toNat - 0x10000) % 0x400 := toUInt16_toNat (by omega)
  refine ⟨_, _, if_neg h, ?_, ?_, ?_⟩
  · rw [isHigh_iff, hh]
    omega
  · rw [isLow_iff, hl]
    omega
  · have sum : 0x10000 + (0xD800 + (c.toNat - 0x10000) / 0x400) % 0x400 * 0x400 +
        (0xDC00 + (c.toNat - 0x10000) % 0x400) % 0x400 = c.toNat := by omega
    rw [pairChar, hh, hl, sum, Char.ofNat_toNat]

theorem decodeChars?_encodeChars (cs : List Char) : decodeChars? (encodeChars cs) = some cs := by
  induction cs with
  | nil => rfl
  | cons c cs ih =>
    rw [encodeChars_cons]
    by_cases h : c.toNat < 0x10000
    · obtain ⟨u, units, high, low, char⟩ := encodeChar_one h
      rw [units, List.singleton_append, decodeChars?.eq_def]
      simp only [high, low, ih, char, Bool.false_eq_true, if_false, Option.map_some]
    · obtain ⟨u, v, units, high, low, char⟩ := encodeChar_pair h
      rw [units, List.cons_append, List.singleton_append, decodeChars?.eq_def]
      simp only [high, low, ih, char, if_true, Option.map_some]

/-- **UTF-16 is read back.** -/
theorem decode?_encode (s : String) : decode? (encode s) = some s := by
  rw [decode?, encode, decodeChars?_encodeChars, Option.map_some, String.ofList_toList]

/-- The units of a character, followed by anything, begin with that character. -/
theorem decodeFirst?_encodeChar (c : Char) (rest : List UInt16) :
    decodeFirst? (encodeChar c ++ rest) = some c := by
  by_cases h : c.toNat < 0x10000
  · obtain ⟨u, units, high, low, char⟩ := encodeChar_one h
    rw [units, List.singleton_append, decodeFirst?.eq_def]
    simp only [high, low, char, Bool.false_eq_true, if_false]
  · obtain ⟨u, v, units, high, low, char⟩ := encodeChar_pair h
    rw [units, List.cons_append, List.singleton_append, decodeFirst?.eq_def]
    simp only [high, low, char, if_true]

/-- Only NUL has a unit that is zero. -/
theorem ne_zero_of_mem_encodeChar {c : Char} (h : c ≠ '\x00') :
    ∀ u ∈ encodeChar c, u ≠ 0 := by
  intro u mem
  by_cases one : c.toNat < 0x10000
  · obtain ⟨x, units, -, -, char⟩ := encodeChar_one one
    rw [units, List.mem_singleton] at mem
    rintro rfl
    rw [← mem] at char
    exact h char.symm
  · obtain ⟨x, y, units, high, low, -⟩ := encodeChar_pair one
    rw [isHigh_iff] at high
    rw [isLow_iff] at low
    simp only [units, List.mem_cons, List.not_mem_nil, or_false] at mem
    rintro rfl
    rcases mem with rfl | rfl <;> simp at high low

end Utf16

/-! ## 4. Code points -/

namespace CodePoint

/-- **Code points are read back.** -/
theorem decode?_encode (s : String) : decode? (encode s) = some s := by
  have read : ∀ cs : List Char, (cs.map fun c => c.val).mapM (fun u => char? u.toNat) = some cs := by
    intro cs
    induction cs with
    | nil => rfl
    | cons c cs ih =>
      have here : char? c.val.toNat = some c := char?_toNat c
      rw [List.map_cons, List.mapM_cons, ih, here]
      rfl
  rw [decode?, decodeChars?, encode, read, Option.map_some, String.ofList_toList]

/-- Only NUL has the number zero. -/
theorem val_ne_zero {c : Char} (h : c ≠ '\x00') : c.val ≠ 0 := by
  intro zero
  exact h ((eq_nul_iff c).mpr (congrArg UInt32.toNat zero))

end CodePoint

/-! ## 5. Messages -/

namespace Message

/-- The octets of a message are those of the text with a blank in place of each NUL. -/
theorem octets_eq_encode (s : String) : octets s = Utf8.encode (blankNuls s) := by
  have each : ∀ c : Char, (Utf8.encodeChar c).map (fun b => if b == 0 then 0x20 else b) =
      Utf8.encodeChar (if c == '\x00' then ' ' else c) := by
    intro c
    by_cases nul : c = '\x00'
    · subst nul
      decide
    · have unchanged : ∀ b ∈ Utf8.encodeChar c, (if b == 0 then 0x20 else b) = b := by
        intro b mem
        simp [Utf8.ne_zero_of_mem_encodeChar nul b mem]
      rw [List.map_congr_left unchanged, List.map_id']
      simp [nul]
  simp only [octets, Utf8.encode, Utf8.encodeChars, blankNuls, String.toList_ofList,
    List.map_flatMap, List.flatMap_map, each]

/-- No octet of a message is zero. -/
theorem ne_zero_of_mem_octets {s : String} : ∀ b ∈ octets s, b ≠ 0 := by
  intro b mem
  obtain ⟨a, -, rfl⟩ := List.mem_map.mp mem
  by_cases h : a = 0 <;> simp [h]

/-- **A message crosses the boundary** with a blank in place of each NUL, and otherwise unchanged. -/
theorem take_octets (s : String) : take (some (octets s)) = some (blankNuls s) := by
  have whole : (octets s).takeWhile (· != 0) = octets s := by
    rw [List.takeWhile_eq_self_iff]
    intro b mem
    simpa using ne_zero_of_mem_octets b mem
  rw [take, Option.map_some, whole, octets_eq_encode, Utf8.encode, Utf8.decodeLossy_encodeChars,
    String.ofList_toList]

end Message

end RuntimeBridge
