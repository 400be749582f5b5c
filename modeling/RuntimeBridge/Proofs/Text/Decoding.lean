/-
# Nothing but encodings is read

`Proofs/Text/Encoding.lean` shows that what was written is read back.  Here is the other half: a
strict reader finds a text only in the units that the writer would have made of it.  A longer form
than needed, a sequence that breaks off, a surrogate on its own and a number that no character has
are no encodings, and so there is no text for them.

For UTF-8 the argument is per chunk: a chunk that stands for a character is the octets of that
character.  For UTF-16 it is per unit or pair, for code points per number.

* `Utf8.decode?_eq_some_iff`, `Utf16.decode?_eq_some_iff`, `CodePoint.decode?_eq_some_iff`: the
  readers, exactly;
* `Utf8.decodeFirst?_eq_some_iff`, `Utf16.decodeFirst?_eq_some_iff`: the same for readers of one
  character, which do not look at what follows it;
* `Utf8.encode_eq_toUTF8`: the octets of a text are those that the text itself is kept in.
-/
import RuntimeBridge.Proofs.Text.Encoding
namespace RuntimeBridge

/-! ## 1. Numbers that are characters -/

/-- A number outside the surrogates and below U+110000 is the number of its character. -/
theorem toNat_charOfNat {n : Nat} (h : n < 0xD800 ∨ 0xDFFF < n ∧ n < 0x110000) :
    (Char.ofNat n).toNat = n := by
  have valid : n.isValidChar := h
  rw [Char.ofNat, dif_pos valid]
  rfl

theorem toUInt8_eq {n : Nat} {b : UInt8} (h : n = b.toNat) : n.toUInt8 = b := by
  rw [h]
  exact UInt8.ofNat_toNat

theorem toUInt16_eq {n : Nat} {u : UInt16} (h : n = u.toNat) : n.toUInt16 = u := by
  rw [h]
  exact UInt16.ofNat_toNat

/-! ## 2. UTF-8 -/

namespace Utf8

/-- What the second octet of a character may be, by its lead. -/
theorem isSecond_bounds {a b : UInt8} (h : isSecond a b = true) :
    (0x80 ≤ b.toNat ∧ b.toNat ≤ 0xBF) ∧ (a.toNat = 0xE0 → 0xA0 ≤ b.toNat) ∧
      (a.toNat = 0xED → b.toNat ≤ 0x9F) ∧ (a.toNat = 0xF0 → 0x90 ≤ b.toNat) ∧
      (a.toNat = 0xF4 → b.toNat ≤ 0x8F) := by
  have numbers : ∀ (p : Prop) [Decidable p] (x y : UInt8),
      (if p then x else y).toNat = if p then x.toNat else y.toNat := fun p _ x y =>
    apply_ite UInt8.toNat p x y
  simp only [isSecond, Bool.and_eq_true, decide_eq_true_eq, UInt8.le_iff_toNat_le,
    ← UInt8.toNat_inj, numbers, UInt8.reduceToNat] at h
  split_ifs at h <;> omega

/-! The octets of a character, from the lead and the tails they are read from. -/

theorem encodeChar_of_one {a : UInt8} (h : a.toNat < 0x80) :
    encodeChar (Char.ofNat a.toNat) = [a] := by
  have number : (Char.ofNat a.toNat).toNat = a.toNat := toNat_charOfNat (by omega)
  simp only [encodeChar, number, if_pos h, toUInt8_eq rfl]

theorem encodeChar_of_two {a b : UInt8} (ha : 0xC2 ≤ a.toNat ∧ a.toNat ≤ 0xDF)
    (hb : isTail b = true) :
    encodeChar (Char.ofNat (a.toNat % 0x20 * 0x40 + tailBits b)) = [a, b] := by
  rw [isTail_iff] at hb
  rw [tailBits]
  generalize hn : a.toNat % 0x20 * 0x40 + b.toNat % 0x40 = n
  have number : (Char.ofNat n).toNat = n := toNat_charOfNat (by omega)
  have lead : 0xC0 + n / 0x40 = a.toNat := by omega
  have tail : 0x80 + n % 0x40 = b.toNat := by omega
  simp only [encodeChar, number]
  rw [if_neg (by omega), if_pos (by omega), toUInt8_eq lead, toUInt8_eq tail]

theorem encodeChar_of_three {a b c : UInt8} (ha : 0xE0 ≤ a.toNat ∧ a.toNat ≤ 0xEF)
    (hb : isSecond a b = true) (hc : isTail c = true) :
    encodeChar (Char.ofNat (a.toNat % 0x10 * 0x1000 + tailBits b * 0x40 + tailBits c)) =
      [a, b, c] := by
  obtain ⟨range, e0, ed, -, -⟩ := isSecond_bounds hb
  rw [isTail_iff] at hc
  rw [tailBits, tailBits]
  generalize hn : a.toNat % 0x10 * 0x1000 + b.toNat % 0x40 * 0x40 + c.toNat % 0x40 = n
  have number : (Char.ofNat n).toNat = n := toNat_charOfNat (by omega)
  have lead : 0xE0 + n / 0x1000 = a.toNat := by omega
  have second : 0x80 + n / 0x40 % 0x40 = b.toNat := by omega
  have tail : 0x80 + n % 0x40 = c.toNat := by omega
  simp only [encodeChar, number]
  rw [if_neg (by omega), if_neg (by omega), if_pos (by omega), toUInt8_eq lead,
    toUInt8_eq second, toUInt8_eq tail]

theorem encodeChar_of_four {a b c d : UInt8} (ha : 0xF0 ≤ a.toNat ∧ a.toNat ≤ 0xF4)
    (hb : isSecond a b = true) (hc : isTail c = true) (hd : isTail d = true) :
    encodeChar (Char.ofNat (a.toNat % 0x08 * 0x40000 + tailBits b * 0x1000 + tailBits c * 0x40 +
      tailBits d)) = [a, b, c, d] := by
  obtain ⟨range, -, -, f0, f4⟩ := isSecond_bounds hb
  rw [isTail_iff] at hc hd
  rw [tailBits, tailBits, tailBits]
  generalize hn : a.toNat % 0x08 * 0x40000 + b.toNat % 0x40 * 0x1000 + c.toNat % 0x40 * 0x40 +
    d.toNat % 0x40 = n
  have number : (Char.ofNat n).toNat = n := toNat_charOfNat (by omega)
  have lead : 0xF0 + n / 0x40000 = a.toNat := by omega
  have second : 0x80 + n / 0x1000 % 0x40 = b.toNat := by omega
  have third : 0x80 + n / 0x40 % 0x40 = c.toNat := by omega
  have tail : 0x80 + n % 0x40 = d.toNat := by omega
  simp only [encodeChar, number]
  rw [if_neg (by omega), if_neg (by omega), if_neg (by omega), toUInt8_eq lead,
    toUInt8_eq second, toUInt8_eq third, toUInt8_eq tail]

/-- **A chunk that stands for a character is the octets of that character.** -/
theorem chunk_some {a : UInt8} {rest : List UInt8} {char : Char}
    (h : (chunk a rest).1 = some char) :
    ∃ tails more, rest = tails ++ more ∧ encodeChar char = a :: tails ∧
      (chunk a rest).2 = tails.length + 1 := by
  have between : ∀ {low high : UInt8}, (decide (low ≤ a) && decide (a ≤ high)) = true →
      low.toNat ≤ a.toNat ∧ a.toNat ≤ high.toNat := by
    simp [UInt8.le_iff_toNat_le]
  revert h
  -- the chunks that break off stand for nothing; the others are told apart by the lead
  fun_cases chunk a rest <;> intro h <;> simp only [Option.some.injEq, reduceCtorEq] at h <;>
    subst h
  case case1 lead =>
    exact ⟨[], rest, rfl, encodeChar_of_one lead, rfl⟩
  case case2 range b more tail =>
    exact ⟨[b], more, rfl, encodeChar_of_two (between range) tail, rfl⟩
  case case5 range b second c more tail =>
    exact ⟨[b, c], more, rfl, encodeChar_of_three (between range) second tail, rfl⟩
  case case10 range b second c third d more tail =>
    exact ⟨[b, c, d], more, rfl, encodeChar_of_four (between range) second third tail, rfl⟩

theorem decodeChars?_cons (a : UInt8) (rest : List UInt8) :
    decodeChars? (a :: rest) = (chunk a rest).1.bind fun char =>
      ((chunksAfter ((chunk a rest).2 - 1) rest).mapM id).map (char :: ·) := by
  simp only [decodeChars?, chunks, chunksAfter, List.mapM_cons, id_eq, Option.pure_def,
    Option.bind_eq_bind, Option.map_eq_bind, Function.comp_def]

/-- Octets that hold no broken chunk are the octets of the characters found in them. -/
theorem eq_encodeChars_of_decodeChars? (octets : List UInt8) {chars : List Char}
    (h : decodeChars? octets = some chars) : octets = encodeChars chars := by
  -- induction on the number of octets, since a chunk takes up to four of them
  induction hn : octets.length using Nat.strong_induction_on generalizing octets chars with
  | _ n ih =>
    cases octets with
    | nil =>
      obtain rfl : [] = chars := by simpa [decodeChars?, chunks_nil] using h
      rfl
    | cons a rest =>
      rw [decodeChars?_cons, Option.bind_eq_some_iff] at h
      obtain ⟨char, found, read⟩ := h
      obtain ⟨later, decoded, rfl⟩ := Option.map_eq_some_iff.mp read
      obtain ⟨tails, more, rfl, units, taken⟩ := chunk_some found
      rw [taken, Nat.add_sub_cancel, chunksAfter_append] at decoded
      have shorter : more.length < n := by
        rw [← hn, List.length_cons, List.length_append]
        omega
      rw [encodeChars_cons, units, ← ih _ shorter more decoded rfl, List.cons_append]

/-- **The strict reader of UTF-8 accepts encodings and nothing else.** -/
theorem decode?_eq_some_iff (octets : List UInt8) (s : String) :
    decode? octets = some s ↔ octets = encode s := by
  constructor
  · intro h
    obtain ⟨chars, decoded, rfl⟩ := Option.map_eq_some_iff.mp h
    rw [encode, String.toList_ofList]
    exact eq_encodeChars_of_decodeChars? octets decoded
  · rintro rfl
    exact decode?_encode s

/-- **The reader of one character finds the one whose octets come first**, and no other. -/
theorem decodeFirst?_eq_some_iff (octets : List UInt8) (c : Char) :
    decodeFirst? octets = some c ↔ encodeChar c <+: octets := by
  constructor
  · intro h
    cases octets with
    | nil => cases h
    | cons a rest =>
      obtain ⟨tails, more, rfl, units, -⟩ := chunk_some h
      rw [units]
      exact ⟨more, rfl⟩
  · rintro ⟨more, rfl⟩
    exact decodeFirst?_encodeChar c more

/-- The octets of a character, as the characters of a text are kept. -/
theorem encodeChar_eq_utf8EncodeChar (c : Char) : encodeChar c = String.utf8EncodeChar c := by
  have bounds := char_toNat_bounds c
  have number : c.val.toNat = c.toNat := rfl
  simp only [encodeChar, String.utf8EncodeChar, number, Nat.toUInt8]
  by_cases one : c.toNat < 0x80
  · rw [if_pos one, if_pos (show c.toNat ≤ 127 by omega)]
  rw [if_neg one, if_neg (show ¬ c.toNat ≤ 127 by omega)]
  by_cases two : c.toNat < 0x800
  · have lead : 0xC0 + c.toNat / 0x40 = c.toNat / 64 % 32 + 192 := by omega
    rw [if_pos two, if_pos (show c.toNat ≤ 2047 by omega), lead, Nat.add_comm 0x80]
  rw [if_neg two, if_neg (show ¬ c.toNat ≤ 2047 by omega)]
  by_cases three : c.toNat < 0x10000
  · have lead : 0xE0 + c.toNat / 0x1000 = c.toNat / 4096 % 16 + 224 := by omega
    rw [if_pos three, if_pos (show c.toNat ≤ 65535 by omega), lead, Nat.add_comm 0x80,
      Nat.add_comm 0x80]
  · have lead : 0xF0 + c.toNat / 0x40000 = c.toNat / 262144 % 8 + 240 := by omega
    rw [if_neg three, if_neg (show ¬ c.toNat ≤ 65535 by omega), lead, Nat.add_comm 0x80,
      Nat.add_comm 0x80, Nat.add_comm 0x80]

/-- **The octets of a text are those that the text itself is kept in.** -/
theorem encode_eq_toUTF8 (s : String) : encode s = s.toUTF8.data.toList := by
  have octets : encodeChars s.toList = s.toList.flatMap String.utf8EncodeChar :=
    congrArg s.toList.flatMap (funext encodeChar_eq_utf8EncodeChar)
  have kept : s.toUTF8 = (s.toList.flatMap String.utf8EncodeChar).toByteArray := by
    rw [String.toUTF8, ← String.utf8Encode_toList, List.utf8Encode]
  rw [encode, octets, kept, List.toList_data_toByteArray]

end Utf8

/-! ## 3. UTF-16 -/

namespace Utf16

/-- A unit that is no surrogate is the encoding of its character. -/
theorem encodeChar_of_one {u : UInt16} (high : isHigh u = false) (low : isLow u = false) :
    encodeChar (Char.ofNat u.toNat) = [u] := by
  rw [← Bool.not_eq_true, isHigh_iff] at high
  rw [← Bool.not_eq_true, isLow_iff] at low
  have bound := u.toNat_lt
  have number : (Char.ofNat u.toNat).toNat = u.toNat := toNat_charOfNat (by omega)
  simp only [encodeChar, number]
  rw [if_pos (by omega), toUInt16_eq rfl]

/-- A pair of surrogates is the encoding of its character. -/
theorem encodeChar_of_pair {u v : UInt16} (high : isHigh u = true) (low : isLow v = true) :
    encodeChar (pairChar u v) = [u, v] := by
  rw [isHigh_iff] at high
  rw [isLow_iff] at low
  rw [pairChar]
  generalize hn : 0x10000 + u.toNat % 0x400 * 0x400 + v.toNat % 0x400 = n
  have number : (Char.ofNat n).toNat = n := toNat_charOfNat (by omega)
  have first : 0xD800 + (n - 0x10000) / 0x400 = u.toNat := by omega
  have second : 0xDC00 + (n - 0x10000) % 0x400 = v.toNat := by omega
  simp only [encodeChar, number]
  rw [if_neg (by omega), toUInt16_eq first, toUInt16_eq second]

/-- Units in which every surrogate belongs to a pair are the units of the characters found in
them. -/
theorem eq_encodeChars_of_decodeChars? (units : List UInt16) {chars : List Char}
    (h : decodeChars? units = some chars) : units = encodeChars chars := by
  fun_induction decodeChars? units generalizing chars with
  | case1 =>
    obtain rfl : [] = chars := by simpa using h
    rfl
  | case2 u high v more low ih =>
    obtain ⟨later, decoded, rfl⟩ := Option.map_eq_some_iff.mp h
    rw [encodeChars_cons, encodeChar_of_pair high low, ← ih decoded]
    rfl
  | case3 => cases h
  | case4 => cases h
  | case5 => cases h
  | case6 u rest high low ih =>
    obtain ⟨later, decoded, rfl⟩ := Option.map_eq_some_iff.mp h
    rw [encodeChars_cons, encodeChar_of_one (by simpa using high) (by simpa using low),
      ← ih decoded]
    rfl

/-- **The reader of UTF-16 accepts encodings and nothing else.** -/
theorem decode?_eq_some_iff (units : List UInt16) (s : String) :
    decode? units = some s ↔ units = encode s := by
  constructor
  · intro h
    obtain ⟨chars, decoded, rfl⟩ := Option.map_eq_some_iff.mp h
    rw [encode, String.toList_ofList]
    exact eq_encodeChars_of_decodeChars? units decoded
  · rintro rfl
    exact decode?_encode s

/-- **The reader of one character finds the one whose units come first**, and no other. -/
theorem decodeFirst?_eq_some_iff (units : List UInt16) (c : Char) :
    decodeFirst? units = some c ↔ encodeChar c <+: units := by
  constructor
  · intro h
    revert h
    fun_cases decodeFirst? units <;> intro h
    case case1 => cases h
    case case2 u high v more low =>
      obtain rfl := Option.some.inj h
      exact ⟨more, by rw [encodeChar_of_pair high low]; rfl⟩
    case case3 => cases h
    case case4 => cases h
    case case5 => cases h
    case case6 u rest high low =>
      obtain rfl := Option.some.inj h
      exact ⟨rest, by rw [encodeChar_of_one (by simpa using high) (by simpa using low)]; rfl⟩
  · rintro ⟨more, rfl⟩
    exact decodeFirst?_encodeChar c more

end Utf16

/-! ## 4. Code points -/

namespace CodePoint

/-- A number stands for the character whose number it is, and for no other. -/
theorem char?_eq_some_iff (n : Nat) (c : Char) : char? n = some c ↔ n = c.toNat := by
  constructor
  · intro h
    rw [char?] at h
    split at h
    next valid =>
      obtain rfl := Option.some.inj h
      exact (toNat_charOfNat valid).symm
    next => cases h
  · rintro rfl
    exact char?_toNat c

/-- **The reader of code points accepts the numbers of characters and nothing else.** -/
theorem decode?_eq_some_iff (units : List UInt32) (s : String) :
    decode? units = some s ↔ units = encode s := by
  constructor
  · intro h
    obtain ⟨chars, decoded, rfl⟩ := Option.map_eq_some_iff.mp h
    rw [encode, String.toList_ofList]
    clear h
    induction units generalizing chars with
    | nil =>
      obtain rfl : [] = chars := by simpa [decodeChars?] using decoded
      rfl
    | cons u rest ih =>
      rw [decodeChars?, List.mapM_cons] at decoded
      obtain ⟨c, here, later⟩ := Option.bind_eq_some_iff.mp decoded
      obtain ⟨cs, more, same⟩ := Option.bind_eq_some_iff.mp later
      obtain rfl : c :: cs = chars := by simpa using same
      have number : u = c.val := UInt32.toNat_inj.mp ((char?_eq_some_iff _ _).mp here)
      rw [List.map_cons, ← number, ← ih cs more]
  · rintro rfl
    exact decode?_encode s

end CodePoint

end RuntimeBridge
