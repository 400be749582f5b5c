/-
# Integer kinds

Nine integer kinds cross the boundary: four signed and four unsigned widths, and the size kind,
which is unsigned with 64 bits.  A number of a kind carries the proof that it fits; on the wire it
is the low bits of a 64-bit word.
-/
namespace RuntimeBridge

/-! ## 1. Kinds and their ranges -/

inductive IntKind where
  | int8 | int16 | int32 | int64
  | uint8 | uint16 | uint32 | uint64
  | size
  deriving DecidableEq, Repr

namespace IntKind

/-- How many numbers a kind has: two to the power of its width. -/
def count : IntKind → Int
  | int8 | uint8 => 256
  | int16 | uint16 => 65536
  | int32 | uint32 => 4294967296
  | int64 | uint64 | size => 18446744073709551616

/-- Least number of a kind. -/
def lo : IntKind → Int
  | int8 => -128
  | int16 => -32768
  | int32 => -2147483648
  | int64 => -9223372036854775808
  | uint8 | uint16 | uint32 | uint64 | size => 0

/-- Greatest number of a kind. -/
def hi (k : IntKind) : Int :=
  k.lo + k.count - 1

/-- The number lies in the range of the kind. -/
def Fits (k : IntKind) (n : Int) : Prop :=
  k.lo ≤ n ∧ n ≤ k.hi

instance (k : IntKind) (n : Int) : Decidable (k.Fits n) :=
  inferInstanceAs (Decidable (_ ∧ _))

end IntKind

/-! ## 2. Numbers of a kind -/

/-- A number in the range of its kind. -/
structure Fixed (k : IntKind) where
  val : Int
  fits : k.Fits val
  deriving DecidableEq

namespace Fixed

/-- The number of kind `k` equal to `n`, if `n` fits. -/
def ofInt? (k : IntKind) (n : Int) : Option (Fixed k) :=
  if h : k.Fits n then some ⟨n, h⟩ else none

theorem ofInt?_val {k : IntKind} (x : Fixed k) : ofInt? k x.val = some x := by
  simp [ofInt?, x.fits]

theorem ofInt?_eq_some_iff {k : IntKind} {n : Int} {x : Fixed k} :
    ofInt? k n = some x ↔ n = x.val := by
  constructor
  · intro found
    rw [ofInt?] at found
    split at found
    next => rw [← Option.some.inj found]
    next => cases found
  · rintro rfl
    exact ofInt?_val x

theorem ofInt?_eq_none_iff {k : IntKind} {n : Int} : ofInt? k n = none ↔ ¬ k.Fits n := by
  by_cases h : k.Fits n <;> simp [ofInt?, h]

/-- The representative of `n` in the range of the kind, modulo their number. -/
def reduce (k : IntKind) (n : Int) : Int :=
  let low := n % k.count
  if low ≤ k.hi then low else low - k.count

theorem reduce_fits (k : IntKind) (n : Int) : k.Fits (reduce k n) := by
  cases k <;> simp only [IntKind.Fits, reduce, IntKind.lo, IntKind.hi, IntKind.count] <;>
    omega

/-- The number of kind `k` that agrees with `n` in the low bits. -/
def wrap (k : IntKind) (n : Int) : Fixed k :=
  ⟨reduce k n, reduce_fits k n⟩

/-! ## 3. Wire form -/

/-- The 64-bit word whose low bits hold the number and whose other bits are zero. -/
def toWord {k : IntKind} (x : Fixed k) : UInt64 :=
  UInt64.ofNat (x.val % k.count).toNat

/-- The number in the low bits of a word; the other bits are not looked at. -/
def ofWord (k : IntKind) (w : UInt64) : Fixed k :=
  wrap k w.toNat

/-- **Wire form is faithful**: the word of a number is read back as that number. -/
theorem ofWord_toWord {k : IntKind} (x : Fixed k) : ofWord k x.toWord = x := by
  obtain ⟨n, fits⟩ := x
  have same : reduce k ((UInt64.ofNat (n % k.count).toNat).toNat : Int) = n := by
    revert fits
    cases k <;>
      simp only [IntKind.Fits, reduce, IntKind.lo, IntKind.hi, IntKind.count,
        UInt64.toNat_ofNat'] <;>
      omega
  simp only [ofWord, toWord, wrap, same]

end Fixed

end RuntimeBridge
