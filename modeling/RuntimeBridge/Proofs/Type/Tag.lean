/-
# Tags of kinds and of their arrays

The bit of a kind is not the array bit.  So the tag of a kind and the tag of an array of that kind
are told apart, and each gives the kind back: these are the tags that inspection finds.
-/
import RuntimeBridge.Type.Info
namespace RuntimeBridge

/-! ## 1. Bits of kinds -/

namespace BaseKind

theorem bit_inj {a b : BaseKind} (h : a.bit = b.bit) : a = b := by
  have found := ofBit?_bit a
  rw [h, ofBit?_bit b] at found
  exact (Option.some.inj found).symm

theorem eq_bit_of_ofBit? {bits : UInt64} {kind : BaseKind} (h : ofBit? bits = some kind) :
    bits = kind.bit := by
  have found := List.find?_some h
  exact (beq_iff_eq.mp found).symm

theorem bit_ne_zero (kind : BaseKind) : kind.bit ≠ 0 := by
  have checked : ∀ k ∈ all, k.bit ≠ 0 := by decide
  exact checked kind (mem_all kind)

end BaseKind

namespace TypeTag

/-! ## 2. Tags of kinds -/

theorem ofKind_inj {a b : BaseKind} : ofKind a = ofKind b ↔ a = b := by
  constructor
  · intro h
    exact BaseKind.bit_inj (congrArg bits h)
  · rintro rfl
    rfl

theorem eq_ofKind_of_kind? {t : TypeTag} {kind : BaseKind} (h : t.kind? = some kind) :
    t = ofKind kind :=
  congrArg mk (BaseKind.eq_bit_of_ofBit? h)

@[simp] theorem isArray_ofKind (kind : BaseKind) : (ofKind kind).isArray = false := by
  have checked : ∀ k ∈ BaseKind.all, (ofKind k).isArray = false := by
    decide
  exact checked kind (BaseKind.mem_all kind)

@[simp] theorem base_ofKind (kind : BaseKind) : (ofKind kind).base = ofKind kind := by
  have checked : ∀ k ∈ BaseKind.all, (ofKind k).base = ofKind k := by
    decide
  exact checked kind (BaseKind.mem_all kind)

@[simp] theorem isKnown_ofKind (kind : BaseKind) : (ofKind kind).isKnown = true := by
  simp [isKnown, kind?_ofKind]

theorem isAny_ofKind (kind : BaseKind) : (ofKind kind).isAny = decide (kind = .any) := by
  by_cases h : kind = .any
  · simp [h, isAny, any]
  · simp [h, isAny, any, ofKind_inj]

theorem hasKind_ofKind (kind : BaseKind) (p : BaseKind → Bool) :
    (ofKind kind).hasKind p = p kind := by
  simp [hasKind, kind?_ofKind]

/-! ## 3. Tags of arrays -/

theorem base_withArray (t : TypeTag) : t.withArray.base = t.base := by
  simp only [withArray, base, mk.injEq, ← UInt64.toBitVec_inj, UInt64.toBitVec_and,
    UInt64.toBitVec_or, UInt64.toBitVec_not]
  rw [BitVec.and_or_distrib_right, BitVec.and_not_self]
  exact BitVec.or_zero

/-- The tag of an array, or of one with dimensions, is a kind and the array bit if it is known. -/
theorem base_wireTag (info : TypeInfo) : info.wireTag.base = info.tag.base := by
  rw [TypeInfo.wireTag]
  split
  · exact base_withArray _
  · rfl

@[simp] theorem isArray_withArray_ofKind (kind : BaseKind) :
    (ofKind kind).withArray.isArray = true := by
  have checked : ∀ k ∈ BaseKind.all, (ofKind k).withArray.isArray = true := by
    decide
  exact checked kind (BaseKind.mem_all kind)

@[simp] theorem base_withArray_ofKind (kind : BaseKind) :
    (ofKind kind).withArray.base = ofKind kind := by
  have checked : ∀ k ∈ BaseKind.all, (ofKind k).withArray.base = ofKind k := by
    decide
  exact checked kind (BaseKind.mem_all kind)

@[simp] theorem withArray_withArray_ofKind (kind : BaseKind) :
    (ofKind kind).withArray.withArray = (ofKind kind).withArray := by
  have checked : ∀ k ∈ BaseKind.all, (ofKind k).withArray.withArray = (ofKind k).withArray := by
    decide
  exact checked kind (BaseKind.mem_all kind)

@[simp] theorem isKnown_withArray_ofKind (kind : BaseKind) :
    (ofKind kind).withArray.isKnown = true := by
  simp [isKnown, kind?_ofKind]

@[simp] theorem isAny_withArray_ofKind (kind : BaseKind) :
    (ofKind kind).withArray.isAny = false := by
  have checked : ∀ k ∈ BaseKind.all, (ofKind k).withArray.isAny = false := by
    decide
  exact checked kind (BaseKind.mem_all kind)

end TypeTag

end RuntimeBridge
