/-
# Names of tags

The known tags are the array bit alone, the tags of kinds, and these with the array bit
(`isKnown_iff`).  The text of a known tag is its name, and the reader finds the tag again under it; the
text of any other tag ends with a bracket, which no name does.  Everything that the reader accepts,
short names and blanks and capitals included, is a known tag.

Main statements: `isKnown_of_ofText?`, and `ofText?_toText`, what the reader makes of the text of a tag.
-/
import RuntimeBridge.Proofs.Text.Trimming
import RuntimeBridge.Proofs.Type.Tag
namespace RuntimeBridge

namespace TypeTag

/-! ## 1. Known tags -/

/-- A word is what the mask of the array bit leaves of it, and the bits beside that. -/
theorem bits_split (t : TypeTag) :
    t.bits = t.bits &&& ~~~array.bits ||| t.bits &&& array.bits := by
  rw [← UInt64.toBitVec_inj, UInt64.toBitVec_or, UInt64.toBitVec_and, UInt64.toBitVec_and,
    UInt64.toBitVec_not, ← BitVec.and_or_distrib_left, BitVec.not_or_self, BitVec.and_allOnes]

/-- The mask leaves the array bit or nothing. -/
theorem isArray_iff (t : TypeTag) : t.isArray = true ↔ t.bits &&& array.bits = array.bits := by
  have bit : array.bits.toBitVec = BitVec.twoPow 64 16 := by decide
  rw [isArray, bne_iff_ne, ← UInt64.toBitVec_inj, Ne, ← UInt64.toBitVec_inj, UInt64.toBitVec_and, bit,
    BitVec.and_twoPow]
  split
  · exact iff_of_true (by decide) rfl
  · exact iff_of_false (fun set => set rfl) (by decide)

/-- The array bit makes an array of any tag. -/
theorem isArray_withArray (t : TypeTag) : t.withArray.isArray = true := by
  rw [isArray_iff, withArray, ← UInt64.toBitVec_inj, UInt64.toBitVec_and, UInt64.toBitVec_or]
  ext i inside
  simpa using Or.inr

theorem eq_withArray_base {t : TypeTag} (isArray : t.isArray = true) : t = t.base.withArray := by
  have split := t.bits_split
  rw [(isArray_iff t).mp isArray] at split
  exact congrArg mk split

theorem eq_base {t : TypeTag} (plain : t.isArray = false) : t = t.base := by
  have split := t.bits_split
  have clear : t.bits &&& array.bits = 0 := by simpa [isArray] using plain
  rw [clear, UInt64.or_zero] at split
  exact congrArg mk split

/-- **Known** are the array bit, the kinds, and the kinds with the array bit. -/
theorem isKnown_iff (t : TypeTag) :
    t.isKnown = true ↔ t = array ∨ ∃ kind, t = ofKind kind ∨ t = (ofKind kind).withArray := by
  constructor
  · intro known
    cases found : t.base.kind? with
    | some kind =>
      refine .inr ⟨kind, ?_⟩
      rw [← eq_ofKind_of_kind? found]
      cases isArray : t.isArray with
      | true => exact .inr (eq_withArray_base isArray)
      | false => exact .inl (eq_base isArray)
    | none =>
      obtain ⟨isArray, empty⟩ : t.isArray = true ∧ t.base.bits = 0 := by
        simpa [isKnown, found] using known
      have base : t.base = ⟨0⟩ := congrArg mk empty
      refine .inl ((eq_withArray_base isArray).trans ?_)
      rw [base]
      rfl
  · rintro (rfl | ⟨kind, rfl | rfl⟩)
    · decide
    · exact isKnown_ofKind kind
    · exact isKnown_withArray_ofKind kind

/-! ## 2. The names of known tags -/

theorem ofText?_array : ofText? array.toText = some array := by decide +kernel

theorem ofText?_ofKind (kind : BaseKind) : ofText? (ofKind kind).toText = some (ofKind kind) := by
  have checked : ∀ k ∈ BaseKind.all, ofText? (ofKind k).toText = some (ofKind k) := by
    decide +kernel
  exact checked kind (BaseKind.mem_all kind)

theorem ofText?_withArray_ofKind (kind : BaseKind) :
    ofText? (ofKind kind).withArray.toText = some (ofKind kind).withArray := by
  have checked : ∀ k ∈ BaseKind.all,
      ofText? (ofKind k).withArray.toText = some (ofKind k).withArray := by
    decide +kernel
  exact checked kind (BaseKind.mem_all kind)

/-- **What the reader accepts is known**, whatever the spelling. -/
theorem isKnown_of_ofText? {s : String} {t : TypeTag} (read : ofText? s = some t) :
    t.isKnown = true := by
  simp only [ofText?] at read
  split at read
  next =>
    rw [← Option.some.inj read]
    decide
  next =>
    split at read
    · obtain ⟨kind, -, rfl⟩ := Option.map_eq_some_iff.mp read
      exact isKnown_withArray_ofKind kind
    · obtain ⟨kind, -, rfl⟩ := Option.map_eq_some_iff.mp read
      exact isKnown_ofKind kind

/-! ## 3. The texts of other tags -/

/-- No name ends with a bracket. -/
theorem kindOfText?_of_bracket {s : String} (last : s.toList.getLast? = some ')') :
    kindOfText? s = none := by
  have named : ∀ kind ∈ BaseKind.all, kind.name.toList.getLast? ≠ some ')' := by decide
  have short : ∀ name ∈ ["string", "float", "int"], s ≠ name := by
    have named : ∀ name ∈ ["string", "float", "int"], name.toList.getLast? ≠ some ')' := by decide
    intro name mem same
    exact named name mem (same ▸ last)
  have unnamed : BaseKind.ofName? s = none := by
    refine List.find?_eq_none.mpr fun kind mem same => named kind mem ?_
    rw [beq_iff_eq.mp same, last]
  simp only [List.forall_mem_cons] at short
  simp [kindOfText?, short.1, short.2.1, short.2.2.1, unnamed]

/-- Nor does the ending of array names. -/
theorem stripEnding?_of_bracket {cs : List Char} (last : cs.getLast? = some ')') :
    stripEnding? arrayEnding.toList cs = none := by
  rw [stripEnding?, if_neg]
  intro ending
  obtain ⟨front, rfl⟩ := List.isSuffixOf_iff_suffix.mp ending
  rw [List.getLast?_append_of_ne_nil _ (by decide)] at last
  revert last
  decide

/-- A trimmed text that ends with a bracket is no name. -/
theorem ofText?_of_bracket {s : String} (trimmed : IsTrimmed s.toList)
    (last : s.toList.getLast? = some ')') : ofText? s = none := by
  have same : (normalizeName s).toList.getLast? = some ')' := by
    rw [normalizeName, lowerAscii, trim, trimChars_of_isTrimmed trimmed, String.ofList_toList,
      String.toList_ofList, List.getLast?_map, last]
    rfl
  have other : normalizeName s ≠ "array" := by
    intro array
    rw [array] at same
    revert same
    decide
  simp only [ofText?, beq_iff_eq, if_neg other, stripEnding?_of_bracket same,
    kindOfText?_of_bracket same, Option.map_none]

theorem ofText?_of_unknown {t : TypeTag} (unknown : t.isKnown = false) :
    ofText? t.toText = none := by
  obtain ⟨notArray, noKind⟩ : ¬ (t.isArray = true ∧ t.base.bits = 0) ∧ t.base.kind? = none := by
    simpa [isKnown] using unknown
  have text : t.toText = "unknown(" ++ t.bits.toNat.repr ++ ")" := by
    simp only [toText, name?, noKind, Option.map_none]
    cases isArray : t.isArray with
    | true =>
      have filled : t.base.bits ≠ 0 := fun empty => notArray ⟨isArray, empty⟩
      simp [filled]
    | false => rfl
  have letters : t.toText.toList = "unknown(".toList ++ t.bits.toNat.repr.toList ++ [')'] := by
    rw [text, String.toList_append, String.toList_append]
    rfl
  have last : t.toText.toList.getLast? = some ')' := by rw [letters, List.getLast?_concat]
  have first : t.toText.toList.head? = some 'u' := by rw [letters]; rfl
  exact ofText?_of_bracket ⟨by rw [first]; decide, by rw [last]; decide⟩ last

/-- **What the reader makes of the text of a tag**: the tag again if it is known, and nothing else. -/
theorem ofText?_toText (t : TypeTag) :
    ofText? t.toText = if t.isKnown then some t else none := by
  cases known : t.isKnown with
  | false => exact ofText?_of_unknown known
  | true =>
    rcases (isKnown_iff t).mp known with rfl | ⟨kind, rfl | rfl⟩
    · exact ofText?_array
    · exact ofText?_ofKind kind
    · exact ofText?_withArray_ofKind kind

end TypeTag

end RuntimeBridge
