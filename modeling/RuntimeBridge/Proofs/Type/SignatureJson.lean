/-
# Signatures are read back

A signature is written as a list of objects, whose members are a name, a text and an integer.  Such data
is whole, so its text gives the data back, and from the data each type is read part by part.  Only the
tag can fail: the name of an unknown tag is no name.

Main statement: `names_read_back`.
-/
import RuntimeBridge.Proofs.Json.RoundTrip
import RuntimeBridge.Proofs.Type.Names
import RuntimeBridge.Type.Json
namespace RuntimeBridge

namespace TypeInfo

/-! ## 1. Types -/

theorem dimensionsOfJson?_ofInt {n : Int} (fits : IntKind.int64.Fits n) :
    dimensionsOfJson? (.ofInt n) = some n := by
  rw [dimensionsOfJson?, Json.integer?_ofInt, Option.bind_some, Fixed.ofInt?, dif_pos fits]
  rfl

theorem isWhole_toJson (t : TypeInfo) : t.toJson.IsWhole := by
  obtain ⟨tag, aliasName, dimensions⟩ := t
  refine .obj fun m mem => ?_
  cases aliasName with
  | none =>
    obtain rfl | rfl : m = ("type", tag.toJson) ∨ m = ("dimensions", .ofInt dimensions) := by
      simpa using mem
    · exact .str _
    · exact .int _
  | some a =>
    obtain rfl | rfl | rfl : m = ("type", tag.toJson) ∨ m = ("alias", .str a) ∨
        m = ("dimensions", .ofInt dimensions) := by
      simpa using mem
    · exact .str _
    · exact .str _
    · exact .int _

/-- The three members are found under their keys. -/
theorem ofJson?_toJson_eq (t : TypeInfo) :
    ofJson? t.toJson = ofParts? t.tag.toJson (t.aliasName.map .str) (some (.ofInt t.dimensions)) := by
  obtain ⟨tag, aliasName, dimensions⟩ := t
  cases aliasName <;> simp [toJson, ofJson?, membersUnder, atMostOne?]

/-- **A type is read back, or refused for its tag.** -/
theorem ofJson?_toJson (t : TypeInfo) (fits : IntKind.int64.Fits t.dimensions) :
    ofJson? t.toJson = if t.tag.isKnown then some t else none := by
  have tag : TypeTag.ofJson? t.tag.toJson = if t.tag.isKnown then some t.tag else none :=
    TypeTag.ofText?_toText t.tag
  have aliasName : orDefault none aliasOfJson? (t.aliasName.map .str) = some t.aliasName := by
    cases t.aliasName <;> rfl
  have dimensions : orDefault 0 dimensionsOfJson? (some (.ofInt t.dimensions)) = some t.dimensions :=
    dimensionsOfJson?_ofInt fits
  rw [ofJson?_toJson_eq, ofParts?, tag]
  split
  · rw [Option.bind_eq_bind, Option.bind_some, aliasName, Option.bind_eq_bind, Option.bind_some, dimensions]
    rfl
  · rfl

end TypeInfo

/-! ## 2. Signatures -/

variable {types : List TypeInfo}

theorem isWhole_signatureToJson (types : List TypeInfo) : (signatureToJson types).IsWhole := by
  refine .arr fun j mem => ?_
  obtain ⟨t, -, rfl⟩ := List.mem_map.mp mem
  exact t.isWhole_toJson

theorem signatureOfJson?_signatureToJson (fits : ∀ t ∈ types, IntKind.int64.Fits t.dimensions) :
    signatureOfJson? (signatureToJson types) =
      if types.all (·.tag.isKnown) then some types else none := by
  change (types.map TypeInfo.toJson).mapM TypeInfo.ofJson? = _
  induction types with
  | nil => rfl
  | cons t rest ih =>
    have later := ih fun t mem => fits t (List.mem_cons_of_mem _ mem)
    rw [List.map_cons, List.mapM_cons, later, t.ofJson?_toJson (fits t List.mem_cons_self)]
    cases known : t.tag.isKnown <;> cases others : rest.all (·.tag.isKnown) <;> simp [known, others]

/-- **Names and signatures are read back.**  Whatever spelling of a tag is accepted, the tag is known and
its own text gives it again; the text of a tag is accepted just when the tag is known.  The text of a
signature, and any other text of the same data, gives the signature again if all its tags are known, and
is refused if one is not. -/
theorem names_read_back :
    (∀ s t, TypeTag.ofText? s = some t → t.isKnown = true ∧ TypeTag.ofText? t.toText = some t) ∧
    (∀ t : TypeTag, TypeTag.ofText? t.toText = if t.isKnown then some t else none) ∧
    ∀ types : List TypeInfo, (∀ t ∈ types, IntKind.int64.Fits t.dimensions) →
      Json.parse? (signatureToJson types).toText = some (signatureToJson types) ∧
      ∀ text, Json.parse? text = some (signatureToJson types) →
        ((∀ t ∈ types, t.tag.isKnown = true) → parseSignature text = .ok types) ∧
        ((∃ t ∈ types, t.tag.isKnown = false) →
          parseSignature text = .error (.config "invalid signature descriptor")) := by
  refine ⟨fun s t read => ?_, TypeTag.ofText?_toText, fun types fits => ?_⟩
  · have known := TypeTag.isKnown_of_ofText? read
    exact ⟨known, by rw [TypeTag.ofText?_toText, if_pos known]⟩
  · refine ⟨Json.parse?_toText (isWhole_signatureToJson types), fun text data => ?_⟩
    have read := signatureOfJson?_signatureToJson fits
    constructor
    · intro known
      rw [if_pos (List.all_eq_true.mpr known)] at read
      rw [parseSignature, data, Option.bind_some, read]
    · rintro ⟨t, mem, unknown⟩
      have refused : ¬ types.all (·.tag.isKnown) = true := by
        intro known
        rw [List.all_eq_true.mp known t mem] at unknown
        cases unknown
      rw [if_neg refused] at read
      rw [parseSignature, data, Option.bind_some, read]

/-- An alias with a quotation mark and a line break, and dimensions at both ends of their range. -/
def quotedSignature : List TypeInfo :=
  [⟨(TypeTag.ofKind .float64).withArray, some "a \"row\"\n\\", -9223372036854775808⟩,
    ⟨.array, none, 9223372036854775807⟩, .ofTag .any]

theorem names_read_back_quotedSignature :
    TypeTag.ofText? " Float_ARRAY\n" = some (TypeTag.ofKind .float64).withArray ∧
      TypeTag.ofText? (TypeTag.ofKind .float64).withArray.toText =
        some (TypeTag.ofKind .float64).withArray ∧
      parseSignature (signatureToJson quotedSignature).toText = .ok quotedSignature ∧
      parseSignature (signatureToJson [.ofTag .any, .ofTag ⟨3⟩]).toText =
        .error (.config "invalid signature descriptor") := by
  have spelled : TypeTag.ofText? " Float_ARRAY\n" = some (TypeTag.ofKind .float64).withArray := by
    decide +kernel
  obtain ⟨tags, -, signatures⟩ := names_read_back
  obtain ⟨whole, read⟩ := signatures quotedSignature (by decide)
  obtain ⟨wholeOther, readOther⟩ := signatures [.ofTag .any, .ofTag ⟨3⟩] (by decide)
  exact ⟨spelled, (tags _ _ spelled).2, (read _ whole).1 (by decide),
    (readOther _ wholeOther).2 (by decide)⟩

end RuntimeBridge
