/-
# Signatures cross as descriptors

A signature is laid out as one entry after the other, with the C strings of the aliases beside them.
Only types whose alias is a C string add one, so the number of a string is not the number of its entry;
what keeps each alias with its own entry is that strings are only ever added behind the others
(`follow_push`).  What a reader finds behind the entries is one descriptor for each type, in order
(`descriptors_ofTypes`).

What comes back (`TypeInfo.received`) has the same tag, the alias if it holds no NUL, and the same
dimensions unless they are negative and the type is no array.  To come back once more changes nothing,
and types that agreed agree still.

Main statement: `descriptors_lossless`.
-/
import Mathlib.Data.List.Induction
import RuntimeBridge.Abi.Argument
import RuntimeBridge.Proofs.Cell.Payload
namespace RuntimeBridge

/-! ## 1. The layout in memory -/

/-- The octets of a C string, which holds no NUL. -/
def cString? (s : String) : Option (List UInt8) :=
  if holdsNul s then none else some (Utf8.encode s)

theorem TypeDescriptor.ofInfo_eq (t : TypeInfo) :
    ofInfo t = ⟨t.tag, t.aliasName.bind cString?, false, t.dimensions⟩ := rfl

/-- A descriptor whose alias is a pointer: the number of the C string. -/
structure DescriptorEntry where
  tag : TypeTag
  pointer : Option Nat
  dimensions : Int
  deriving DecidableEq

/-- Entries, and the C strings that they point to. -/
structure DescriptorTable where
  entries : List DescriptorEntry := []
  strings : List (List UInt8) := []

namespace DescriptorTable

/-- Add the entry of a type, and the C string of its alias if there is one. -/
def push (table : DescriptorTable) (t : TypeInfo) : DescriptorTable :=
  match t.aliasName.bind cString? with
  | some octets =>
    { entries := table.entries ++ [⟨t.tag, some table.strings.length, t.dimensions⟩]
      strings := table.strings ++ [octets] }
  | none => { table with entries := table.entries ++ [⟨t.tag, none, t.dimensions⟩] }

def ofTypes (types : List TypeInfo) : DescriptorTable := types.foldl push {}

/-- What a reader finds behind an entry. -/
def follow (table : DescriptorTable) (entry : DescriptorEntry) : TypeDescriptor where
  tag := entry.tag
  aliasName := entry.pointer.bind fun i => table.strings[i]?
  freeAlias := false
  dimensions := entry.dimensions

def descriptors (table : DescriptorTable) : List TypeDescriptor := table.entries.map table.follow

/-- Every pointer leads to a string. -/
def Sound (table : DescriptorTable) : Prop :=
  ∀ entry ∈ table.entries, ∀ i ∈ entry.pointer, i < table.strings.length

variable {table : DescriptorTable}

theorem sound_push (sound : table.Sound) (t : TypeInfo) : (table.push t).Sound := by
  intro entry mem i pointer
  simp only [push] at mem ⊢
  split at mem
  next octets _ =>
    simp only [List.length_append, List.length_singleton]
    rcases List.mem_append.mp mem with mem | mem
    · exact Nat.lt_succ_of_lt (sound entry mem i pointer)
    · rw [List.mem_singleton.mp mem] at pointer
      exact Nat.lt_succ_of_le (Nat.le_of_eq (Option.some.inj pointer).symm)
  next =>
    rcases List.mem_append.mp mem with mem | mem
    · exact sound entry mem i pointer
    · rw [List.mem_singleton.mp mem] at pointer
      cases pointer

/-- **Entries keep their strings** when others come behind them. -/
theorem follow_push (sound : table.Sound) (t : TypeInfo) {entry : DescriptorEntry}
    (mem : entry ∈ table.entries) : (table.push t).follow entry = table.follow entry := by
  simp only [push]
  split
  next octets _ =>
    simp only [follow]
    congr 1
    refine Option.bind_congr fun i pointer => ?_
    exact List.getElem?_append_left (sound entry mem i pointer)
  next => rfl

/-- A new entry leads to the alias of its type. -/
theorem descriptors_push (sound : table.Sound) (t : TypeInfo) :
    (table.push t).descriptors = table.descriptors ++ [.ofInfo t] := by
  have older : table.entries.map (table.push t).follow = table.descriptors :=
    List.map_congr_left fun entry mem => follow_push sound t mem
  rw [descriptors, ← older, TypeDescriptor.ofInfo_eq]
  cases octets : t.aliasName.bind cString? <;> simp [push, octets, follow]

/-- **Behind the entries lie the descriptors of the types**, one for each and in order. -/
theorem descriptors_ofTypes (types : List TypeInfo) :
    (ofTypes types).descriptors = types.map TypeDescriptor.ofInfo := by
  have built : (ofTypes types).Sound ∧
      (ofTypes types).descriptors = types.map TypeDescriptor.ofInfo := by
    induction types using List.reverseRecOn with
    | nil => exact ⟨nofun, rfl⟩
    | append_singleton types t ih =>
      obtain ⟨sound, same⟩ := ih
      have last : ofTypes (types ++ [t]) = (ofTypes types).push t := by
        simp [ofTypes, List.foldl_append]
      rw [last, descriptors_push sound, same, List.map_append, List.map_singleton]
      exact ⟨sound_push sound t, rfl⟩
  exact built.2

end DescriptorTable

/-! ## 2. What comes back -/

/-- What another runtime reads of a type. -/
def TypeInfo.received (t : TypeInfo) : TypeInfo where
  tag := t.tag
  aliasName := t.aliasName.filter fun a => !holdsNul a
  dimensions := if !t.tag.isArray && t.dimensions < 0 then 0 else t.dimensions

theorem decodeLossy_cString {s : String} (plain : holdsNul s = false) :
    Utf8.decodeLossy ((Utf8.encode s).takeWhile (· != 0)) = s := by
  have whole : (Utf8.encode s).takeWhile (· != 0) = Utf8.encode s := by
    rw [List.takeWhile_eq_self_iff]
    intro octet mem
    obtain ⟨c, here, encoded⟩ := List.mem_flatMap.mp mem
    rw [bne_iff_ne]
    exact Utf8.ne_zero_of_mem_encodeChar ((holdsNul_eq_false_iff s).mp plain c here) octet encoded
  rw [whole]
  exact (Utf8.decodeLossy_encodeChars s.toList).trans String.ofList_toList

theorem TypeDescriptor.toInfo_ofInfo (t : TypeInfo) : (ofInfo t).toInfo = t.received := by
  obtain ⟨tag, aliasName, dimensions⟩ := t
  have same : ((aliasName.bind cString?).map fun octets =>
      Utf8.decodeLossy (octets.takeWhile (· != 0))) = aliasName.filter fun a => !holdsNul a := by
    cases aliasName with
    | none => rfl
    | some a =>
      cases plain : holdsNul a with
      | true => simp [cString?, plain, Option.filter_some]
      | false => simp [cString?, plain, Option.filter_some, decodeLossy_cString plain]
  simp only [ofInfo_eq, toInfo, TypeInfo.received, same]
  rfl

/-- A type that came back once comes back as it is. -/
theorem TypeInfo.received_received (t : TypeInfo) : t.received.received = t.received := by
  obtain ⟨tag, aliasName, dimensions⟩ := t
  simp only [received, Option.filter_filter, Bool.and_self, mk.injEq, true_and]
  split <;> simp_all

/-- Types that agreed agree when they came back. -/
theorem TypeInfo.agrees_received {t u : TypeInfo} (agrees : t.agrees u = true) :
    t.received.agrees u.received = true := by
  obtain ⟨tag, dimensions⟩ : t.tag = u.tag ∧ t.dimensions = u.dimensions := by
    simpa [TypeInfo.agrees] using agrees
  simp [TypeInfo.agrees, received, tag, dimensions]

theorem signaturesAgree_received {types others : List TypeInfo}
    (agree : signaturesAgree types others = true) :
    signaturesAgree (types.map TypeInfo.received) (others.map TypeInfo.received) = true := by
  rw [signaturesAgree, Bool.and_eq_true, List.all_eq_true] at agree ⊢
  obtain ⟨length, pairs⟩ := agree
  refine ⟨by simpa using length, ?_⟩
  rw [List.zip_map, List.forall_mem_map]
  exact fun pair mem => TypeInfo.agrees_received (pairs pair mem)

/-! ## 3. Signatures -/

namespace Abi.SignatureArgument

variable {types : List TypeInfo}

theorem ofTypes_of_long (long : signatureLimit < types.length) :
    ofTypes types = .error (.signatureTooLong types.length) := by
  simp only [ofTypes, TypeDescriptor.pack, signatureCount?, if_neg (Nat.not_le_of_lt long)]

theorem ofTypes_of_short (short : types.length ≤ signatureLimit) :
    ofTypes types = .ok
      ⟨if types.isEmpty then none else some (DescriptorTable.ofTypes types).descriptors,
        types.length⟩ := by
  simp only [ofTypes, TypeDescriptor.pack, signatureCount?, if_pos short,
    DescriptorTable.descriptors_ofTypes, List.isEmpty_map, List.length_map]

/-- **What is read** are the types as they come back. -/
theorem types_of_ofTypes {s : SignatureArgument} (packed : ofTypes types = .ok s) :
    s.types = types.map TypeInfo.received := by
  by_cases short : types.length ≤ signatureLimit
  · rw [ofTypes_of_short short] at packed
    rw [← Except.ok.inj packed, SignatureArgument.types]
    cases types with
    | nil => rfl
    | cons t rest =>
      simp only [List.isEmpty_cons, Bool.false_eq_true, if_false, TypeDescriptor.unpack,
        DescriptorTable.descriptors_ofTypes, Int.toNat_natCast, List.map_take, List.map_map]
      rw [List.take_of_length_le (by simp)]
      exact List.map_congr_left fun t _ => TypeDescriptor.toInfo_ofInfo t
  · rw [ofTypes_of_long (Nat.lt_of_not_le short)] at packed
    cases packed

end Abi.SignatureArgument

open Abi in
/-- **Descriptors carry signatures without loss.**  A signature is refused just when it has more than
127 types.  Any other one is laid out with a count that fits in eight bits, and each type comes back
with its tag, its alias unless that holds NUL, and its dimensions unless they are negative and it is no
array.  What came back comes back the same from then on, and signatures that agree agree afterwards. -/
theorem descriptors_lossless (types : List TypeInfo) :
    (∀ e, SignatureArgument.ofTypes types = .error e ↔
      127 < types.length ∧ e = .signatureTooLong types.length) ∧
    (types.length ≤ 127 → ∃ s, SignatureArgument.ofTypes types = .ok s ∧
      s.descriptors =
        (if types.isEmpty then none else some (DescriptorTable.ofTypes types).descriptors) ∧
      s.count = types.length ∧ s.count = (Int8.ofNat types.length).toInt ∧
      s.types = types.map TypeInfo.received ∧
      (∃ again, SignatureArgument.ofTypes s.types = .ok again ∧ again.types = s.types) ∧
      ∀ others, signaturesAgree types others = true →
        ∃ o, SignatureArgument.ofTypes others = .ok o ∧ signaturesAgree s.types o.types = true) := by
  refine ⟨fun e => ?_, fun short => ?_⟩
  · by_cases long : 127 < types.length
    · rw [SignatureArgument.ofTypes_of_long long, Except.error.injEq, and_iff_right long]
      exact eq_comm
    · rw [SignatureArgument.ofTypes_of_short (Nat.le_of_not_lt long)]
      exact iff_of_false nofun fun refused => long refused.1
  · have packed := SignatureArgument.ofTypes_of_short short
    have read := SignatureArgument.types_of_ofTypes packed
    have narrow : (Int8.ofNat types.length).toInt = types.length :=
      Int8.toInt_ofNat_of_lt (by omega)
    have shortAgain : (types.map TypeInfo.received).length ≤ signatureLimit := by
      rw [List.length_map]
      exact short
    have packedAgain := SignatureArgument.ofTypes_of_short shortAgain
    refine ⟨_, packed, rfl, rfl, narrow.symm, read, ?_, fun others agree => ?_⟩
    · rw [read]
      refine ⟨_, packedAgain, ?_⟩
      rw [SignatureArgument.types_of_ofTypes packedAgain, List.map_map]
      exact List.map_congr_left fun t _ => t.received_received
    · have length : types.length = others.length := by
        rw [signaturesAgree, Bool.and_eq_true] at agree
        exact eq_of_beq agree.1
      have packedOthers := SignatureArgument.ofTypes_of_short (length ▸ short)
      refine ⟨_, packedOthers, ?_⟩
      rw [read, SignatureArgument.types_of_ofTypes packedOthers]
      exact signaturesAgree_received agree

/-- Of four types two have an alias that is kept; one loses its dimensions, and one its alias. -/
def mixedSignature : List TypeInfo :=
  [.ofTag .any, ⟨.ofKind (.int .int64), some "rows", mixedDimensions⟩,
    ⟨.ofKind .bool, some "a\x00b", 0⟩, ⟨.withArray .handle, some "größe", mixedDimensions⟩]

theorem descriptors_lossless_mixedSignature :
    mixedSignature.length ≤ 127 ∧ signaturesAgree mixedSignature mixedSignature = true ∧
      Abi.SignatureArgument.ofTypes (List.replicate 128 (.ofTag .any)) =
        .error (.signatureTooLong 128) ∧
      ∃ s, Abi.SignatureArgument.ofTypes mixedSignature = .ok s ∧
        s.types = [.ofTag .any, ⟨.ofKind (.int .int64), some "rows", 0⟩, .ofTag (.ofKind .bool),
          ⟨.withArray .handle, some "größe", mixedDimensions⟩] ∧
        ∃ o, Abi.SignatureArgument.ofTypes mixedSignature = .ok o ∧
          signaturesAgree s.types o.types = true := by
  have short : mixedSignature.length ≤ 127 := by decide
  have agree : signaturesAgree mixedSignature mixedSignature = true := by decide
  have length : (List.replicate 128 (TypeInfo.ofTag .any)).length = 128 := List.length_replicate
  have refused := ((descriptors_lossless (List.replicate 128 (.ofTag .any))).1
    (.signatureTooLong 128)).mpr ⟨by omega, by rw [length]⟩
  obtain ⟨s, packed, -, -, -, read, -, matching⟩ := (descriptors_lossless mixedSignature).2 short
  exact ⟨short, agree, refused, s, packed, read.trans (by decide), matching _ agree⟩

end RuntimeBridge
