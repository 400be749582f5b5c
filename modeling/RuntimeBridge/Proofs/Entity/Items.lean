/-
# Items of an entity path

An item stands between commas; its key goes up to the first equals sign, its value from there on, and
neither counts the blanks around it.  The reader trims an item before it divides it, which makes no
difference (`parseItem_trimChars`): what it finds or refuses is told by the item as it stands in the
text.
-/
import RuntimeBridge.Entity.Path
import RuntimeBridge.Proofs.Text.Trimming
namespace RuntimeBridge

/-! ## 1. Parts between separators -/

section

variable {sep : Char} {cs front : List Char}

theorem splitChars_eq_splitOn (sep : Char) (cs : List Char) : splitChars sep cs = cs.splitOn sep := by
  induction cs with
  | nil => rfl
  | cons c cs ih =>
    rw [splitChars, ih, List.splitOn_cons_eq_if_modifyHead]
    split
    · rfl
    · cases parts : cs.splitOn sep with
      | nil => exact absurd parts (List.splitOn_ne_nil sep cs)
      | cons first rest => rfl

theorem splitChars_of_not_mem (absent : sep ∉ cs) : splitChars sep cs = [cs] := by
  rw [splitChars_eq_splitOn, List.splitOn_eq_singleton absent]

theorem splitChars_append (absent : sep ∉ front) (cs : List Char) :
    splitChars sep (front ++ sep :: cs) = front :: splitChars sep cs := by
  rw [splitChars_eq_splitOn, splitChars_eq_splitOn, List.splitOn_append_cons_self_of_not_mem absent]

/-- Either there is no separator, or the first one divides the text. -/
theorem not_mem_or_eq_append (sep : Char) (cs : List Char) :
    sep ∉ cs ∨ ∃ front behind, sep ∉ front ∧ cs = front ++ sep :: behind := by
  by_cases mem : sep ∈ cs
  · obtain ⟨front, behind, parts, absent⟩ := List.eq_append_cons_of_mem mem
    exact .inr ⟨front, behind, absent, parts⟩
  · exact .inl mem

/-- Induction along the separators of a text. -/
theorem bySeparators {motive : List Char → Prop} (sep : Char)
    (lone : ∀ cs, sep ∉ cs → motive cs)
    (parted : ∀ front behind, sep ∉ front → motive behind → motive (front ++ sep :: behind))
    (cs : List Char) : motive cs := by
  obtain absent | ⟨front, behind, absent, parts⟩ := not_mem_or_eq_append sep cs
  · exact lone cs absent
  · have shorter : behind.length < cs.length := by
      rw [parts, List.length_append, List.length_cons]
      omega
    exact parts ▸ parted front behind absent (bySeparators sep lone parted behind)
termination_by cs.length

/-- There is one part more than there are separators. -/
theorem length_splitChars (sep : Char) (cs : List Char) :
    (splitChars sep cs).length = cs.count sep + 1 := by
  induction cs using bySeparators sep with
  | lone cs absent => rw [splitChars_of_not_mem absent, List.count_eq_zero.mpr absent]; rfl
  | parted front behind absent ih =>
    rw [splitChars_append absent, List.length_cons, ih, List.count_append,
      List.count_eq_zero.mpr absent, List.count_cons_self, Nat.zero_add]

/-- No part holds the separator. -/
theorem not_mem_of_mem_splitChars {part : List Char} (mem : part ∈ splitChars sep cs) :
    sep ∉ part := by
  induction cs using bySeparators sep with
  | lone cs absent =>
    rw [splitChars_of_not_mem absent, List.mem_singleton] at mem
    exact mem ▸ absent
  | parted front behind absent ih =>
    rw [splitChars_append absent] at mem
    rcases List.mem_cons.mp mem with rfl | mem
    · exact absent
    · exact ih mem

/-- The parts have their characters from the text. -/
theorem subset_of_mem_splitChars {part : List Char} (mem : part ∈ splitChars sep cs) :
    part ⊆ cs := by
  induction cs using bySeparators sep with
  | lone cs absent =>
    rw [splitChars_of_not_mem absent, List.mem_singleton] at mem
    exact mem ▸ List.Subset.refl part
  | parted front behind absent ih =>
    rw [splitChars_append absent] at mem
    rcases List.mem_cons.mp mem with rfl | mem
    · exact List.subset_append_left part _
    · exact List.subset_append_of_subset_right front (List.subset_cons_of_subset sep (ih mem))

theorem IsBlank.not_mem (blank : IsBlank cs) (other : isBlank sep = false) : sep ∉ cs := by
  intro mem
  rw [blank sep mem] at other
  cases other

end

namespace EntityPath

variable {item key value : List Char}

/-! ## 2. Keys and values -/

/-- What stands in an item in front of the first equals sign, without the blanks around it. -/
def keyOf (item : List Char) : List Char := trimChars (item.takeWhile (· != '='))

/-- What stands behind the first equals sign, without the blanks around it; nothing in a lone key. -/
def valueOf (item : List Char) : List Char := trimChars ((item.dropWhile (· != '=')).drop 1)

/-- The item has two equals signs, or blanks for a key. -/
def IsFaulty (item : List Char) : Prop := 2 ≤ item.count '=' ∨ keyOf item = []

instance (item : List Char) : Decidable (IsFaulty item) :=
  inferInstanceAs (Decidable (_ ∨ _))

/-- What is said of a faulty item. -/
def complaint (item : List Char) : BridgeError :=
  .invalidEntityPath ("'" ++ String.ofList (trimChars item) ++ "'" ++
    if 2 ≤ item.count '=' then " contains too many '='" else " has an empty key")

theorem ne_equals_of_not_mem (absent : '=' ∉ key) : ∀ c ∈ key, (c != '=') = true := by
  intro c mem
  rw [bne_iff_ne]
  rintro rfl
  exact absent mem

theorem keyOf_lone (absent : '=' ∉ item) : keyOf item = trimChars item := by
  rw [keyOf, List.takeWhile_eq_self_iff.mpr (ne_equals_of_not_mem absent)]

theorem valueOf_lone (absent : '=' ∉ item) : valueOf item = [] := by
  rw [valueOf, List.dropWhile_eq_nil_iff.mpr (ne_equals_of_not_mem absent)]
  rfl

theorem keyOf_pair (absent : '=' ∉ key) (value : List Char) :
    keyOf (key ++ '=' :: value) = trimChars key := by
  rw [keyOf, List.takeWhile_append_of_pos (ne_equals_of_not_mem absent),
    List.takeWhile_cons_of_neg (by decide), List.append_nil]

theorem valueOf_pair (absent : '=' ∉ key) (value : List Char) :
    valueOf (key ++ '=' :: value) = trimChars value := by
  rw [valueOf, List.dropWhile_append_of_pos (ne_equals_of_not_mem absent),
    List.dropWhile_cons_of_neg (by decide), List.drop_one, List.tail_cons]

theorem mem_of_mem_valueOf {c : Char} (mem : c ∈ valueOf item) : c ∈ item :=
  (List.dropWhile_sublist _).mem (List.mem_of_mem_drop (mem_of_mem_trimChars mem))

theorem count_pair (absent : '=' ∉ key) (value : List Char) :
    (key ++ '=' :: value).count '=' = value.count '=' + 1 := by
  rw [List.count_append, List.count_eq_zero.mpr absent, List.count_cons_self, Nat.zero_add]

/-! ## 3. What the reader makes of an item -/

/-- A lone key is found as it is. -/
theorem parseItem_lone (absent : '=' ∉ item) (trimmed : IsTrimmed item) (filled : item ≠ []) :
    parseItem item = .ok (String.ofList (keyOf item), String.ofList (valueOf item)) := by
  rw [parseItem, splitChars_of_not_mem absent, keyOf_lone absent, valueOf_lone absent,
    trimChars_of_isTrimmed trimmed]
  simp [filled, trimChars_of_isTrimmed trimmed]

/-- A key with a value is found up to the equals signs in the value and the blanks around both. -/
theorem parseItem_pair (absent : '=' ∉ key) (trimmed : IsTrimmed (key ++ '=' :: value)) :
    parseItem (key ++ '=' :: value) =
      if IsFaulty (key ++ '=' :: value) then .error (complaint (key ++ '=' :: value))
      else .ok (String.ofList (keyOf (key ++ '=' :: value)),
        String.ofList (valueOf (key ++ '=' :: value))) := by
  have parts : (splitChars '=' (key ++ '=' :: value)).map trimChars =
      trimChars key :: (splitChars '=' value).map trimChars := by
    rw [splitChars_append absent, List.map_cons]
  have length := length_splitChars '=' value
  rw [parseItem, parts]
  simp only [IsFaulty, complaint, keyOf_pair absent, valueOf_pair absent, count_pair absent,
    trimChars_of_isTrimmed trimmed, List.length_map, length, List.isEmpty_iff]
  by_cases many : 2 ≤ value.count '=' + 1
  · rw [if_pos (by omega), if_pos (.inl many), if_pos many]
  · have one : '=' ∉ value := List.count_eq_zero.mp (by omega)
    rw [if_neg (by omega), if_neg many, splitChars_of_not_mem one]
    simp only [many, false_or, List.map_singleton, List.head?_singleton]
    rfl

/-- What the reader makes of an item without blanks around it. -/
theorem parseItem_of_isTrimmed (trimmed : IsTrimmed item) (filled : item ≠ []) :
    parseItem item =
      if IsFaulty item then .error (complaint item)
      else .ok (String.ofList (keyOf item), String.ofList (valueOf item)) := by
  obtain absent | ⟨key, value, absent, rfl⟩ := not_mem_or_eq_append '=' item
  · have fine : ¬ IsFaulty item := by
      rw [IsFaulty, List.count_eq_zero.mpr absent, keyOf_lone absent, trimChars_of_isTrimmed trimmed]
      rintro (many | none)
      · omega
      · exact filled none
    rw [if_neg fine, parseItem_lone absent trimmed filled]
  · exact parseItem_pair absent trimmed

/-! ## 4. Blanks do not count -/

section

variable {front back : List Char}

theorem equals_not_mem_of_isBlank (blank : IsBlank front) : '=' ∉ front :=
  blank.not_mem (by decide)

/-- Blanks around a lone key leave it one; blanks around a pair go to the key and to the value. -/
theorem pad_cases (before : IsBlank front) (behind : IsBlank back) (item : List Char) :
    '=' ∉ item ∧ '=' ∉ front ++ item ++ back ∨
      ∃ key value, '=' ∉ key ∧ '=' ∉ front ++ key ∧ item = key ++ '=' :: value ∧
        front ++ item ++ back = (front ++ key) ++ '=' :: (value ++ back) := by
  have hfront := equals_not_mem_of_isBlank before
  have hback := equals_not_mem_of_isBlank behind
  obtain absent | ⟨key, value, absent, rfl⟩ := not_mem_or_eq_append '=' item
  · exact .inl ⟨absent, by simp [hfront, absent, hback]⟩
  · exact .inr ⟨key, value, absent, by simp [hfront, absent], rfl, by simp⟩

/-- Blanks around an item do not count for its key. -/
theorem keyOf_pad (before : IsBlank front) (behind : IsBlank back) (item : List Char) :
    keyOf (front ++ item ++ back) = keyOf item := by
  obtain ⟨absent, padded⟩ | ⟨key, value, absent, padded, rfl, parts⟩ := pad_cases before behind item
  · rw [keyOf_lone padded, keyOf_lone absent, trimChars_pad before behind]
  · rw [parts, keyOf_pair padded, keyOf_pair absent, trimChars_append_left before]

/-- Blanks around an item do not count for its value. -/
theorem valueOf_pad (before : IsBlank front) (behind : IsBlank back) (item : List Char) :
    valueOf (front ++ item ++ back) = valueOf item := by
  obtain ⟨absent, padded⟩ | ⟨key, value, absent, padded, rfl, parts⟩ := pad_cases before behind item
  · rw [valueOf_lone padded, valueOf_lone absent]
  · rw [parts, valueOf_pair padded, valueOf_pair absent, trimChars_append_right behind]

theorem count_pad (before : IsBlank front) (behind : IsBlank back) (item : List Char) :
    (front ++ item ++ back).count '=' = item.count '=' := by
  rw [List.count_append, List.count_append,
    List.count_eq_zero.mpr (equals_not_mem_of_isBlank before),
    List.count_eq_zero.mpr (equals_not_mem_of_isBlank behind), Nat.zero_add, Nat.add_zero]

/-- Blanks around an item do not count for whether it is faulty. -/
theorem isFaulty_pad (before : IsBlank front) (behind : IsBlank back) (item : List Char) :
    IsFaulty (front ++ item ++ back) ↔ IsFaulty item := by
  rw [IsFaulty, IsFaulty, count_pad before behind, keyOf_pad before behind]

theorem complaint_pad (before : IsBlank front) (behind : IsBlank back) (item : List Char) :
    complaint (front ++ item ++ back) = complaint item := by
  rw [complaint, complaint, count_pad before behind, trimChars_pad before behind]

end

/-- **What the reader makes of an item.** -/
theorem parseItem_trimChars {item : List Char} (filled : ¬ IsBlank item) :
    parseItem (trimChars item) =
      if IsFaulty item then .error (complaint item)
      else .ok (String.ofList (keyOf item), String.ofList (valueOf item)) := by
  have some : trimChars item ≠ [] := fun none => filled (trimChars_eq_nil_iff.mp none)
  obtain ⟨front, back, before, behind, parts⟩ := eq_append_trimChars item
  have hkey := keyOf_pad before behind (trimChars item)
  have hvalue := valueOf_pad before behind (trimChars item)
  have hfaulty := isFaulty_pad before behind (trimChars item)
  have hcomplaint := complaint_pad before behind (trimChars item)
  rw [← parts] at hkey hvalue hfaulty hcomplaint
  rw [parseItem_of_isTrimmed (isTrimmed_trimChars item) some, hkey, hvalue, hcomplaint]
  simp only [hfaulty]

end EntityPath

end RuntimeBridge
