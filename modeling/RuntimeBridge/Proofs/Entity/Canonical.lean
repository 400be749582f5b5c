/-
# The text of a path

The text of a path has its items in order, with no blanks and no empty items.  Where the values of a
text stand for themselves (`IsSettled`), reading the text of its path gives the path back
(`parse_toText`): the keys and values a reader finds hold no separators and no blanks at their ends, so
that putting them together and taking them apart again changes nothing.

Texts with the same items up to order, blanks and empty items (`Rearranged`) are read alike, so the text
of their path is the same for all of them.
-/
import Mathlib.Logic.Relation
import RuntimeBridge.Proofs.Entity.Reading
namespace RuntimeBridge

namespace EntityPath

/-! ## 1. Keys and values without separators -/

/-- What can stand on one side of an equals sign and is found there as it is. -/
structure IsPlain (cs : List Char) : Prop where
  trimmed : IsTrimmed cs
  comma : ',' ∉ cs
  equals : '=' ∉ cs

section

variable {item : List Char}

theorem isPlain_keyOf (comma : ',' ∉ item) : IsPlain (keyOf item) where
  trimmed := isTrimmed_trimChars _
  comma mem := comma ((List.takeWhile_sublist _).mem (mem_of_mem_trimChars mem))
  equals mem := by simpa using List.mem_takeWhile_imp (mem_of_mem_trimChars mem)

theorem isPlain_valueOf (comma : ',' ∉ item) (fine : ¬ IsFaulty item) : IsPlain (valueOf item) := by
  obtain absent | ⟨key, value, absent, rfl⟩ := not_mem_or_eq_append '=' item
  · rw [valueOf_lone absent]
    exact ⟨⟨rfl, rfl⟩, List.not_mem_nil, List.not_mem_nil⟩
  · have one : '=' ∉ value := by
      rw [IsFaulty, count_pair absent] at fine
      rw [← List.count_eq_zero]
      omega
    rw [valueOf_pair absent]
    exact ⟨isTrimmed_trimChars _, fun mem => comma (by simp [mem_of_mem_trimChars mem]),
      fun mem => one (mem_of_mem_trimChars mem)⟩

end

/-! ## 2. Items of a read path -/

/-- An item that its own text stands for. -/
structure IsSettled (env : Environment) (bound : String × String) : Prop where
  key : IsPlain bound.1.toList
  filled : bound.1.toList ≠ []
  value : IsPlain bound.2.toList
  stable : env.expand bound.2 = bound.2

/-- What an item binds is settled if its value stands for itself. -/
theorem isSettled_of_item {env : Environment} {item : List Char} (comma : ',' ∉ item)
    (fine : ¬ IsFaulty item) (stable : valueText env item = String.ofList (valueOf item)) :
    IsSettled env (keyText item, valueText env item) where
  key := by simpa [keyText] using isPlain_keyOf comma
  filled := by simpa [keyText] using fun none => fine (.inr none)
  value := by simpa [stable] using isPlain_valueOf comma fine
  stable := by
    rw [stable]
    exact stable

/-- The values of the items stand for themselves. -/
def IsStable (env : Environment) (text : String) : Prop :=
  ∀ item ∈ filled (rawItems text), valueText env item = String.ofList (valueOf item)

/-- Without references they do. -/
theorem isStable_of_plain (env : Environment) {text : String}
    (plain : ∀ c ∈ text.toList, c ≠ '%' ∧ c ≠ '$') : IsStable env text := by
  intro item mem
  refine expand_plain env.lookup fun c inside => plain c ?_
  rw [String.toList_ofList] at inside
  exact subset_of_mem_rawItems (mem_filled.mp mem).1 (mem_of_mem_valueOf inside)

theorem toList_itemText (bound : String × String) :
    (itemText bound).toList =
      if bound.2.toList = [] then bound.1.toList else bound.1.toList ++ '=' :: bound.2.toList := by
  rw [itemText]
  split <;> simp_all

section

variable {env : Environment} {bound : String × String}

theorem IsSettled.comma_not_mem (settled : IsSettled env bound) : ',' ∉ (itemText bound).toList := by
  rw [toList_itemText]
  split
  · exact settled.key.comma
  · simp [settled.key.comma, settled.value.comma]

theorem IsSettled.not_isBlank (settled : IsSettled env bound) :
    ¬ IsBlank (itemText bound).toList := by
  intro blank
  have key : IsBlank bound.1.toList := by
    intro c mem
    refine blank c ?_
    rw [toList_itemText]
    split <;> simp [mem]
  have none := trimChars_eq_nil_iff.mpr key
  rw [trimChars_of_isTrimmed settled.key.trimmed] at none
  exact settled.filled none

theorem IsSettled.keyText (settled : IsSettled env bound) :
    keyText (itemText bound).toList = bound.1 := by
  have absent := settled.key.equals
  rw [EntityPath.keyText, toList_itemText]
  split
  · rw [keyOf_lone absent, trimChars_of_isTrimmed settled.key.trimmed, String.ofList_toList]
  · rw [keyOf_pair absent, trimChars_of_isTrimmed settled.key.trimmed, String.ofList_toList]

theorem IsSettled.valueText (settled : IsSettled env bound) :
    valueText env (itemText bound).toList = bound.2 := by
  have absent := settled.key.equals
  rw [EntityPath.valueText, toList_itemText]
  split
  next none =>
    rw [valueOf_lone absent, ← none, String.ofList_toList, settled.stable]
  next =>
    rw [valueOf_pair absent, trimChars_of_isTrimmed settled.value.trimmed, String.ofList_toList,
      settled.stable]

theorem IsSettled.not_isFaulty (settled : IsSettled env bound) :
    ¬ IsFaulty (itemText bound).toList := by
  have one : (itemText bound).toList.count '=' ≤ 1 := by
    have key := List.count_eq_zero.mpr settled.key.equals
    have value := List.count_eq_zero.mpr settled.value.equals
    rw [toList_itemText]
    split
    · omega
    · rw [count_pair settled.key.equals]
      omega
  rintro (many | none)
  · omega
  · have key := settled.keyText
    rw [EntityPath.keyText, none] at key
    exact settled.filled (by rw [← key, String.toList_ofList])

end

/-! ## 3. Reading the text of a path -/

section

variable {env : Environment} {p : EntityPath}

/-- The text of a path has its items, and no others. -/
theorem filled_toText (settled : ∀ bound ∈ p.items, IsSettled env bound) :
    filled (rawItems p.toText) = p.items.map fun bound => (itemText bound).toList := by
  have apart : ∀ item ∈ p.items.map (fun bound => (itemText bound).toList), ',' ∉ item := by
    rw [List.forall_mem_map]
    exact fun bound mem => (settled bound mem).comma_not_mem
  have full : ∀ item ∈ p.items.map (fun bound => (itemText bound).toList), ¬ IsBlank item := by
    rw [List.forall_mem_map]
    exact fun bound mem => (settled bound mem).not_isBlank
  have text : p.toText.toList =
      [','].intercalate (p.items.map fun bound => (itemText bound).toList) := by
    rw [toText, String.toList_intercalate, List.map_map]
    rfl
  rw [rawItems, text]
  -- of no items there is one text, too: its one part is blank
  by_cases none : p.items = []
  · rw [none]
    rfl
  · rw [List.splitOn_intercalate _ apart (by simpa using none), filled,
      List.filter_eq_self.mpr (by simpa using full)]

theorem insertAll_itemText (settled : ∀ bound ∈ p.items, IsSettled env bound) :
    insertAll env {} (p.items.map fun bound => (itemText bound).toList) =
      p.items.foldl (fun q bound => q.insert bound.1 bound.2) {} := by
  rw [insertAll, List.foldl_map]
  refine List.foldl_ext _ _ _ fun q bound mem => ?_
  rw [(settled bound mem).keyText, (settled bound mem).valueText]

/-- **The text of a path gives the path back.** -/
theorem parse_toText (ordered : p.Ordered) (settled : ∀ bound ∈ p.items, IsSettled env bound) :
    parse env p.toText = .ok p := by
  rw [parse_eq_ok_iff, filled_toText settled, insertAll_itemText settled]
  refine ⟨?_, ordered.foldl_insert⟩
  rw [List.forall_mem_map]
  exact fun bound mem => (settled bound mem).not_isFaulty

/-- A read path holds what its items bind, and that is settled if their values stand for
themselves. -/
theorem isSettled_of_parse {text : String} (read : parse env text = .ok p)
    (stable : IsStable env text) : ∀ bound ∈ p.items, IsSettled env bound := by
  obtain ⟨fine, rfl⟩ := (parse_eq_ok_iff env).mp read
  intro bound mem
  rcases mem_insertAll env mem with none | ⟨item, source, rfl⟩
  · exact absurd none List.not_mem_nil
  · exact isSettled_of_item (comma_not_mem (mem_filled.mp source).1) (fine item source)
      (stable item source)

end

/-! ## 4. The same items -/

/-- Blanks are put around an item, or around the first equals sign in it. -/
inductive Respaced : List Char → List Char → Prop
  | around {front back : List Char} (item : List Char) :
    IsBlank front → IsBlank back → Respaced item (front ++ item ++ back)
  | inside {key front back : List Char} (value : List Char) :
    '=' ∉ key → IsBlank front → IsBlank back →
      Respaced (key ++ '=' :: value) (key ++ front ++ '=' :: (back ++ value))

/-- Two items with different keys change places, an item gets blanks, or a blank item comes in. -/
inductive Rearranged : List (List Char) → List (List Char) → Prop
  | swap {a b : List Char} (front rest : List (List Char)) :
    keyOf a ≠ keyOf b → Rearranged (front ++ a :: b :: rest) (front ++ b :: a :: rest)
  | respace {a b : List Char} (front rest : List (List Char)) :
    Respaced a b → Rearranged (front ++ a :: rest) (front ++ b :: rest)
  | blank {item : List Char} (front rest : List (List Char)) :
    IsBlank item → Rearranged (front ++ rest) (front ++ item :: rest)

/-- Blanks do not count for what an item says. -/
theorem Respaced.same {a b : List Char} (respaced : Respaced a b) :
    (IsBlank a ↔ IsBlank b) ∧ (IsFaulty a ↔ IsFaulty b) ∧ keyOf a = keyOf b ∧
      valueOf a = valueOf b := by
  cases respaced with
  | around item before behind =>
    rw [isFaulty_pad before behind, keyOf_pad before behind, valueOf_pad before behind,
      ← trimChars_eq_nil_iff, ← trimChars_eq_nil_iff, trimChars_pad before behind]
    exact ⟨.rfl, .rfl, rfl, rfl⟩
  | @inside key front back value absent before behind =>
    have padded : '=' ∉ key ++ front := by simp [absent, equals_not_mem_of_isBlank before]
    -- the blanks hold no equals sign, so the first one still divides key and value
    have none := List.count_eq_zero.mpr (equals_not_mem_of_isBlank behind)
    have sameKey : keyOf (key ++ '=' :: value) = keyOf (key ++ front ++ '=' :: (back ++ value)) := by
      rw [keyOf_pair absent, keyOf_pair padded, trimChars_append_right before]
    refine ⟨iff_of_false ?_ ?_, ?_, sameKey, ?_⟩
    · exact fun blank => equals_not_mem_of_isBlank blank (by simp)
    · exact fun blank => equals_not_mem_of_isBlank blank (by simp)
    · rw [IsFaulty, IsFaulty, sameKey, count_pair absent, count_pair padded, List.count_append, none,
        Nat.zero_add]
    · rw [valueOf_pair absent, valueOf_pair padded, trimChars_append_left behind]

section

variable {env : Environment} {p : EntityPath} {items items' : List (List Char)}

theorem filled_append (front rest : List (List Char)) :
    filled (front ++ rest) = filled front ++ filled rest :=
  List.filter_append _ _

theorem filled_cons (item : List Char) (rest : List (List Char)) :
    filled (item :: rest) = if IsBlank item then filled rest else item :: filled rest := by
  rw [filled, List.filter_cons, decide_not]
  by_cases blank : IsBlank item <;> simp [blank, filled]

/-- Neighbours with different keys go into a path in either order. -/
theorem insertAll_swap (ordered : p.Ordered) {a b : List Char} (other : keyOf a ≠ keyOf b)
    (rest : List (List Char)) :
    insertAll env p (filled (a :: b :: rest)) = insertAll env p (filled (b :: a :: rest)) := by
  have keys : keyText a ≠ keyText b := fun same => other (String.ofList_injective same)
  rw [filled_cons, filled_cons, filled_cons, filled_cons]
  split
  · rfl
  · split
    · rfl
    · rw [insertAll_cons, insertAll_cons, insertAll_cons, insertAll_cons, ordered.insert_comm keys]

/-- Rearrangement leaves what the items bind. -/
theorem Rearranged.insertAll_eq (rearranged : Rearranged items items') :
    insertAll env {} (filled items) = insertAll env {} (filled items') := by
  cases rearranged with
  | swap front rest other =>
    rw [filled_append, filled_append, insertAll_append, insertAll_append]
    exact insertAll_swap (ordered_empty.insertAll env _) other rest
  | respace front rest respaced =>
    obtain ⟨blank, -, key, value⟩ := respaced.same
    rw [filled_append, filled_append, insertAll_append, insertAll_append, filled_cons, filled_cons]
    simp only [blank]
    split
    · rfl
    · rw [insertAll_cons, insertAll_cons, keyText, keyText, key, valueText, valueText, value]
  | blank front rest blank =>
    rw [filled_append, filled_append, filled_cons, if_pos blank]

/-- Rearrangement leaves the items free of faults. -/
theorem Rearranged.fine_iff (rearranged : Rearranged items items') :
    (∀ item ∈ filled items, ¬ IsFaulty item) ↔ ∀ item ∈ filled items', ¬ IsFaulty item := by
  simp only [mem_filled]
  cases rearranged with
  | swap front rest _ => simp only [List.mem_append, List.mem_cons, or_left_comm]
  | respace front rest respaced =>
    obtain ⟨blank, faulty, -, -⟩ := respaced.same
    simp [or_imp, forall_and, blank, faulty]
  | blank front rest blank => simp [or_imp, forall_and, blank]

/-- Texts with the same items are read alike. -/
theorem parse_of_rearranged {text text' : String}
    (same : Relation.EqvGen Rearranged (rawItems text) (rawItems text')) :
    parse env text = .ok p ↔ parse env text' = .ok p := by
  rw [parse_eq_ok_iff, parse_eq_ok_iff]
  generalize rawItems text = items, rawItems text' = items' at same
  induction same with
  | rel _ _ step => rw [step.insertAll_eq, step.fine_iff]
  | refl => rfl
  | symm _ _ _ ih => exact ih.symm
  | trans _ _ _ _ _ ih ih' => exact ih.trans ih'

end

/-- **A path has a canonical text.**  A text is refused if an item that is not blank has two equals
signs or a blank key, and the first such item is what is complained of.  Any other text is read: under
each key stands the expanded value of the last item with this key, which is nothing for a lone key.  If
the values of the text stand for themselves, the text of its path is read as this path again.  Items
with different keys in another order, blanks around items, keys and values, and empty items make no
difference. -/
theorem entity_path_canonical (env : Environment) :
    (∀ text, (∃ e, parse env text = .error e) ↔
      ∃ item ∈ rawItems text, ¬ IsBlank item ∧
        (2 ≤ item.count '=' ∨ IsBlank (item.takeWhile (· != '=')))) ∧
    (∀ text e, parse env text = .error e ↔
      ∃ front item rest, filled (rawItems text) = front ++ item :: rest ∧
        (∀ other ∈ front, ¬ IsFaulty other) ∧ IsFaulty item ∧ complaint item = e) ∧
    (∀ text p, parse env text = .ok p ↔
      (∀ item ∈ filled (rawItems text), ¬ IsFaulty item) ∧ p.Ordered ∧
        ∀ key, p.get? key = ((filled (rawItems text)).filter fun item => keyText item = key).getLast?.map
          (valueText env)) ∧
    (∀ item, '=' ∉ item → valueText env item = "") ∧
    (∀ text p, parse env text = .ok p → IsStable env text → parse env p.toText = .ok p) ∧
    ∀ text text' p, Relation.EqvGen Rearranged (rawItems text) (rawItems text') →
      (parse env text = .ok p ↔ parse env text' = .ok p) := by
  refine ⟨fun text => ?_, fun text e => parse_eq_error_iff env, fun text p => ?_,
    fun item absent => valueText_lone env absent, fun text p read stable => ?_,
    fun text text' p same => parse_of_rearranged same⟩
  · rw [exists_parse_eq_error_iff]
    simp only [mem_filled, IsFaulty, keyOf, trimChars_eq_nil_iff, and_assoc]
  · rw [parse_eq_ok_iff]
    refine and_congr_right fun fine => ⟨?_, ?_⟩
    · rintro rfl
      refine ⟨ordered_empty.insertAll env _, fun key => ?_⟩
      rw [get?_insertAll]
      exact Option.or_none
    · rintro ⟨ordered, bound⟩
      refine Ordered.ext (ordered_empty.insertAll env _) ordered fun key => ?_
      rw [bound, get?_insertAll]
      exact Option.or_none
  · obtain ⟨-, rfl⟩ := (parse_eq_ok_iff env).mp read
    exact parse_toText (ordered_empty.insertAll env _) (isSettled_of_parse read stable)

/-- A pair with blanks in front of a lone key, and the same without blanks in order. -/
theorem entity_path_canonical_spaced :
    let env : Environment := {}
    let p : EntityPath := ⟨[("a", ""), ("b", "x")]⟩
    '=' ∉ "a".toList ∧ parse env "b = x,,a" = .ok p ∧ IsStable env "b = x,,a" ∧
      parse env p.toText = .ok p ∧
      Relation.EqvGen Rearranged (rawItems "a,b=x") (rawItems "b = x,,a") ∧
      parse env "a,b=x" = .ok p := by
  intro env p
  have absent : '=' ∉ "a".toList := by decide
  have stable : IsStable env "b = x,,a" := isStable_of_plain env (by simp)
  have source : rawItems "a,b=x" = [['a'], ['b', '=', 'x']] := by decide
  have target : rawItems "b = x,,a" = [['b', ' ', '=', ' ', 'x'], [], ['a']] := by decide
  have items : filled (rawItems "b = x,,a") = [['b', ' ', '=', ' ', 'x'], ['a']] := by decide
  have read : parse env "b = x,,a" = .ok p := by
    rw [parse_eq_ok_iff]
    refine ⟨by decide, ?_⟩
    rw [IsStable, items] at stable
    rw [items, insertAll_cons, insertAll_cons, stable _ List.mem_cons_self,
      stable ['a'] (List.mem_cons_of_mem _ List.mem_cons_self)]
    decide
  have swapped : Rearranged [['a'], ['b', '=', 'x']] [['b', '=', 'x'], ['a']] :=
    .swap [] [] (by decide)
  have spaced : Respaced ['b', '=', 'x'] ['b', ' ', '=', ' ', 'x'] :=
    .inside ['x'] (by decide : '=' ∉ ['b']) (by decide : IsBlank [' ']) (by decide : IsBlank [' '])
  have emptied : Rearranged [['b', ' ', '=', ' ', 'x'], ['a']]
      [['b', ' ', '=', ' ', 'x'], [], ['a']] :=
    .blank [['b', ' ', '=', ' ', 'x']] [['a']] (by decide)
  have same : Relation.EqvGen Rearranged (rawItems "a,b=x") (rawItems "b = x,,a") := by
    rw [source, target]
    exact .trans _ _ _ (.rel _ _ swapped)
      (.trans _ _ _ (.rel _ _ (.respace [] [['a']] spaced)) (.rel _ _ emptied))
  obtain ⟨-, -, -, -, again, alike⟩ := entity_path_canonical env
  exact ⟨absent, read, stable, again _ p read stable, same, (alike _ _ p same).mpr read⟩

end EntityPath

end RuntimeBridge
