/-
# What a text binds

Of the items of a text those that are blank do not count.  The first faulty one, if any, is what is
complained of (`parse_eq_error_iff`).  Otherwise the items go into the path one after the other, so that
a key has the value of its last item (`get?_insertAll`), and as the path is ordered that says
everything about it (`parse_eq_ok_iff`).
-/
import RuntimeBridge.Proofs.Entity.Items
import RuntimeBridge.Proofs.Entity.Order
import RuntimeBridge.Proofs.Environment.SinglePass
namespace RuntimeBridge

namespace EntityPath

/-! ## 1. Items of a text -/

/-- What stands between the commas of a text. -/
def rawItems (text : String) : List (List Char) := text.toList.splitOn ','

/-- The items that are not blank. -/
def filled (items : List (List Char)) : List (List Char) := items.filter fun item => ¬ IsBlank item

theorem mem_filled {item : List Char} {items : List (List Char)} :
    item ∈ filled items ↔ item ∈ items ∧ ¬ IsBlank item := by
  rw [filled, List.mem_filter, decide_eq_true_iff]

theorem comma_not_mem {text : String} {item : List Char} (mem : item ∈ rawItems text) : ',' ∉ item := by
  rw [rawItems, ← splitChars_eq_splitOn] at mem
  exact not_mem_of_mem_splitChars mem

theorem subset_of_mem_rawItems {text : String} {item : List Char} (mem : item ∈ rawItems text) :
    item ⊆ text.toList := by
  rw [rawItems, ← splitChars_eq_splitOn] at mem
  exact subset_of_mem_splitChars mem

/-- The reader trims the items and drops the empty ones: those were blank. -/
theorem itemsOf_eq (text : String) : itemsOf text = (filled (rawItems text)).map trimChars := by
  rw [itemsOf, splitChars_eq_splitOn, List.filter_map, filled, rawItems]
  congr 2
  funext item
  rw [Function.comp, Bool.eq_iff_iff, Bool.not_eq_true', List.isEmpty_eq_false_iff,
    decide_eq_true_iff, ne_eq, trimChars_eq_nil_iff]

/-! ## 2. Reading one item after the other -/

/-- The key that an item binds. -/
def keyText (item : List Char) : String := String.ofList (keyOf item)

section

variable (env : Environment)

/-- What it binds the key to. -/
def valueText (item : List Char) : String := env.expand (String.ofList (valueOf item))

/-- A lone key is bound to nothing. -/
theorem valueText_lone {item : List Char} (absent : '=' ∉ item) : valueText env item = "" := by
  rw [valueText, valueOf_lone absent, Environment.expand, ← String.toList_inj, toList_expand]
  exact Expansion.expandChars_nil

/-- Items go into a path. -/
def insertAll (p : EntityPath) (items : List (List Char)) : EntityPath :=
  items.foldl (fun p item => p.insert (keyText item) (valueText env item)) p

theorem insertAll_cons (p : EntityPath) (item : List Char) (items : List (List Char)) :
    insertAll env p (item :: items) =
      insertAll env (p.insert (keyText item) (valueText env item)) items := rfl

theorem insertAll_append (p : EntityPath) (front items : List (List Char)) :
    insertAll env p (front ++ items) = insertAll env (insertAll env p front) items :=
  List.foldl_append

/-- The reader complains of the first faulty item. -/
theorem addItems_eq (p : EntityPath) {items : List (List Char)}
    (full : ∀ item ∈ items, ¬ IsBlank item) :
    addItems env p (items.map trimChars) =
      match items.find? fun item => IsFaulty item with
      | some item => .error (complaint item)
      | none => .ok (insertAll env p items) := by
  induction items generalizing p with
  | nil => rfl
  | cons item items ih =>
    obtain ⟨first, full⟩ := List.forall_mem_cons.mp full
    rw [List.map_cons, addItems, parseItem_trimChars first]
    by_cases faulty : IsFaulty item
    · rw [if_pos faulty, List.find?_cons, decide_eq_true faulty]
    · rw [if_neg faulty, List.find?_cons, decide_eq_false faulty, insertAll_cons]
      exact ih _ full

theorem parse_eq (text : String) :
    parse env text =
      match (filled (rawItems text)).find? fun item => IsFaulty item with
      | some item => .error (complaint item)
      | none => .ok (insertAll env {} (filled (rawItems text))) := by
  rw [parse, itemsOf_eq]
  exact addItems_eq env _ fun item mem => (mem_filled.mp mem).2

/-- **A text is refused for its first faulty item.** -/
theorem parse_eq_error_iff {text : String} {e : BridgeError} :
    parse env text = .error e ↔
      ∃ front item rest, filled (rawItems text) = front ++ item :: rest ∧
        (∀ other ∈ front, ¬ IsFaulty other) ∧ IsFaulty item ∧ complaint item = e := by
  rw [parse_eq]
  constructor
  · intro refused
    split at refused
    next item found =>
      obtain ⟨faulty, front, rest, parts, fine⟩ := List.find?_eq_some_iff_append.mp found
      exact ⟨front, item, rest, parts, fun other mem => by simpa using fine other mem,
        of_decide_eq_true faulty, Except.error.inj refused⟩
    next => cases refused
  · rintro ⟨front, item, rest, parts, fine, faulty, rfl⟩
    have found : (filled (rawItems text)).find? (fun item => IsFaulty item) = some item :=
      List.find?_eq_some_iff_append.mpr ⟨decide_eq_true faulty, front, rest, parts,
        fun other mem => by simpa using fine other mem⟩
    rw [found]

/-- **A text without a faulty item is read, item by item.** -/
theorem parse_eq_ok_iff {text : String} {p : EntityPath} :
    parse env text = .ok p ↔
      (∀ item ∈ filled (rawItems text), ¬ IsFaulty item) ∧
        insertAll env {} (filled (rawItems text)) = p := by
  rw [parse_eq]
  constructor
  · intro read
    split at read
    next => cases read
    next none =>
      exact ⟨fun item mem => by simpa using List.find?_eq_none.mp none item mem,
        Except.ok.inj read⟩
  · rintro ⟨fine, rfl⟩
    have none : (filled (rawItems text)).find? (fun item => IsFaulty item) = none :=
      List.find?_eq_none.mpr fun item mem => by simpa using fine item mem
    rw [none]

/-- Any faulty item has the text refused. -/
theorem exists_parse_eq_error_iff {text : String} :
    (∃ e, parse env text = .error e) ↔ ∃ item ∈ filled (rawItems text), IsFaulty item := by
  constructor
  · rintro ⟨e, refused⟩
    obtain ⟨front, item, rest, parts, -, faulty, -⟩ := (parse_eq_error_iff env).mp refused
    exact ⟨item, by simp [parts], faulty⟩
  · rintro ⟨item, mem, faulty⟩
    cases outcome : parse env text with
    | error e => exact ⟨e, rfl⟩
    | ok p => exact absurd faulty (((parse_eq_ok_iff env).mp outcome).1 item mem)

/-! ## 3. What the items bind -/

variable {p : EntityPath} {items : List (List Char)}

theorem Ordered.insertAll (ordered : p.Ordered) (items : List (List Char)) :
    (insertAll env p items).Ordered := by
  induction items generalizing p with
  | nil => exact ordered
  | cons item items ih => exact ih (ordered.insert _ _)

/-- The last item with a key tells its value. -/
theorem get?_insertAll (p : EntityPath) (items : List (List Char)) (key : String) :
    (insertAll env p items).get? key =
      ((items.filter fun item => keyText item = key).getLast?.map (valueText env)).or
        (p.get? key) := by
  induction items generalizing p with
  | nil => rfl
  | cons item items ih =>
    rw [insertAll_cons, ih, get?_insert, List.filter_cons]
    by_cases same : keyText item = key
    · rw [if_pos same.symm, if_pos (decide_eq_true same), List.getLast?_cons]
      cases (items.filter fun item => keyText item = key).getLast? <;> rfl
    · rw [if_neg (Ne.symm same), if_neg (by simpa using same)]

/-- What a path holds comes from an item. -/
theorem mem_insertAll {bound : String × String} (mem : bound ∈ (insertAll env p items).items) :
    bound ∈ p.items ∨ ∃ item ∈ items, bound = (keyText item, valueText env item) := by
  induction items generalizing p with
  | nil => exact .inl mem
  | cons item items ih =>
    rcases ih mem with old | ⟨other, mem, same⟩
    · rcases mem_insertItem old with same | old
      · exact .inr ⟨item, List.mem_cons_self, same⟩
      · exact .inl old
    · exact .inr ⟨other, List.mem_cons_of_mem item mem, same⟩

end

end EntityPath

end RuntimeBridge
