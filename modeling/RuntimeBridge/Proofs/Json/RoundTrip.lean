/-
# JSON texts are read back

The text of JSON data is read as the same data, if all numbers in it are integers.  The text of a value
says where it ends: a string by its quotation mark, an array or an object by its bracket, and an integer
by what comes behind it, which is never a digit, a point or an exponent.  So each reader takes the text
of one value from the front and leaves the rest (`Reads`), with fuel for two steps a character.

Main statement: `Json.parse?_toText`.
-/
import Mathlib.Data.List.TakeDrop
import RuntimeBridge.Json.Printer
import RuntimeBridge.Json.Reader
import RuntimeBridge.Proofs.Text.Encoding
namespace RuntimeBridge

namespace Json

/-! ## 1. The letters of a text -/

mutual

/-- The characters of the text of JSON data. -/
def letters : Json → List Char
  | null | unreadable => ['n', 'u', 'l', 'l']
  | bool true => ['t', 'r', 'u', 'e']
  | bool false => ['f', 'a', 'l', 's', 'e']
  | num spelling => spelling.toList
  | str s => (quote s).toList
  | arr items => '[' :: (itemLetters items ++ [']'])
  | obj members => '\x7b' :: (memberLetters members ++ ['\x7d'])

/-- The items of an array, with commas between them. -/
def itemLetters : List Json → List Char
  | [] => []
  | j :: js => j.letters ++ if js.isEmpty then [] else ',' :: itemLetters js

/-- The members of an object, with commas between them. -/
def memberLetters : List (String × Json) → List Char
  | [] => []
  | (key, j) :: ms =>
    (quote key).toList ++ ':' :: (j.letters ++ if ms.isEmpty then [] else ',' :: memberLetters ms)

end

mutual

theorem toList_appendTo (front : String) (j : Json) :
    (j.appendTo front).toList = front.toList ++ j.letters := by
  cases j with
  | arr items =>
    rw [appendTo, String.toList_append, toList_appendItems]
    cases items <;> simp [letters, itemLetters]
  | obj members =>
    rw [appendTo, String.toList_append, toList_appendMembers]
    cases members <;> simp [letters, memberLetters]
  | bool b => cases b <;> simp [appendTo, letters]
  | _ => simp [appendTo, letters]

theorem toList_appendItems (front separator : String) (items : List Json) :
    (appendItems front separator items).toList =
      front.toList ++ if items.isEmpty then [] else separator.toList ++ itemLetters items := by
  cases items with
  | nil => simp [appendItems]
  | cons j js => simp [appendItems, itemLetters, toList_appendItems, toList_appendTo]

theorem toList_appendMembers (front separator : String) (members : List (String × Json)) :
    (appendMembers front separator members).toList =
      front.toList ++ if members.isEmpty then [] else separator.toList ++ memberLetters members := by
  cases members with
  | nil => simp [appendMembers]
  | cons m ms =>
    obtain ⟨key, j⟩ := m
    simp [appendMembers, memberLetters, toList_appendMembers, toList_appendTo]

end

theorem toList_toText (j : Json) : j.toText.toList = j.letters := by
  rw [toText, toList_appendTo]
  rfl

/-! ## 2. Strings -/

namespace Reader

theorem hexUnit?_hexDigit {n : Nat} (small : n < 0x20) :
    hexUnit? '0' '0' (hexDigit (n / 16)) (hexDigit n) = some n.toUInt16 := by
  have checked : ∀ n < 0x20, hexUnit? '0' '0' (hexDigit (n / 16)) (hexDigit n) = some n.toUInt16 := by
    decide
  exact checked n small

/-- The characters that stand for a character are read as its units. -/
theorem stringUnits?_escapeChar (c : Char) (cs : List Char) :
    stringUnits? (escapeChar c ++ cs) =
      (stringUnits? cs).map fun p => (Utf16.encodeChar c ++ p.1, p.2) := by
  simp only [escapeChar, beq_iff_eq]
  split
  next quote =>
    subst quote
    cases read : stringUnits? cs <;> simp [stringUnits?, escaped?, read]
  next noQuote =>
    split
    next backslash =>
      subst backslash
      cases read : stringUnits? cs <;> simp [stringUnits?, escaped?, read]
    next noBackslash =>
      split
      next control =>
        have unit : Utf16.encodeChar c = [c.toNat.toUInt16] := by
          simp [Utf16.encodeChar, show c.toNat < 0x10000 by omega]
        simp only [List.cons_append, List.nil_append, stringUnits?, hexUnit?_hexDigit control, unit]
        cases stringUnits? cs <;> rfl
      next plain =>
        -- The last equation of the reader asks that the patterns before it do not match.
        rw [List.singleton_append, stringUnits?, if_neg plain]
        · exact noQuote
        · intro a b d e rest same
          exact absurd same noBackslash
        · intro e rest same
          exact absurd same noBackslash

/-- **A string ends at its quotation mark.** -/
theorem stringUnits?_flatMap_escapeChar (cs rest : List Char) :
    stringUnits? (cs.flatMap escapeChar ++ '"' :: rest) = some (Utf16.encodeChars cs, rest) := by
  induction cs with
  | nil => rfl
  | cons c cs ih =>
    rw [List.flatMap_cons, List.append_assoc, stringUnits?_escapeChar, ih]
    rfl

theorem stringUnits?_quote (s : String) (rest : List Char) :
    ∃ inner, (quote s).toList ++ rest = '"' :: inner ∧
      stringUnits? inner = some (Utf16.encode s, rest) := by
  refine ⟨s.toList.flatMap escapeChar ++ '"' :: rest, ?_, stringUnits?_flatMap_escapeChar _ _⟩
  simp [quote]

/-! ## 3. Integers -/

/-- What may come behind a number: nothing that would go on with it. -/
def Ends (rest : List Char) : Prop :=
  ∀ c ∈ rest.head?, c.isDigit = false ∧ c ≠ '.' ∧ c ≠ 'e' ∧ c ≠ 'E'

theorem ends_cons {c : Char} (ends : c.isDigit = false ∧ c ≠ '.' ∧ c ≠ 'e' ∧ c ≠ 'E')
    (rest : List Char) : Ends (c :: rest) := by
  rintro _ ⟨⟩
  exact ends

/-- Only zero begins with the digit zero. -/
theorem head_toDigits_ne {n : Nat} (positive : 0 < n) : (Nat.toDigits 10 n).head? ≠ some '0' := by
  induction n using Nat.strongRecOn with
  | ind n ih =>
    by_cases small : n < 10
    · have checked : ∀ n < 10, 0 < n → n.digitChar ≠ '0' := by decide
      rw [Nat.toDigits_of_lt_base small]
      exact fun zero => checked n small positive (Option.some.inj zero)
    · rw [Nat.toDigits_of_base_le (by decide) (by omega),
        List.head?_append, Option.or_of_isSome (by simp [Nat.toDigits_ne_nil])]
      exact ih (n / 10) (by omega) (by omega)

theorem digits?_append {digits rest : List Char} (some : digits ≠ [])
    (all : ∀ c ∈ digits, c.isDigit = true) (ends : Ends rest) :
    digits? (digits ++ rest) = .some (digits, rest) := by
  have stop : rest.takeWhile Char.isDigit = [] ∧ rest.dropWhile Char.isDigit = rest := by
    cases rest with
    | nil => exact ⟨rfl, rfl⟩
    | cons c rest =>
      have other := (ends c rfl).1
      simp [other]
  have span : (digits ++ rest).span Char.isDigit = (digits, rest) := by
    rw [List.span_eq_takeWhile_dropWhile, List.takeWhile_append_of_pos all,
      List.dropWhile_append_of_pos all, stop.1, stop.2, List.append_nil]
  rw [digits?, span]
  cases digits with
  | nil => exact absurd rfl some
  | cons d ds => rfl

theorem isDigit_of_mem_toDigits {n : Nat} {c : Char} (mem : c ∈ Nat.toDigits 10 n) :
    c.isDigit = true :=
  Nat.isDigit_of_mem_toDigits (by decide) (by decide) mem

theorem natural?_toDigits (n : Nat) {rest : List Char} (ends : Ends rest) :
    natural? (Nat.toDigits 10 n ++ rest) = some (Nat.toDigits 10 n, rest) := by
  have read : digits? (Nat.toDigits 10 n ++ rest) = some (Nat.toDigits 10 n, rest) :=
    digits?_append Nat.toDigits_ne_nil (fun _ => isDigit_of_mem_toDigits) ends
  rcases Nat.eq_zero_or_pos n with rfl | positive
  · have stop : rest.head?.any Char.isDigit = false := by
      cases rest with
      | nil => rfl
      | cons c rest => exact (ends c rfl).1
    simp [natural?, stop]
  · -- Zero is read by an equation of its own, and no other number begins with it.
    have first := head_toDigits_ne positive
    rw [natural?]
    · exact read
    · intro more zero
      obtain ⟨d, ds, digits⟩ := List.exists_cons_of_ne_nil (Nat.toDigits_ne_nil (n := n) (b := 10))
      rw [digits] at first zero
      exact first (congrArg some (List.cons.inj zero).1)

theorem fraction?_of_ends {rest : List Char} (ends : Ends rest) : fraction? rest = some ([], rest) := by
  rw [fraction?]
  rintro more rfl
  exact (ends '.' rfl).2.1 rfl

theorem exponent?_of_ends {rest : List Char} (ends : Ends rest) : exponent? rest = some ([], rest) := by
  cases rest with
  | nil => rfl
  | cons c rest =>
    obtain ⟨-, -, small, capital⟩ := ends c rfl
    simp [exponent?, small, capital]

/-- The letters of an integer: a minus sign if it is negative, and digits. -/
theorem toList_toString (n : Int) :
    (toString n).toList = (if n < 0 then ['-'] else []) ++ Nat.toDigits 10 n.natAbs := by
  cases n with
  | ofNat n => simp [toString, Int.repr]
  | negSucc n => simp [toString, Int.repr, Int.negSucc_lt_zero]

theorem sign_toDigits (n : Nat) (rest : List Char) :
    sign (Nat.toDigits 10 n ++ rest) = ([], Nat.toDigits 10 n ++ rest) := by
  obtain ⟨d, ds, digits⟩ := List.exists_cons_of_ne_nil (Nat.toDigits_ne_nil (n := n) (b := 10))
  have first : d ≠ '-' := by
    rintro rfl
    have digit := isDigit_of_mem_toDigits (n := n) (digits ▸ List.mem_cons_self)
    exact absurd digit (by decide)
  rw [digits]
  exact sign.eq_2 _ fun more same => first (List.cons.inj same).1

/-- **An integer ends where its digits end.** -/
theorem number?_toString (n : Int) {rest : List Char} (ends : Ends rest) :
    number? ((toString n).toList ++ rest) = some (toString n, rest) := by
  have signed : sign ((toString n).toList ++ rest) =
      (if n < 0 then ['-'] else [], Nat.toDigits 10 n.natAbs ++ rest) := by
    rw [toList_toString]
    split
    · rfl
    · exact sign_toDigits _ _
  have spelled : String.ofList
      ((if n < 0 then ['-'] else []) ++ Nat.toDigits 10 n.natAbs ++ [] ++ []) = toString n := by
    rw [List.append_nil, List.append_nil, ← toList_toString, String.ofList_toList]
  simp only [number?, signed, natural?_toDigits n.natAbs ends, fraction?_of_ends ends,
    exponent?_of_ends ends, spelled, Option.bind_eq_bind, Option.bind_some, Option.pure_def]

end Reader

theorem naturalOfChars?_toDigits (n : Nat) : naturalOfChars? (Nat.toDigits 10 n) = some n := by
  have filled : (Nat.toDigits 10 n).isEmpty = false := List.isEmpty_eq_false_iff.mpr Nat.toDigits_ne_nil
  have digits : (Nat.toDigits 10 n).all Char.isDigit = true :=
    List.all_eq_true.mpr fun _ => Reader.isDigit_of_mem_toDigits
  have value : (Nat.toDigits 10 n).foldl (fun n c => n * 10 + (c.toNat - 48)) 0 = n := by
    have read := Nat.ofDigitChars_ten_toDigits (n := n)
    simp only [Nat.ofDigitChars_eq_foldl, Nat.mul_comm] at read
    exact read
  rw [naturalOfChars?, filled, digits, value]
  rfl

/-- **An integer is read off its spelling.** -/
theorem integer?_ofInt (n : Int) : (ofInt n).integer? = some n := by
  rw [ofInt, integer?, Reader.toList_toString]
  split
  next negative =>
    have nonzero : n.natAbs ≠ 0 := by omega
    rw [List.singleton_append, integerOfChars?, naturalOfChars?_toDigits, Option.bind_some,
      if_neg nonzero]
    exact congrArg some (by omega)
  next nonnegative =>
    rw [List.nil_append, integerOfChars?, naturalOfChars?_toDigits]
    · exact congrArg some (by simp; omega)
    · intro more spelled
      have digit : ('-' : Char).isDigit = true :=
        Reader.isDigit_of_mem_toDigits (spelled ▸ List.mem_cons_self)
      exact absurd digit (by decide)

/-! ## 4. Values -/

/-- Data whose numbers are integers, and that is readable all through. -/
inductive IsWhole : Json → Prop
  | null : IsWhole null
  | bool (b : Bool) : IsWhole (bool b)
  | int (n : Int) : IsWhole (ofInt n)
  | str (s : String) : IsWhole (str s)
  | arr {items : List Json} : (∀ j ∈ items, IsWhole j) → IsWhole (arr items)
  | obj {members : List (String × Json)} : (∀ m ∈ members, IsWhole m.2) → IsWhole (obj members)

namespace Reader

theorem skipSpace_cons {c : Char} (visible : isSpace c = false) (cs : List Char) :
    skipSpace (c :: cs) = c :: cs := by
  simp [skipSpace, visible]

theorem ne_of_isDigit {c d : Char} (digit : c.isDigit = true) (other : d.isDigit = false) : c ≠ d := by
  rintro rfl
  rw [digit] at other
  exact absurd other (by decide)

theorem not_isSpace_of_isDigit {c : Char} (digit : c.isDigit = true) : isSpace c = false := by
  have apart : ∀ d ∈ [' ', '\n', '\t', '\r'], c ≠ d := by
    have others : ∀ d ∈ [' ', '\n', '\t', '\r'], d.isDigit = false := by simp
    exact fun d mem => ne_of_isDigit digit (others d mem)
  simpa [isSpace, and_assoc] using apart

/-- An integer begins with a minus sign or with a digit. -/
theorem toList_toString_eq_cons (n : Int) :
    ∃ c cs, (toString n).toList = c :: cs ∧ (c = '-' ∨ c.isDigit = true) := by
  rw [toList_toString]
  split
  · exact ⟨_, _, rfl, .inl rfl⟩
  · obtain ⟨d, ds, digits⟩ :=
      List.exists_cons_of_ne_nil (Nat.toDigits_ne_nil (n := n.natAbs) (b := 10))
    exact ⟨d, ds, digits, .inr (isDigit_of_mem_toDigits (digits ▸ List.mem_cons_self))⟩

/-- A value begins with a character that is no blank and no closing bracket. -/
theorem letters_eq_cons {j : Json} (whole : j.IsWhole) :
    ∃ c cs, j.letters = c :: cs ∧ isSpace c = false ∧ c ≠ ']' := by
  cases whole with
  | null => exact ⟨'n', _, rfl, by decide, by decide⟩
  | bool b => cases b <;> exact ⟨_, _, rfl, by decide, by decide⟩
  | int n =>
    obtain ⟨c, cs, letters, first⟩ := toList_toString_eq_cons n
    refine ⟨c, cs, letters, ?_⟩
    rcases first with rfl | digit
    · decide
    · exact ⟨not_isSpace_of_isDigit digit, ne_of_isDigit digit (by decide)⟩
  | str s => exact ⟨'"', _, by rw [letters, quote, String.toList_ofList]; rfl, by decide, by decide⟩
  | arr items => exact ⟨'[', _, by rw [letters], by decide, by decide⟩
  | obj members => exact ⟨'\x7b', _, by rw [letters], by decide, by decide⟩

theorem itemLetters_eq_cons {j : Json} (js : List Json) (whole : j.IsWhole) :
    ∃ c cs, itemLetters (j :: js) = c :: cs ∧ isSpace c = false ∧ c ≠ ']' := by
  obtain ⟨c, cs, first, apart⟩ := letters_eq_cons whole
  exact ⟨c, _, by rw [itemLetters, first, List.cons_append], apart⟩

theorem memberLetters_eq_cons (key : String) (j : Json) (ms : List (String × Json)) :
    ∃ cs, memberLetters ((key, j) :: ms) = '"' :: cs :=
  ⟨_, by rw [memberLetters, quote, String.toList_ofList, List.cons_append, List.cons_append]⟩

/-- Where a value begins with a minus sign or a digit, a number is read. -/
theorem value?_number {c : Char} (first : c = '-' ∨ c.isDigit = true) (fuel : Nat) (cs : List Char) :
    value? (fuel + 1) (c :: cs) = (number? (c :: cs)).map fun p => (num p.1, p.2) := by
  have visible : isSpace c = false := by
    rcases first with rfl | digit
    · decide
    · exact not_isSpace_of_isDigit digit
  have apart : ∀ d ∈ ['n', 't', 'f', '"', '[', '\x7b'], c ≠ d := by
    rcases first with rfl | digit
    · simp
    · have others : ∀ d ∈ ['n', 't', 'f', '"', '[', '\x7b'], d.isDigit = false := by simp
      exact fun d mem => ne_of_isDigit digit (others d mem)
  simp only [List.forall_mem_cons] at apart
  rw [value?, skipSpace_cons visible]
  split <;> simp_all

/-- **The text of a value is read as that value**, and what comes behind it is left. -/
def Reads (j : Json) : Prop :=
  ∀ fuel rest, 2 * j.letters.length ≤ fuel → Ends rest →
    value? fuel (j.letters ++ rest) = some (j, rest)

theorem itemLetters_singleton (j : Json) : itemLetters [j] = j.letters := by
  simp [itemLetters]

theorem itemLetters_cons_cons (j next : Json) (js : List Json) :
    itemLetters (j :: next :: js) = j.letters ++ ',' :: itemLetters (next :: js) := by
  simp [itemLetters]

theorem memberLetters_singleton (key : String) (j : Json) :
    memberLetters [(key, j)] = (quote key).toList ++ ':' :: j.letters := by
  simp [memberLetters]

theorem memberLetters_cons_cons (key : String) (j : Json) (next : String × Json)
    (ms : List (String × Json)) :
    memberLetters ((key, j) :: next :: ms) =
      (quote key).toList ++ ':' :: (j.letters ++ ',' :: memberLetters (next :: ms)) := by
  simp [memberLetters]

/-- The items of an array are read up to its bracket. -/
theorem items?_itemLetters {items : List Json} (filled : items ≠ []) (reads : ∀ j ∈ items, Reads j)
    (rest : List Char) (fuel : Nat) (enough : 2 * (itemLetters items).length + 1 ≤ fuel) :
    items? fuel (itemLetters items ++ ']' :: rest) = some (items, rest) := by
  induction items generalizing fuel with
  | nil => exact absurd rfl filled
  | cons j js ih =>
    obtain ⟨fuel, rfl⟩ : ∃ less, fuel = less + 1 := ⟨fuel - 1, by omega⟩
    have first := reads j List.mem_cons_self
    cases js with
    | nil =>
      rw [itemLetters_singleton] at enough ⊢
      rw [items?, first fuel (']' :: rest) (by omega) (ends_cons (by decide) _)]
      rfl
    | cons next js =>
      rw [itemLetters_cons_cons, List.length_append, List.length_cons] at enough
      rw [itemLetters_cons_cons, List.append_assoc, List.cons_append, items?,
        first fuel _ (by omega) (ends_cons (by decide) _)]
      simp only [skipSpace_cons (show isSpace ',' = false by decide)]
      rw [ih (List.cons_ne_nil _ _) (fun j mem => reads j (List.mem_cons_of_mem _ mem)) fuel (by omega)]
      rfl

/-- The members of an object are read up to its brace, their keys as units. -/
theorem members?_memberLetters {members : List (String × Json)} (filled : members ≠ [])
    (reads : ∀ m ∈ members, Reads m.2) (rest : List Char) (fuel : Nat)
    (enough : 2 * (memberLetters members).length + 1 ≤ fuel) :
    members? fuel (memberLetters members ++ '\x7d' :: rest) =
      some (members.map fun m => (Utf16.encode m.1, m.2), rest) := by
  induction members generalizing fuel with
  | nil => exact absurd rfl filled
  | cons m ms ih =>
    obtain ⟨key, j⟩ := m
    obtain ⟨fuel, rfl⟩ : ∃ less, fuel = less + 1 := ⟨fuel - 1, by omega⟩
    have first : Reads j := reads _ List.mem_cons_self
    cases ms with
    | nil =>
      rw [memberLetters_singleton, List.length_append, List.length_cons] at enough
      rw [memberLetters_singleton, List.append_assoc]
      obtain ⟨inner, quoted, named⟩ := stringUnits?_quote key ((':' :: j.letters) ++ '\x7d' :: rest)
      rw [quoted, members?, skipSpace_cons (by decide)]
      simp only [named, List.cons_append, skipSpace_cons (show isSpace ':' = false by decide)]
      rw [first fuel _ (by omega) (ends_cons (by decide) _)]
      rfl
    | cons next ms =>
      rw [memberLetters_cons_cons, List.length_append, List.length_cons, List.length_append,
        List.length_cons] at enough
      rw [memberLetters_cons_cons, List.append_assoc]
      obtain ⟨inner, quoted, named⟩ := stringUnits?_quote key
        ((':' :: (j.letters ++ ',' :: memberLetters (next :: ms))) ++ '\x7d' :: rest)
      rw [quoted, members?, skipSpace_cons (by decide)]
      simp only [named, List.cons_append, List.append_assoc,
        skipSpace_cons (show isSpace ':' = false by decide)]
      rw [first fuel _ (by omega) (ends_cons (by decide) _)]
      simp only [skipSpace_cons (show isSpace ',' = false by decide)]
      rw [ih (List.cons_ne_nil _ _) (fun m mem => reads m (List.mem_cons_of_mem _ mem)) fuel (by omega)]
      rfl

theorem ofMembers_encode (members : List (String × Json)) :
    ofMembers (members.map fun m => (Utf16.encode m.1, m.2)) = obj members := by
  have named : (members.map fun m => (Utf16.encode m.1, m.2)).mapM
      (fun m => (Utf16.decode? m.1).map fun key => (key, m.2)) = some members := by
    induction members with
    | nil => rfl
    | cons m ms ih => simp [Utf16.decode?_encode, ih]
  rw [ofMembers, named]

/-- Text that is not empty leaves fuel for the first step. -/
theorem reads_of_succ {j : Json} (filled : j.letters ≠ [])
    (read : ∀ fuel rest, 2 * j.letters.length ≤ fuel + 1 → Ends rest →
      value? (fuel + 1) (j.letters ++ rest) = some (j, rest)) : Reads j := by
  intro fuel rest enough ends
  have long := List.length_pos_iff.mpr filled
  obtain ⟨fuel, rfl⟩ : ∃ less, fuel = less + 1 := ⟨fuel - 1, by omega⟩
  exact read fuel rest enough ends

theorem reads_arr {items : List Json} (whole : ∀ j ∈ items, j.IsWhole)
    (reads : ∀ j ∈ items, Reads j) : Reads (arr items) := by
  refine reads_of_succ (by simp [letters]) fun fuel rest enough _ => ?_
  cases items with
  | nil => rfl
  | cons j js =>
    rw [letters, List.length_cons, List.length_append, List.length_singleton] at enough
    have read := items?_itemLetters (List.cons_ne_nil j js) reads rest fuel (by omega)
    obtain ⟨c, cs, first, visible, noBracket⟩ := itemLetters_eq_cons js (whole j List.mem_cons_self)
    rw [first, List.cons_append] at read
    rw [letters, first, value?]
    simp [skipSpace_cons (show isSpace '[' = false by decide), skipSpace_cons visible, noBracket, read]

theorem reads_obj {members : List (String × Json)} (reads : ∀ m ∈ members, Reads m.2) :
    Reads (obj members) := by
  refine reads_of_succ (by simp [letters]) fun fuel rest enough _ => ?_
  cases members with
  | nil => rfl
  | cons m ms =>
    obtain ⟨key, j⟩ := m
    rw [letters, List.length_cons, List.length_append, List.length_singleton] at enough
    have read := members?_memberLetters (List.cons_ne_nil (key, j) ms) reads rest fuel (by omega)
    obtain ⟨cs, first⟩ := memberLetters_eq_cons key j ms
    rw [first, List.cons_append] at read
    rw [letters, first, value?]
    simp only [List.cons_append, List.append_assoc, List.nil_append,
      skipSpace_cons (show isSpace '\x7b' = false by decide),
      skipSpace_cons (show isSpace '"' = false by decide)]
    change (members? fuel _).map _ = _
    rw [read, Option.map_some, ofMembers_encode]

/-- **Whole data is read as it was written.** -/
theorem reads_of_isWhole {j : Json} (whole : j.IsWhole) : Reads j := by
  induction whole with
  | null => exact reads_of_succ (by simp [letters]) fun _ _ _ _ => rfl
  | bool b => cases b <;> exact reads_of_succ (by simp [letters]) fun _ _ _ _ => rfl
  | int n =>
    obtain ⟨c, cs, digits, first⟩ := toList_toString_eq_cons n
    have spelled : (ofInt n).letters = c :: cs := by rw [ofInt, letters, digits]
    refine reads_of_succ (by simp [spelled]) fun fuel rest _ ends => ?_
    have read := number?_toString n ends
    rw [digits, List.cons_append] at read
    rw [spelled, List.cons_append, value?_number first, read]
    rfl
  | str s =>
    refine reads_of_succ (by simp [letters, quote]) fun fuel rest _ _ => ?_
    obtain ⟨inner, quoted, named⟩ := stringUnits?_quote s rest
    rw [letters, quoted, value?, skipSpace_cons (by decide)]
    simp [named, ofUnits, Utf16.decode?_encode]
  | arr whole reads => exact reads_arr whole reads
  | obj _ reads => exact reads_obj reads

end Reader

/-- **The text of whole data is read as that data.** -/
theorem parse?_toText {j : Json} (whole : j.IsWhole) : parse? j.toText = some j := by
  have length : 2 * j.letters.length ≤ 2 * j.toText.length + 2 := by
    rw [← String.length_toList, toList_toText]
    omega
  have read := Reader.reads_of_isWhole whole _ [] length (by simp [Reader.Ends])
  rw [List.append_nil] at read
  rw [parse?, toList_toText, read]
  rfl

end Json

end RuntimeBridge
