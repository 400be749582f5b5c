/-
# References, told apart from how they are read

A reference is a name between percent signs, or behind a dollar sign: in braces, marked as that of a
variable, or bare.  What stands behind it decides where a name without a closing character ends.
`Refers` says this form by form, and the reader finds exactly these references
(`reference?_eq_some_iff`): the two names that a text could begin with would have to end at one place.
-/
import Mathlib.Data.List.TakeWhile
import RuntimeBridge.Environment.Expansion
namespace RuntimeBridge.Expansion

/-! ## 1. Forms of references -/

/-- An ASCII letter or a low line, and ASCII letters, digits and low lines behind it. -/
def IsIdentifier (name : List Char) : Prop :=
  name.head?.any isNameStart ∧ ∀ c ∈ name, isNameChar c

instance (name : List Char) : Decidable (IsIdentifier name) :=
  decidable_of_iff (name.head?.any isNameStart ∧ name.all isNameChar)
    (by rw [IsIdentifier, List.all_eq_true])

/-- The first characters refer to a name, when the last ones stand behind them. -/
inductive Refers : List Char → List Char → List Char → Prop
  | percent {name rest : List Char} (filled : name ≠ [])
    (letters : ∀ c ∈ name, isPercentNameChar c) :
    Refers ('%' :: name ++ ['%']) name rest
  | braced {name rest : List Char} (within : '\x7d' ∉ name) :
    Refers ('$' :: '\x7b' :: name ++ ['\x7d']) name rest
  | marked {name rest : List Char} (identifier : IsIdentifier name)
    (ends : rest.head?.any isNameChar = false) :
    Refers ('$' :: 'E' :: 'N' :: 'V' :: ':' :: name) name rest
  | bare {name rest : List Char} (identifier : IsIdentifier name) (long : 2 ≤ name.length)
    (ends : rest.head?.any isNameChar = false)
    (unmarked : name = ['E', 'N', 'V'] → rest.head? ≠ some ':') :
    Refers ('$' :: name) name rest

/-! ## 2. Where names end -/

variable {cs name rest : List Char}

/-- The first `stop` divides a text into what has none and what is behind it. -/
theorem upTo?_eq_some_iff {stop : Char} :
    upTo? stop cs = some (name, rest) ↔ stop ∉ name ∧ cs = name ++ stop :: rest := by
  induction cs generalizing name with
  | nil => simp [upTo?]
  | cons c cs ih =>
    by_cases here : c = stop
    · subst here
      cases name with
      | nil => simp [upTo?, eq_comm]
      | cons d name =>
        simp only [upTo?, beq_self_eq_true, if_true, Option.some.injEq, Prod.mk.injEq,
          reduceCtorEq, false_and, false_iff, not_and, List.cons_append, List.cons.injEq]
        rintro absent rfl
        exact absurd List.mem_cons_self absent
    · cases name with
      | nil => simp [upTo?, here]
      | cons d name =>
        simp only [upTo?, beq_iff_eq, here, if_false, Option.map_eq_some_iff, Prod.exists,
          Prod.mk.injEq, List.cons.injEq, List.cons_append, List.mem_cons, not_or]
        constructor
        · rintro ⟨n, r, found, ⟨rfl, rfl⟩, rfl⟩
          obtain ⟨absent, same⟩ := ih.mp found
          exact ⟨⟨fun same => here same.symm, absent⟩, rfl, same⟩
        · rintro ⟨⟨-, absent⟩, rfl, same⟩
          exact ⟨name, rest, ih.mpr ⟨absent, same⟩, ⟨rfl, rfl⟩, rfl⟩

theorem upTo?_eq_none_iff {stop : Char} : upTo? stop cs = none ↔ stop ∉ cs := by
  induction cs with
  | nil => simp [upTo?]
  | cons c cs ih =>
    by_cases here : c = stop
    · simp [upTo?, here]
    · simp [upTo?, here, ih, Ne.symm here]

/-- The name characters at the front of a text are the name that ends there. -/
theorem takeWhile_isNameChar_iff :
    (cs.takeWhile isNameChar = name ∧ cs.dropWhile isNameChar = rest) ↔
      (∀ c ∈ name, isNameChar c) ∧ rest.head?.any isNameChar = false ∧ cs = name ++ rest := by
  constructor
  · rintro ⟨rfl, rfl⟩
    refine ⟨fun c mem => List.mem_takeWhile_imp mem, ?_, List.takeWhile_append_dropWhile.symm⟩
    have ends := List.head?_dropWhile_not isNameChar cs
    cases first : (cs.dropWhile isNameChar).head? with
    | none => rfl
    | some c => simpa [first] using ends
  · rintro ⟨letters, ends, rfl⟩
    have stays : rest.takeWhile isNameChar = [] ∧ rest.dropWhile isNameChar = rest := by
      cases rest with
      | nil => exact ⟨rfl, rfl⟩
      | cons c rest =>
        have other : isNameChar c = false := ends
        simp [other]
    rw [List.takeWhile_append_of_pos letters, List.dropWhile_append_of_pos letters, stays.1, stays.2,
      List.append_nil]
    exact ⟨rfl, rfl⟩

/-! ## 3. What the reader finds -/

/-- Behind a percent sign: a name and another percent sign. -/
theorem percentReference?_eq_some_iff :
    percentReference? cs = some ⟨name, rest⟩ ↔
      name ≠ [] ∧ (∀ c ∈ name, isPercentNameChar c) ∧ cs = name ++ '%' :: rest := by
  simp only [percentReference?, Option.bind_eq_some_iff, Prod.exists, Option.ite_none_right_eq_some,
    Option.some.injEq, Reference.mk.injEq, upTo?_eq_some_iff, Bool.and_eq_true, List.all_eq_true,
    Bool.not_eq_true', List.isEmpty_eq_false_iff]
  constructor
  · rintro ⟨n, r, ⟨-, rfl⟩, ⟨filled, letters⟩, rfl, rfl⟩
    exact ⟨filled, letters, rfl⟩
  · rintro ⟨filled, letters, rfl⟩
    refine ⟨name, rest, ⟨fun percent => ?_, rfl⟩, ⟨filled, letters⟩, rfl, rfl⟩
    exact absurd (letters '%' percent) (by decide)

/-- Behind an opening brace: a name and a closing brace. -/
theorem bracedReference?_eq_some_iff :
    bracedReference? cs = some ⟨name, rest⟩ ↔ '\x7d' ∉ name ∧ cs = name ++ '\x7d' :: rest := by
  simp only [bracedReference?, Option.map_eq_some_iff, Prod.exists, Reference.mk.injEq]
  constructor
  · rintro ⟨n, r, found, rfl, rfl⟩
    exact upTo?_eq_some_iff.mp found
  · intro parts
    exact ⟨name, rest, upTo?_eq_some_iff.mpr parts, rfl, rfl⟩

/-- Without a closing character: an identifier, up to where it ends. -/
theorem bareReference?_eq_some_iff {marked : Bool} :
    bareReference? marked cs = some ⟨name, rest⟩ ↔
      IsIdentifier name ∧ (marked ∨ 2 ≤ name.length) ∧ rest.head?.any isNameChar = false ∧
        cs = name ++ rest := by
  simp only [bareReference?, Option.ite_none_right_eq_some, Option.some.injEq, Reference.mk.injEq,
    takeWhile_isNameChar_iff, Bool.and_eq_true, Bool.or_eq_true, decide_eq_true_eq, IsIdentifier]
  constructor
  · rintro ⟨⟨start, long⟩, letters, ends, same⟩
    obtain ⟨taken, -⟩ := takeWhile_isNameChar_iff.mpr ⟨letters, ends, same⟩
    rw [taken] at start long
    exact ⟨⟨start, letters⟩, long, ends, same⟩
  · rintro ⟨⟨start, letters⟩, long, ends, same⟩
    obtain ⟨taken, -⟩ := takeWhile_isNameChar_iff.mpr ⟨letters, ends, same⟩
    rw [taken]
    exact ⟨⟨start, long⟩, letters, ends, same⟩

/-- A dollar sign with neither a brace nor the mark of a variable behind it. -/
theorem reference?_dollar (brace : cs.head? ≠ some '\x7b')
    (unmarked : ∀ more, cs ≠ 'E' :: 'N' :: 'V' :: ':' :: more) :
    reference? ('$' :: cs) = bareReference? false cs := by
  rw [reference?]
  · rintro more rfl
    exact brace rfl
  · exact unmarked

/-- An identifier does not look like a brace or the mark of a variable, unless it is the word of the
mark and a colon stands behind it. -/
theorem reference?_identifier (identifier : IsIdentifier name)
    (ends : rest.head?.any isNameChar = false)
    (unmarked : name = ['E', 'N', 'V'] → rest.head? ≠ some ':') :
    reference? ('$' :: (name ++ rest)) = bareReference? false (name ++ rest) := by
  obtain ⟨start, letters⟩ := identifier
  cases name with
  | nil => cases start
  | cons c name =>
    apply reference?_dollar
    · rintro brace
      obtain rfl : c = '\x7b' := Option.some.inj brace
      exact absurd (show isNameStart '\x7b' from start) (by decide)
    · intro more mark
      -- the colon of the mark is no name character, so that the name would end in front of it
      have run := takeWhile_isNameChar_iff.mpr ⟨letters, ends, rfl⟩
      rw [mark] at run
      obtain ⟨word, colon⟩ := run
      exact unmarked word.symm (colon ▸ rfl)

/-- **The reader finds exactly the references that a text begins with.** -/
theorem reference?_eq_some_iff :
    reference? cs = some ⟨name, rest⟩ ↔ ∃ ref, Refers ref name rest ∧ cs = ref ++ rest := by
  constructor
  · intro h
    unfold reference? at h
    split at h
    next cs =>
      obtain ⟨filled, letters, rfl⟩ := percentReference?_eq_some_iff.mp h
      exact ⟨_, .percent filled letters, by simp⟩
    next cs =>
      obtain ⟨within, rfl⟩ := bracedReference?_eq_some_iff.mp h
      exact ⟨_, .braced within, by simp⟩
    next cs =>
      obtain ⟨identifier, -, ends, rfl⟩ := bareReference?_eq_some_iff.mp h
      exact ⟨_, .marked identifier ends, rfl⟩
    next cs _ unmarked =>
      obtain ⟨identifier, long, ends, rfl⟩ := bareReference?_eq_some_iff.mp h
      refine ⟨_, .bare identifier (long.resolve_left Bool.false_ne_true) ends ?_, rfl⟩
      rintro rfl colon
      obtain ⟨more, rfl⟩ := List.head?_eq_some_iff.mp colon
      exact unmarked more rfl
    next => cases h
  · rintro ⟨ref, refers, rfl⟩
    cases refers with
    | percent filled letters =>
      have parts : '%' :: name ++ ['%'] ++ rest = '%' :: (name ++ '%' :: rest) := by simp
      rw [parts, reference?]
      exact percentReference?_eq_some_iff.mpr ⟨filled, letters, rfl⟩
    | braced within =>
      have parts : '$' :: '\x7b' :: name ++ ['\x7d'] ++ rest =
          '$' :: '\x7b' :: (name ++ '\x7d' :: rest) := by simp
      rw [parts, reference?]
      exact bracedReference?_eq_some_iff.mpr ⟨within, rfl⟩
    | marked identifier ends =>
      exact bareReference?_eq_some_iff.mpr ⟨identifier, .inl rfl, ends, rfl⟩
    | bare identifier long ends unmarked =>
      rw [List.cons_append, reference?_identifier identifier ends unmarked]
      exact bareReference?_eq_some_iff.mpr ⟨identifier, .inr long, ends, rfl⟩

end RuntimeBridge.Expansion
