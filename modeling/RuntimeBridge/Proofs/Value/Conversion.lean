/-
# Native data in values

A conversion to a native type picks one form of what the value says: one kind for the integers, one
width for characters and texts, null for an option that is absent.  From that form the data is read
off again, so that a second conversion changes nothing (`ofValue_toValue_of_ofValue`).

Data that did not come out of a value is read off its form as well, as long as no option is of an
option: null stands for the absent option, and it stands for the present one that holds an absent one,
too (`ofValue_toValue_iff`).

Floating-point types are left aside, since they round.

Main statement: `native_retraction`.
-/
import RuntimeBridge.Value.Native
import RuntimeBridge.Proofs.Value.Tree
namespace RuntimeBridge

/-! ## 1. Element by element -/

section

variable {ε α β : Type} {f : α → Except ε β}

theorem mapM_cons_of_ok {x : α} {y : β} (here : f x = .ok y) (xs : List α) :
    (x :: xs).mapM f = (xs.mapM f).map (y :: ·) := by
  rw [List.mapM_cons, here]
  cases xs.mapM f <;> rfl

theorem mapM_cons_of_error {x : α} {e : ε} (here : f x = .error e) (xs : List α) :
    (x :: xs).mapM f = .error e := by
  rw [List.mapM_cons, here]
  rfl

/-- What a run over a list gives comes from its elements. -/
theorem exists_of_mem_mapM {xs : List α} {ys : List β} (run : xs.mapM f = .ok ys) :
    ∀ y ∈ ys, ∃ x ∈ xs, f x = .ok y := by
  induction xs generalizing ys with
  | nil =>
    cases run
    simp
  | cons x xs ih =>
    cases here : f x with
    | error e => cases (mapM_cons_of_error here xs).symm.trans run
    | ok z =>
      rw [mapM_cons_of_ok here] at run
      cases later : xs.mapM f with
      | error e =>
        rw [later] at run
        cases run
      | ok zs =>
        rw [later] at run
        cases run
        intro y mem
        rcases List.mem_cons.mp mem with rfl | mem
        · exact ⟨x, List.mem_cons_self, here⟩
        · obtain ⟨u, known, found⟩ := ih later y mem
          exact ⟨u, List.mem_cons_of_mem x known, found⟩

/-- A run over images of some data, each of which is read back, gives the data. -/
theorem mapM_map_of_forall {g : β → α} {ys : List β} (back : ∀ y ∈ ys, f (g y) = .ok y) :
    (ys.map g).mapM f = .ok ys := by
  induction ys with
  | nil => rfl
  | cons y ys ih =>
    rw [List.map_cons, mapM_cons_of_ok (back y List.mem_cons_self),
      ih fun z mem => back z (List.mem_cons_of_mem y mem)]
    rfl

/-- **A run fails with the error of the first element that fails.** -/
theorem mapM_eq_error_iff {xs : List α} {e : ε} :
    xs.mapM f = .error e ↔ ∃ front x rest, xs = front ++ x :: rest ∧
      (∀ u ∈ front, ∃ y, f u = .ok y) ∧ f x = .error e := by
  constructor
  · intro run
    induction xs with
    | nil => cases run
    | cons x xs ih =>
      cases here : f x with
      | error e' =>
        cases (mapM_cons_of_error here xs).symm.trans run
        exact ⟨[], x, xs, rfl, by simp, here⟩
      | ok y =>
        have later : xs.mapM f = .error e := by
          rw [mapM_cons_of_ok here] at run
          cases rest : xs.mapM f with
          | error e' =>
            rw [rest] at run
            cases run
            rfl
          | ok ys =>
            rw [rest] at run
            cases run
        obtain ⟨front, u, rest, rfl, fine, fails⟩ := ih later
        exact ⟨x :: front, u, rest, rfl, List.forall_mem_cons.mpr ⟨⟨y, here⟩, fine⟩, fails⟩
  · rintro ⟨front, x, rest, rfl, fine, fails⟩
    induction front with
    | nil => exact mapM_cons_of_error fails rest
    | cons u front ih =>
      obtain ⟨⟨y, here⟩, fine⟩ := List.forall_mem_cons.mp fine
      rw [List.cons_append, mapM_cons_of_ok here, ih fine]
      rfl

end

namespace NativeType

variable {t : NativeType} {v : Value}

/-! ## 2. Types -/

/-- No part of the type is a floating-point type. -/
def isExact : NativeType → Bool
  | float64 | float32 => false
  | list t => t.isExact
  | option t => t.isExact
  | _ => true

def isOption : NativeType → Bool
  | option _ => true
  | _ => false

/-- Some part of the type is an option of an option. -/
def hasNestedOption : NativeType → Bool
  | option t => t.isOption || t.hasNestedOption
  | list t => t.hasNestedOption
  | _ => false

/-! ## 3. Options and null -/

theorem ofValue_option (t : NativeType) (present : v.isNull = false) :
    (option t).ofValue v = (t.ofValue v).map some := by
  rw [ofValue, present]
  rfl

/-- An option is absent in null; in any other value it is present. -/
theorem of_ofValue_option {x : Option t.Data} (h : (option t).ofValue v = .ok x) :
    v = .null ∧ x = none ∨ v.isNull = false ∧ ∃ y, x = some y ∧ t.ofValue v = .ok y := by
  cases present : v.isNull with
  | true =>
    obtain rfl : v = .null := by cases v <;> first | rfl | cases present
    exact .inl ⟨rfl, (Except.ok.inj h).symm⟩
  | false =>
    rw [ofValue_option t present] at h
    cases found : t.ofValue v with
    | error e =>
      rw [found] at h
      cases h
    | ok y =>
      rw [found] at h
      exact .inr ⟨rfl, y, (Except.ok.inj h).symm, rfl⟩

/-- Only options have null as a form. -/
theorem isNull_toValue (plain : t.isOption = false) (x : t.Data) :
    (t.toValue x).isNull = false := by
  cases t with
  | option t => cases plain
  | _ => rfl

/-- Data out of a value other than null has a form other than null. -/
theorem isNull_toValue_of_ofValue {x : t.Data} (present : v.isNull = false)
    (h : t.ofValue v = .ok x) : (t.toValue x).isNull = false := by
  induction t with
  | option t ih =>
    obtain ⟨rfl, -⟩ | ⟨-, y, rfl, found⟩ := of_ofValue_option h
    · cases present
    · exact ih found
  | _ => rfl

/-- A present option is read back when what it holds is and does not look absent. -/
theorem ofValue_toValue_some {y : t.Data} (present : (t.toValue y).isNull = false)
    (back : t.ofValue (t.toValue y) = .ok y) :
    (option t).ofValue ((option t).toValue (some y)) = .ok (some y) := by
  rw [toValue, ofValue_option t present, back]
  rfl

/-! ## 4. Lists -/

/-- Only arrays hold lists. -/
theorem of_ofValue_list {xs : List t.Data} (h : (list t).ofValue v = .ok xs) :
    ∃ items, v = .array items ∧ items.mapM t.ofValue = .ok xs := by
  cases v with
  | array items => exact ⟨items, rfl, h⟩
  | _ => cases h

/-- A list is read back when each element is. -/
theorem ofValue_toValue_list {xs : List t.Data} (back : ∀ x ∈ xs, t.ofValue (t.toValue x) = .ok x) :
    (list t).ofValue ((list t).toValue xs) = .ok xs :=
  mapM_map_of_forall back

/-! ## 5. Reading back -/

/-- A number of a kind is read back from a value of that kind. -/
theorem ofValue_toValue_int {k : IntKind} (x : Fixed k) :
    (int k).ofValue ((int k).toValue x) = .ok x := by
  have number : ((int k).toValue x).integer? = some x.val := rfl
  simp only [ofValue, number, Fixed.ofInt?_val]

/-- **Data out of a value is read off the form it is given back in.** -/
theorem ofValue_toValue_of_ofValue (noFloat : t.isExact) {x : t.Data} (h : t.ofValue v = .ok x) :
    t.ofValue (t.toValue x) = .ok x := by
  induction t generalizing v with
  | int k => exact ofValue_toValue_int x
  | float64 => cases noFloat
  | float32 => cases noFloat
  | list t ih =>
    obtain ⟨items, rfl, run⟩ := of_ofValue_list h
    refine ofValue_toValue_list fun y mem => ?_
    obtain ⟨u, -, found⟩ := exists_of_mem_mapM run y mem
    exact ih noFloat found
  | option t ih =>
    obtain ⟨-, rfl⟩ | ⟨present, y, rfl, found⟩ := of_ofValue_option h
    · rfl
    · exact ofValue_toValue_some (isNull_toValue_of_ofValue present found) (ih noFloat found)
  | _ => rfl

/-- Without an option of an option, all data is read off its form. -/
theorem ofValue_toValue (noFloat : t.isExact) (flat : t.hasNestedOption = false) (x : t.Data) :
    t.ofValue (t.toValue x) = .ok x := by
  induction t with
  | int k => exact ofValue_toValue_int x
  | float64 => cases noFloat
  | float32 => cases noFloat
  | list t ih => exact ofValue_toValue_list fun y _ => ih noFloat flat y
  | option t ih =>
    obtain ⟨plain, flat⟩ := Bool.or_eq_false_iff.mp flat
    cases x with
    | none => rfl
    | some y => exact ofValue_toValue_some (isNull_toValue plain y) (ih noFloat flat y)
  | _ => rfl

/-- With one, some data is not: a present option of an absent one, inside the lists and options that
are around it. -/
theorem exists_ofValue_toValue_ne (nested : t.hasNestedOption) :
    ∃ x, t.ofValue (t.toValue x) ≠ .ok x := by
  induction t with
  | list t ih =>
    obtain ⟨x, lost⟩ := ih nested
    refine ⟨[x], fun back => lost ?_⟩
    -- what the one element gives is the one element of what the list gives
    obtain ⟨items, form, run⟩ := of_ofValue_list back
    obtain rfl : [t.toValue x] = items := Value.array.inj form
    obtain ⟨u, mem, found⟩ := exists_of_mem_mapM run x List.mem_cons_self
    rwa [List.mem_singleton.mp mem] at found
  | option t ih =>
    rcases (Bool.or_eq_true _ _).mp nested with isOption | nested
    · cases t with
      | option t =>
        refine ⟨some none, fun back => ?_⟩
        obtain ⟨-, absent⟩ | ⟨present, -⟩ := of_ofValue_option back
        · cases absent
        · cases present
      | _ => cases isOption
    · obtain ⟨x, lost⟩ := ih nested
      refine ⟨some x, fun back => lost ?_⟩
      obtain ⟨-, absent⟩ | ⟨-, y, same, found⟩ := of_ofValue_option back
      · cases absent
      · rwa [← Option.some.inj same] at found
  | _ => cases nested

/-- **All data of a type is read off its form just when no option in it is of an option.** -/
theorem ofValue_toValue_iff (noFloat : t.isExact) :
    (∀ x, t.ofValue (t.toValue x) = .ok x) ↔ t.hasNestedOption = false := by
  constructor
  · intro back
    cases nested : t.hasNestedOption with
    | false => rfl
    | true =>
      obtain ⟨x, lost⟩ := exists_ofValue_toValue_ne nested
      exact absurd (back x) lost
  · exact fun flat => ofValue_toValue noFloat flat

/-! ## 6. Integers -/

/-- Integers are the values with a number. -/
theorem exists_int_iff (v : Value) (P : Int → Prop) :
    (∃ (j : IntKind) (n : Fixed j), v = .scalar (.int j n) ∧ P n.val) ↔
      ∃ n, v.integer? = some n ∧ P n := by
  constructor
  · rintro ⟨j, n, rfl, holds⟩
    exact ⟨n.val, rfl, holds⟩
  · rintro ⟨n, number, holds⟩
    obtain ⟨j, m, rfl, rfl⟩ := Value.eq_int_of_integer? number
    exact ⟨j, m, rfl, holds⟩

theorem forall_ne_int_iff (v : Value) :
    (∀ (j : IntKind) (n : Fixed j), v ≠ .scalar (.int j n)) ↔ v.integer? = none := by
  constructor
  · intro other
    rw [Option.eq_none_iff_forall_ne_some]
    intro n number
    obtain ⟨j, m, rfl, -⟩ := Value.eq_int_of_integer? number
    exact other j m rfl
  · rintro none j n rfl
    cases none

section

variable {k : IntKind}

/-- The three ends of a conversion to an integer kind. -/
theorem ofValue_int_of_fits {n : Int} (number : v.integer? = some n) (fits : k.Fits n) :
    (int k).ofValue v = .ok ⟨n, fits⟩ := by
  have fitted : Fixed.ofInt? k n = some ⟨n, fits⟩ := Fixed.ofInt?_eq_some_iff.mpr rfl
  simp only [ofValue, number, fitted]

theorem ofValue_int_of_not_fits {n : Int} (number : v.integer? = some n) (misfit : ¬ k.Fits n) :
    (int k).ofValue v = .error (.outOfRange .single (.ofKind (.int k))) := by
  simp only [ofValue, number, Fixed.ofInt?_eq_none_iff.mpr misfit]

theorem ofValue_int_of_none (none : v.integer? = none) :
    (int k).ofValue v = .error (.typeMismatch .single k.nativeName v.typeTag.toText) := by
  simp only [ofValue, none]
  rfl

theorem ofValue_int_eq_ok_iff {x : Fixed k} :
    (int k).ofValue v = .ok x ↔ ∃ n, v.integer? = some n ∧ n = x.val := by
  constructor
  · intro h
    cases number : v.integer? with
    | none => cases (ofValue_int_of_none number).symm.trans h
    | some n =>
      by_cases fits : k.Fits n
      · cases (ofValue_int_of_fits number fits).symm.trans h
        exact ⟨n, rfl, rfl⟩
      · cases (ofValue_int_of_not_fits number fits).symm.trans h
  · rintro ⟨n, number, rfl⟩
    exact ofValue_int_of_fits number x.fits

theorem ofValue_int_eq_outOfRange_iff :
    (int k).ofValue v = .error (.outOfRange .single (.ofKind (.int k))) ↔
      ∃ n, v.integer? = some n ∧ ¬ k.Fits n := by
  constructor
  · intro h
    cases number : v.integer? with
    | none => cases (ofValue_int_of_none number).symm.trans h
    | some n =>
      refine ⟨n, rfl, fun fits => ?_⟩
      cases (ofValue_int_of_fits number fits).symm.trans h
  · rintro ⟨n, number, misfit⟩
    exact ofValue_int_of_not_fits number misfit

theorem ofValue_int_eq_typeMismatch_iff :
    (int k).ofValue v = .error (.typeMismatch .single k.nativeName v.typeTag.toText) ↔
      v.integer? = none := by
  refine ⟨fun h => ?_, ofValue_int_of_none⟩
  cases number : v.integer? with
  | none => rfl
  | some n =>
    by_cases fits : k.Fits n
    · cases (ofValue_int_of_fits number fits).symm.trans h
    · cases (ofValue_int_of_not_fits number fits).symm.trans h

end

/-! ## 7. All types -/

/-- A second conversion finds what the first one left. -/
theorem convert_of_convert (noFloat : t.isExact) {w : Value} (h : t.convert v = .ok w) :
    t.convert w = .ok w := by
  cases found : t.ofValue v with
  | error e =>
    rw [convert, found] at h
    cases h
  | ok x =>
    rw [convert, found] at h
    obtain rfl : t.toValue x = w := Except.ok.inj h
    rw [convert, ofValue_toValue_of_ofValue noFloat found]
    rfl

end NativeType

open NativeType

/-- **Native conversion is a retraction.**  For types without floating point, data out of a value is
read off the form it is given back in, so that converting twice is converting once; and all data of a
type is, just when no option in it is of an option.  A conversion to an integer kind gives the number
of an integer of any kind if it fits, out of range if it does not fit, and no match for anything else.
A conversion to a list fails with the error of the first element that fails. -/
theorem native_retraction :
    (∀ t : NativeType, t.isExact →
      (∀ (v : Value) (x : t.Data), t.ofValue v = .ok x → t.ofValue (t.toValue x) = .ok x) ∧
      (∀ v w : Value, t.convert v = .ok w → t.convert w = .ok w) ∧
      ((∀ x : t.Data, t.ofValue (t.toValue x) = .ok x) ↔ t.hasNestedOption = false)) ∧
    (∀ (k : IntKind) (v : Value),
      (∀ x : Fixed k, (int k).ofValue v = .ok x ↔
        ∃ (j : IntKind) (n : Fixed j), v = .scalar (.int j n) ∧ n.val = x.val) ∧
      ((∃ x : Fixed k, (int k).ofValue v = .ok x) ↔
        ∃ (j : IntKind) (n : Fixed j), v = .scalar (.int j n) ∧ k.Fits n.val) ∧
      ((int k).ofValue v = .error (.outOfRange .single (.ofKind (.int k))) ↔
        ∃ (j : IntKind) (n : Fixed j), v = .scalar (.int j n) ∧ ¬ k.Fits n.val) ∧
      ((int k).ofValue v = .error (.typeMismatch .single k.nativeName v.typeTag.toText) ↔
        ∀ (j : IntKind) (n : Fixed j), v ≠ .scalar (.int j n))) ∧
    ∀ (t : NativeType) (items : List Value) (e : MarshalError),
      (list t).ofValue (.array items) = .error e ↔
        ∃ front v rest, items = front ++ v :: rest ∧
          (∀ u ∈ front, ∃ x, t.ofValue u = .ok x) ∧ t.ofValue v = .error e := by
  refine ⟨fun t noFloat => ⟨fun v x => ofValue_toValue_of_ofValue noFloat,
    fun v w => convert_of_convert noFloat, ofValue_toValue_iff noFloat⟩, fun k v => ?_,
    fun t items e => mapM_eq_error_iff⟩
  refine ⟨fun x => ofValue_int_eq_ok_iff.trans (exists_int_iff v (· = x.val)).symm, ?_,
    ofValue_int_eq_outOfRange_iff.trans (exists_int_iff v (¬ k.Fits ·)).symm,
    ofValue_int_eq_typeMismatch_iff.trans (forall_ne_int_iff v).symm⟩
  rw [exists_int_iff v k.Fits]
  constructor
  · rintro ⟨x, found⟩
    obtain ⟨n, number, rfl⟩ := ofValue_int_eq_ok_iff.mp found
    exact ⟨x.val, number, x.fits⟩
  · rintro ⟨n, number, fits⟩
    exact ⟨⟨n, fits⟩, ofValue_int_of_fits number fits⟩

/-- Optional octets out of integers of two other kinds and null, and the data read off the array of
octets that they are given back in. -/
theorem native_retraction_optionalOctets :
    let t := list (option (int .uint8))
    let v := Value.array [.scalar (.int .int64 ⟨200, by decide⟩), .null,
      .scalar (.int .size ⟨3, by decide⟩)]
    let x : t.Data := [some ⟨200, by decide⟩, none, some ⟨3, by decide⟩]
    t.isExact ∧ t.ofValue v = .ok x ∧ t.ofValue (t.toValue x) = .ok x ∧
      t.convert v = .ok (t.toValue x) ∧ t.convert (t.toValue x) = .ok (t.toValue x) := by
  intro t v x
  obtain ⟨back, again, -⟩ := native_retraction.1 t rfl
  exact ⟨rfl, rfl, back v x rfl, rfl, again v (t.toValue x) rfl⟩

end RuntimeBridge
