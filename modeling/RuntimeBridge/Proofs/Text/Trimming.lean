/-
# Trimming

Trimming takes the blanks off both ends of a text and nothing else (`eq_append_trimChars`), and blanks
around a text make no difference to it (`trimChars_pad`).  What has no blanks at its ends is left as it
is, so a second trimming changes nothing.
-/
import Mathlib.Data.List.DropRight
import RuntimeBridge.Text.Blank
namespace RuntimeBridge

/-! ## 1. Blanks -/

/-- Nothing but blanks. -/
def IsBlank (cs : List Char) : Prop := ∀ c ∈ cs, isBlank c

/-- No blank at either end. -/
def IsTrimmed (cs : List Char) : Prop :=
  cs.head?.any isBlank = false ∧ cs.getLast?.any isBlank = false

instance (cs : List Char) : Decidable (IsBlank cs) :=
  decidable_of_iff (cs.all isBlank) List.all_eq_true

instance (cs : List Char) : Decidable (IsTrimmed cs) :=
  inferInstanceAs (Decidable (_ ∧ _))

variable {cs front back : List Char}

/-! ## 2. Trimming -/

theorem trimChars_eq_rdropWhile (cs : List Char) :
    trimChars cs = (cs.dropWhile isBlank).rdropWhile isBlank := rfl

theorem trimChars_eq_nil_iff : trimChars cs = [] ↔ IsBlank cs := by
  rw [trimChars_eq_rdropWhile, List.rdropWhile_eq_nil_iff]
  constructor
  · intro blank c mem
    rw [← List.takeWhile_append_dropWhile (p := isBlank) (l := cs), List.mem_append] at mem
    rcases mem with taken | left
    · exact List.mem_takeWhile_imp taken
    · exact blank c left
  · exact fun blank c mem => blank c ((List.dropWhile_suffix _).mem mem)

/-- Blanks in front do not count. -/
theorem trimChars_append_left (blank : IsBlank front) (cs : List Char) :
    trimChars (front ++ cs) = trimChars cs := by
  rw [trimChars, List.dropWhile_append_of_pos blank, trimChars]

/-- Blanks behind do not count. -/
theorem trimChars_append_right (blank : IsBlank back) (cs : List Char) :
    trimChars (cs ++ back) = trimChars cs := by
  rw [trimChars_eq_rdropWhile, trimChars_eq_rdropWhile, List.dropWhile_append]
  split
  next none =>
    rw [List.isEmpty_iff.mp none, List.dropWhile_eq_nil_iff.mpr blank]
  next =>
    have reversed : ∀ c ∈ back.reverse, isBlank c := fun c mem => blank c (List.mem_reverse.mp mem)
    rw [List.rdropWhile, List.reverse_append, List.dropWhile_append_of_pos reversed,
      List.rdropWhile]

/-- Blanks around a text do not count. -/
theorem trimChars_pad (before : IsBlank front) (behind : IsBlank back) (cs : List Char) :
    trimChars (front ++ cs ++ back) = trimChars cs := by
  rw [trimChars_append_right behind, trimChars_append_left before]

/-- **A text is what trimming leaves of it, with blanks around.** -/
theorem eq_append_trimChars (cs : List Char) :
    ∃ front back, IsBlank front ∧ IsBlank back ∧ cs = front ++ trimChars cs ++ back := by
  refine ⟨cs.takeWhile isBlank, (cs.dropWhile isBlank).rtakeWhile isBlank,
    fun c mem => List.mem_takeWhile_imp mem, fun c mem => List.mem_rtakeWhile_imp mem, ?_⟩
  rw [trimChars_eq_rdropWhile, List.append_assoc, List.rdropWhile_append_rtakeWhile,
    List.takeWhile_append_dropWhile]

theorem mem_of_mem_trimChars {c : Char} (mem : c ∈ trimChars cs) : c ∈ cs := by
  obtain ⟨front, back, -, -, parts⟩ := eq_append_trimChars cs
  rw [parts]
  simp [mem]

/-- What trimming leaves has no blanks at its ends. -/
theorem isTrimmed_trimChars (cs : List Char) : IsTrimmed (trimChars cs) := by
  by_cases none : trimChars cs = []
  · rw [none]
    exact ⟨rfl, rfl⟩
  have last := List.rdropWhile_last_not isBlank (cs.dropWhile isBlank) none
  have first : (cs.dropWhile isBlank).head? = some ((trimChars cs).head none) := by
    obtain ⟨more, parts⟩ := List.rdropWhile_prefix isBlank (cs.dropWhile isBlank)
    rw [← parts, ← trimChars_eq_rdropWhile, List.head?_append_of_ne_nil _ none,
      List.head?_eq_some_head none]
  have start := List.head?_dropWhile_not isBlank cs
  rw [first] at start
  rw [IsTrimmed, List.head?_eq_some_head none, List.getLast?_eq_some_getLast none]
  exact ⟨start, Bool.not_eq_true _ ▸ last⟩

/-- Nothing is taken off a text without blanks at its ends. -/
theorem trimChars_of_isTrimmed (trimmed : IsTrimmed cs) : trimChars cs = cs := by
  obtain ⟨start, last⟩ := trimmed
  have whole : cs.dropWhile isBlank = cs := by
    cases cs with
    | nil => rfl
    | cons c rest => exact List.dropWhile_cons_of_neg (Bool.not_eq_true _ ▸ start)
  rw [trimChars_eq_rdropWhile, whole, List.rdropWhile_eq_self_iff]
  intro some
  rw [List.getLast?_eq_some_getLast some] at last
  exact Bool.not_eq_true _ ▸ last

end RuntimeBridge
