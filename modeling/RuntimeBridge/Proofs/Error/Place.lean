/-
# The text of a path names the path

Places go into messages as texts, and whoever reads a message has nothing else.  The digits of an index
hold no bracket, so each closing bracket ends one index, and no two paths share a text.

Main statement: `IndexPath.toText_inj`.
-/
import RuntimeBridge.Error.Place
namespace RuntimeBridge.IndexPath

/-- The characters of the indices, each in its brackets. -/
def bracketed (path : IndexPath) : List Char :=
  path.flatMap fun i => '[' :: (i.repr.toList ++ [']'])

theorem bracketed_cons (i : Nat) (rest : IndexPath) :
    bracketed (i :: rest) = '[' :: (i.repr.toList ++ ']' :: bracketed rest) := by
  simp [bracketed]

theorem bracket_not_mem_repr (i : Nat) : ']' ∉ i.repr.toList := by
  rw [Nat.toList_repr]
  intro mem
  exact absurd (Nat.isDigit_of_mem_toDigits (by decide) (by decide) mem) (by decide)

/-- The first closing bracket ends the same text on both sides. -/
theorem split_at_bracket {front front' rest rest' : List Char} (here : ']' ∉ front)
    (there : ']' ∉ front') (same : front ++ ']' :: rest = front' ++ ']' :: rest') :
    front = front' ∧ rest = rest' := by
  obtain ⟨more, rfl, shift⟩ | ⟨more, rfl, shift⟩ := List.append_eq_append_iff.mp same
  · cases more with
    | nil => simpa using shift
    | cons c more =>
      obtain ⟨rfl, -⟩ := List.cons.inj shift
      simp at there
  · cases more with
    | nil => simpa [eq_comm] using shift
    | cons c more =>
      obtain ⟨rfl, -⟩ := List.cons.inj shift
      simp at here

theorem bracketed_injective : Function.Injective bracketed := by
  intro p q same
  induction p generalizing q with
  | nil =>
    cases q with
    | nil => rfl
    | cons j rest => rw [bracketed_cons] at same; cases same
  | cons i p ih =>
    cases q with
    | nil => rw [bracketed_cons] at same; cases same
    | cons j q =>
      rw [bracketed_cons, bracketed_cons, List.cons_inj_right] at same
      obtain ⟨index, rest⟩ := split_at_bracket (bracket_not_mem_repr i) (bracket_not_mem_repr j) same
      rw [Nat.toList_repr, Nat.toList_repr] at index
      rw [ih rest, ← Nat.ofDigitChars_ten_toDigits (n := i), index, Nat.ofDigitChars_ten_toDigits]

theorem toList_toText {path : IndexPath} (inside : path ≠ []) :
    path.toText.toList = path.bracketed := by
  cases path with
  | nil => exact absurd rfl inside
  | cons i rest =>
    simp [toText, bracketed, List.flatMap_def, String.toList_join, List.map_map, Function.comp_def]

/-- **A text names one path at most.** -/
theorem toText_inj {p q : IndexPath} : p.toText = q.toText ↔ p = q := by
  refine ⟨fun same => ?_, congrArg toText⟩
  -- the text of no index at all begins with another character than a bracket
  have root : ∀ (i : Nat) (rest : IndexPath), toText [] ≠ toText (i :: rest) := by
    intro i rest same
    have chars := congrArg String.toList same
    rw [toList_toText (List.cons_ne_nil i rest), bracketed_cons] at chars
    simp [toText] at chars
  cases p with
  | nil =>
    cases q with
    | nil => rfl
    | cons j q => exact absurd same (root j q)
  | cons i p =>
    cases q with
    | nil => exact absurd same.symm (root i p)
    | cons j q =>
      apply bracketed_injective
      rw [← toList_toText (List.cons_ne_nil i p), same, toList_toText (List.cons_ne_nil j q)]

end RuntimeBridge.IndexPath
