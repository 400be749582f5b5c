/-
# Expansion is single pass and lossless

A text is expanded from the front.  Where it begins with a reference to a known name, the value of the
name is written and expansion goes on behind the reference (`expandChars_refers`); anywhere else one
character is written and expansion goes on behind it (`expandChars_kept`).  So nothing is looked at
twice, no character is lost, and a value is never searched for references.

Expansion can be told by places in the text instead of what is left of it: every name is then cut out
between two places.  `walk?` does so and stops without a result as soon as a place outside the text is
asked for; it never is (`walk?_eq`).

Main statement: `expansion_single_pass`.
-/
import RuntimeBridge.Proofs.Environment.References
namespace RuntimeBridge

namespace Expansion

/-! ## 1. One step -/

section

variable {lookup : String → Option String}

/-- What expansion makes of the characters of a text. -/
def expandChars (lookup : String → Option String) (cs : List Char) : List Char :=
  (pieces lookup cs).flatMap Piece.toChars

theorem expandChars_nil : expandChars lookup [] = [] := by
  rw [expandChars, pieces]
  rfl

/-- A reference to a known name gives way to the value of the name. -/
theorem expandChars_found {cs : List Char} {r : Reference} {value : String}
    (found : reference? cs = some r) (known : lookup (String.ofList r.name) = some value) :
    expandChars lookup cs = value.toList ++ expandChars lookup r.rest := by
  cases cs with
  | nil => cases found
  | cons c cs =>
    rw [expandChars, pieces]
    split
    next none => cases none.symm.trans found
    next s here =>
      obtain rfl : s = r := Option.some.inj (here.symm.trans found)
      simp only [known, List.flatMap_cons, Piece.toChars]
      rfl

/-- The same, told by what a reference is. -/
theorem expandChars_refers {ref name rest : List Char} {value : String}
    (refers : Refers ref name rest) (known : lookup (String.ofList name) = some value) :
    expandChars lookup (ref ++ rest) = value.toList ++ expandChars lookup rest :=
  expandChars_found (reference?_eq_some_iff.mpr ⟨ref, refers, rfl⟩) known

/-- In front of anything else one character stays. -/
theorem expandChars_kept {c : Char} {cs : List Char}
    (unknown : ∀ r, reference? (c :: cs) = some r → lookup (String.ofList r.name) = none) :
    expandChars lookup (c :: cs) = c :: expandChars lookup cs := by
  rw [expandChars, pieces]
  split
  next => rfl
  next r here =>
    simp only [unknown r here]
    rfl

/-- References begin with one of two characters. -/
theorem reference?_plain {c : Char} (percent : c ≠ '%') (dollar : c ≠ '$') (cs : List Char) :
    reference? (c :: cs) = none := by
  unfold reference?
  split <;> simp_all

/-- Without these two characters nothing changes. -/
theorem expandChars_append_plain {pre : List Char} (plain : ∀ c ∈ pre, c ≠ '%' ∧ c ≠ '$')
    (cs : List Char) : expandChars lookup (pre ++ cs) = pre ++ expandChars lookup cs := by
  induction pre with
  | nil => rfl
  | cons c pre ih =>
    obtain ⟨⟨percent, dollar⟩, plain⟩ := List.forall_mem_cons.mp plain
    have none := reference?_plain percent dollar (pre ++ cs)
    rw [List.cons_append, expandChars_kept (by simp [none]), ih plain, List.cons_append]

/-- Without known names nothing changes. -/
theorem expandChars_unknown (unknown : ∀ name, lookup name = none) (cs : List Char) :
    expandChars lookup cs = cs := by
  induction cs with
  | nil => exact expandChars_nil
  | cons c cs ih => rw [expandChars_kept fun r _ => unknown _, ih]

end

/-! ## 2. Places -/

/-- The characters from one place of a text up to another one, if these are places of the text in this
order. -/
def slice? (cs : List Char) (start stop : Nat) : Option (List Char) :=
  if start ≤ stop ∧ stop ≤ cs.length then some ((cs.drop start).take (stop - start)) else none

/-- The name from `start` up to the first `stop` character, with the place behind that character, if
there is one. -/
def closedNameAt? (stop : Char) (cs : List Char) (start : Nat) :
    Option (Option (List Char × Nat)) :=
  (slice? cs start cs.length).bind fun behind =>
    match behind.findIdx? (· == stop) with
    | none => some none
    | some k => (slice? cs start (start + k)).map fun name => some (name, start + k + 1)

/-- The name from `start` as far as name characters reach, and the place behind it. -/
def openNameAt? (cs : List Char) (start : Nat) : Option (List Char × Nat) :=
  (slice? cs start cs.length).bind fun behind =>
    let stop := start + (behind.takeWhile isNameChar).length
    (slice? cs start stop).map fun name => (name, stop)

/-- The reference at a place, told by the place behind it.  There is no result when a place outside
the text is asked for. -/
def referenceAt? (cs : List Char) (i : Nat) : Option (Option (List Char × Nat)) :=
  cs[i]?.bind fun c =>
    if c = '%' then
      (closedNameAt? '%' cs (i + 1)).map fun found =>
        found.filter fun p => !p.1.isEmpty && p.1.all isPercentNameChar
    else if c = '$' then
      if cs[i + 1]? = some '\x7b' then closedNameAt? '\x7d' cs (i + 2)
      else
        (slice? cs (i + 1) cs.length).bind fun behind =>
          let marked := ['E', 'N', 'V', ':'].isPrefixOf behind
          (openNameAt? cs (if marked then i + 5 else i + 1)).map fun p =>
            if p.1.head?.any isNameStart && (marked || 2 ≤ p.1.length) then some p else none
    else some none

/-- What is written at a place, and the place to go on at. -/
def stepAt? (lookup : String → Option String) (cs : List Char) (i : Nat) :
    Option (List Char × Nat) :=
  cs[i]?.bind fun c =>
    (referenceAt? cs i).map fun found =>
      match found.bind fun p => (lookup (String.ofList p.1)).map fun value => (value, p.2) with
      | some (value, j) => (value.toList, j)
      | none => ([c], i + 1)

theorem lt_of_closedNameAt? {stop : Char} {cs name : List Char} {start j : Nat}
    (h : closedNameAt? stop cs start = some (some (name, j))) : start < j := by
  simp only [closedNameAt?, Option.bind_eq_some_iff] at h
  obtain ⟨behind, -, h⟩ := h
  split at h
  next => cases h
  next k _ =>
    simp only [Option.map_eq_some_iff, Option.some.injEq, Prod.mk.injEq] at h
    obtain ⟨-, -, -, rfl⟩ := h
    omega

theorem le_of_openNameAt? {cs name : List Char} {start j : Nat}
    (h : openNameAt? cs start = some (name, j)) : start ≤ j := by
  simp only [openNameAt?, Option.bind_eq_some_iff, Option.map_eq_some_iff, Prod.mk.injEq] at h
  obtain ⟨behind, -, -, -, -, rfl⟩ := h
  exact Nat.le_add_right _ _

/-- A reference takes at least one character. -/
theorem lt_of_referenceAt? {cs name : List Char} {i j : Nat}
    (h : referenceAt? cs i = some (some (name, j))) : i < j := by
  simp only [referenceAt?, Option.bind_eq_some_iff] at h
  obtain ⟨c, -, h⟩ := h
  split_ifs at h
  · simp only [Option.map_eq_some_iff, Option.filter_eq_some_iff] at h
    obtain ⟨found, closed, rfl, -⟩ := h
    exact Nat.lt_of_succ_lt (lt_of_closedNameAt? closed)
  · have := lt_of_closedNameAt? h
    omega
  · simp only [Option.bind_eq_some_iff, Option.map_eq_some_iff, Option.ite_none_right_eq_some,
      Option.some.injEq] at h
    obtain ⟨behind, -, p, named, -, rfl⟩ := h
    have := le_of_openNameAt? named
    split_ifs at this <;> omega
  · cases h

/-- Expansion goes on behind the place. -/
theorem lt_of_stepAt? {lookup : String → Option String} {cs written : List Char} {i j : Nat}
    (h : stepAt? lookup cs i = some (written, j)) : i < j := by
  simp only [stepAt?, Option.bind_eq_some_iff, Option.map_eq_some_iff] at h
  obtain ⟨c, -, found, here, h⟩ := h
  split at h
  next value k known =>
    obtain ⟨⟨name, place⟩, rfl, valued⟩ := Option.bind_eq_some_iff.mp known
    obtain ⟨v, -, same⟩ := Option.map_eq_some_iff.mp valued
    obtain ⟨-, rfl⟩ := Prod.mk.inj same
    cases h
    exact lt_of_referenceAt? here
  next =>
    cases h
    exact Nat.lt_succ_self i

/-- Expansion by places, from one place on.  There is no result when a place outside the text is asked
for. -/
def walk? (lookup : String → Option String) (cs : List Char) (i : Nat) : Option (List Char) :=
  if i < cs.length then
    match _h : stepAt? lookup cs i with
    | none => none
    | some (written, j) => (walk? lookup cs j).map (written ++ ·)
  else some []
termination_by cs.length - i
decreasing_by
  have := lt_of_stepAt? _h
  omega

/-! ## 3. No place lies outside -/

section

variable {text name rest : List Char} {i : Nat}

theorem slice?_length (inside : i ≤ text.length) :
    slice? text i text.length = some (text.drop i) := by
  rw [slice?, if_pos ⟨inside, Nat.le_refl _⟩, List.take_of_length_le (by simp)]

/-- The place behind what the text goes on with, told from its end. -/
theorem add_length_eq (inside : i ≤ text.length) (parts : text.drop i = name ++ rest) :
    i + name.length = text.length - rest.length := by
  have length := congrArg List.length parts
  rw [List.length_drop, List.length_append] at length
  omega

theorem add_length_le (inside : i ≤ text.length) (parts : text.drop i = name ++ rest) :
    i + name.length ≤ text.length := by
  rw [add_length_eq inside parts]
  exact Nat.sub_le _ _

theorem drop_add_length (parts : text.drop i = name ++ rest) :
    text.drop (i + name.length) = rest := by
  rw [← List.drop_drop, parts, List.drop_left]

theorem getElem?_of_drop {c : Char} (left : text.drop i = c :: rest) : text[i]? = some c := by
  rw [← List.head?_drop, left, List.head?_cons]

theorem drop_succ_of_drop {c : Char} (left : text.drop i = c :: rest) : text.drop (i + 1) = rest := by
  rw [← List.tail_drop, left, List.tail_cons]

/-- What the text goes on with from a place on can be cut out there. -/
theorem slice?_of_drop (inside : i ≤ text.length) (parts : text.drop i = name ++ rest) :
    slice? text i (i + name.length) = some name := by
  rw [slice?, if_pos ⟨Nat.le_add_right _ _, add_length_le inside parts⟩, parts,
    Nat.add_sub_cancel_left, List.take_left]

/-- A closed name is cut out where the reader of what is left finds it. -/
theorem closedNameAt?_eq (stop : Char) (inside : i ≤ text.length) :
    closedNameAt? stop text i =
      some ((upTo? stop (text.drop i)).map fun p => (p.1, text.length - p.2.length)) := by
  rw [closedNameAt?, slice?_length inside, Option.bind_some]
  have absent : ∀ {cs : List Char}, stop ∉ cs → cs.findIdx? (· == stop) = none := by
    intro cs absent
    rw [List.findIdx?_eq_none_iff]
    intro c mem
    rw [beq_eq_false_iff_ne]
    rintro rfl
    exact absent mem
  cases found : upTo? stop (text.drop i) with
  | none => simp only [absent (upTo?_eq_none_iff.mp found), Option.map_none]
  | some p =>
    obtain ⟨name, rest⟩ := p
    obtain ⟨before, parts⟩ := upTo?_eq_some_iff.mp found
    have first : (text.drop i).findIdx? (· == stop) = some name.length := by
      rw [parts, List.findIdx?_append, absent before]
      simp [List.findIdx?_cons]
    have place : i + name.length + 1 = text.length - rest.length := by
      have whole : text.drop i = (name ++ [stop]) ++ rest := by simpa using parts
      have behind := add_length_eq inside whole
      rwa [List.length_append, ← Nat.add_assoc] at behind
    simp only [first, slice?_of_drop inside parts, Option.map_some, place]

/-- An open name is cut out where the reader of what is left finds it. -/
theorem openNameAt?_eq (inside : i ≤ text.length) :
    openNameAt? text i = some ((text.drop i).takeWhile isNameChar,
      text.length - ((text.drop i).dropWhile isNameChar).length) := by
  rw [openNameAt?, slice?_length inside, Option.bind_some]
  generalize taken : (text.drop i).takeWhile isNameChar = name
  generalize left : (text.drop i).dropWhile isNameChar = rest
  obtain ⟨-, -, parts⟩ := takeWhile_isNameChar_iff.mp ⟨taken, left⟩
  rw [← add_length_eq inside parts]
  simp only [slice?_of_drop inside parts, Option.map_some]

/-- **Cutting at a place finds the reference that is found in what is left there.** -/
theorem referenceAt?_eq (inside : i < text.length) :
    referenceAt? text i =
      some ((reference? (text.drop i)).map fun r => (r.name, text.length - r.rest.length)) := by
  obtain ⟨c, cs, left⟩ := List.exists_cons_of_ne_nil (show text.drop i ≠ [] by simpa using inside)
  have within := Nat.le_of_lt inside
  have here := getElem?_of_drop left
  have behind := drop_succ_of_drop left
  rw [referenceAt?, here, Option.bind_some, left]
  by_cases percent : c = '%'
  · subst percent
    rw [if_pos rfl, closedNameAt?_eq '%' inside, behind, reference?, percentReference?]
    cases upTo? '%' cs with
    | none => rfl
    | some p =>
      simp only [Option.map_some, Option.bind_some, Option.filter_some]
      split_ifs <;> rfl
  rw [if_neg percent]
  by_cases dollar : c = '$'
  · subst dollar
    have next : text[i + 1]? = cs.head? := by
      rw [← List.head?_drop, behind]
    rw [if_pos rfl, next]
    by_cases brace : cs.head? = some '\x7b'
    · obtain ⟨more, rfl⟩ := List.head?_eq_some_iff.mp brace
      have lead : text.drop i = ['$', '\x7b'] ++ more := left
      have inside : i + 2 ≤ text.length := add_length_le within lead
      have behind : text.drop (i + 2) = more := drop_add_length lead
      rw [if_pos brace, closedNameAt?_eq '\x7d' inside, behind, reference?, bracedReference?,
        Option.map_map]
      rfl
    · rw [if_neg brace, slice?_length inside, Option.bind_some, behind]
      by_cases mark : ['E', 'N', 'V', ':'].isPrefixOf cs
      · obtain ⟨more, rfl⟩ := List.isPrefixOf_iff_prefix.mp mark
        have lead : text.drop i = ['$', 'E', 'N', 'V', ':'] ++ more := left
        have inside : i + 5 ≤ text.length := add_length_le within lead
        have behind : text.drop (i + 5) = more := drop_add_length lead
        have read : reference? ('$' :: (['E', 'N', 'V', ':'] ++ more)) = bareReference? true more :=
          rfl
        simp only [mark, if_true, openNameAt?_eq inside, behind, Option.map_some, read,
          bareReference?]
        split_ifs <;> rfl
      · have unmarked : ∀ more, cs ≠ 'E' :: 'N' :: 'V' :: ':' :: more := by
          rintro more rfl
          exact mark rfl
        have inside : i + 1 ≤ text.length := inside
        simp only [mark, Bool.false_eq_true, if_false, openNameAt?_eq inside, behind,
          Option.map_some, reference?_dollar brace unmarked, bareReference?]
        split_ifs <;> rfl
  · rw [if_neg dollar, reference?_plain percent dollar]
    rfl

/-- One step at a place does what expansion does with what is left there. -/
theorem stepAt?_eq (lookup : String → Option String) (inside : i < text.length) :
    ∃ written j, stepAt? lookup text i = some (written, j) ∧ j ≤ text.length ∧
      expandChars lookup (text.drop i) = written ++ expandChars lookup (text.drop j) := by
  obtain ⟨c, cs, left⟩ := List.exists_cons_of_ne_nil (show text.drop i ≠ [] by simpa using inside)
  have here := getElem?_of_drop left
  have kept : (∀ r, reference? (c :: cs) = some r → lookup (String.ofList r.name) = none) →
      ∃ written j, some ([c], i + 1) = some (written, j) ∧ j ≤ text.length ∧
        expandChars lookup (c :: cs) = written ++ expandChars lookup (text.drop j) := by
    intro unknown
    have behind := drop_succ_of_drop left
    exact ⟨[c], i + 1, rfl, inside, by rw [expandChars_kept unknown, behind]; rfl⟩
  rw [stepAt?, here, Option.bind_some, referenceAt?_eq inside, left]
  cases found : reference? (c :: cs) with
  | none => exact kept (by simp [found])
  | some r =>
    cases known : lookup (String.ofList r.name) with
    | none =>
      simp only [Option.map_some, Option.bind_some, known, Option.map_none]
      refine kept fun s same => ?_
      obtain rfl := Option.some.inj (found.symm.trans same)
      exact known
    | some value =>
      obtain ⟨ref, -, parts⟩ := reference?_eq_some_iff.mp found
      rw [← left] at parts
      refine ⟨value.toList, text.length - r.rest.length, ?_, Nat.sub_le _ _, ?_⟩
      · simp only [Option.map_some, Option.bind_some, known]
      · rw [expandChars_found found known, ← add_length_eq (Nat.le_of_lt inside) parts,
          drop_add_length parts]

/-- **Expansion by places never leaves the text**, and it is expansion. -/
theorem walk?_eq (lookup : String → Option String) (inside : i ≤ text.length) :
    walk? lookup text i = some (expandChars lookup (text.drop i)) := by
  -- every step goes on at a later place, so that there is less and less left
  induction left : text.length - i using Nat.strong_induction_on generalizing i with
  | _ n ih =>
    rw [walk?]
    by_cases more : i < text.length
    · obtain ⟨written, j, step, within, same⟩ := stepAt?_eq lookup more
      have later := lt_of_stepAt? step
      rw [if_pos more, step]
      simp only
      rw [ih (text.length - j) (by omega) within rfl, same]
      rfl
    · rw [if_neg more, List.drop_of_length_le (by omega), expandChars_nil]

end

end Expansion

open Expansion

theorem toList_expand (lookup : String → Option String) (text : String) :
    (expand lookup text).toList = expandChars lookup text.toList := by
  rw [expand, String.toList_ofList, expandChars]

/-- A text without the two characters that references begin with stays as it is. -/
theorem expand_plain (lookup : String → Option String) {text : String}
    (plain : ∀ c ∈ text.toList, c ≠ '%' ∧ c ≠ '$') : expand lookup text = text := by
  have same : expandChars lookup (text.toList ++ []) = text.toList ++ expandChars lookup [] :=
    expandChars_append_plain plain []
  rw [List.append_nil, expandChars_nil, List.append_nil] at same
  rw [← String.toList_inj, toList_expand, same]

/-- **Expansion is single pass and lossless.**  Without known names a text stays as it is.  Behind
characters that begin no reference, a reference to a known name gives way to the value as it is, and
expansion goes on behind the reference.  Where no such reference begins, one character stays and
expansion goes on behind it.  Expansion by places does the same and never leaves the text. -/
theorem expansion_single_pass (lookup : String → Option String) :
    ((∀ name, lookup name = none) → ∀ text, expand lookup text = text) ∧
    (∀ pre ref name post value : String, (∀ c ∈ pre.toList, c ≠ '%' ∧ c ≠ '$') →
      Refers ref.toList name.toList post.toList → lookup name = some value →
      expand lookup (pre ++ ref ++ post) = pre ++ value ++ expand lookup post) ∧
    (∀ (c : Char) (post : String),
      (∀ ref name behind value : String, Refers ref.toList name.toList behind.toList →
        lookup name = some value → String.singleton c ++ post ≠ ref ++ behind) →
      expand lookup (String.singleton c ++ post) = String.singleton c ++ expand lookup post) ∧
    ∀ text, walk? lookup text.toList 0 = some (expand lookup text).toList := by
  refine ⟨fun unknown text => ?_, fun pre ref name post value plain refers known => ?_,
    fun c post unknown => ?_, fun text => ?_⟩
  · rw [← String.toList_inj, toList_expand, expandChars_unknown unknown]
  · rw [← String.ofList_toList (s := name)] at known
    rw [← String.toList_inj, toList_expand]
    simp only [String.toList_append, List.append_assoc, toList_expand,
      expandChars_append_plain plain, expandChars_refers refers known]
  · rw [← String.toList_inj, toList_expand]
    simp only [String.toList_append, String.toList_singleton, List.singleton_append, toList_expand]
    refine expandChars_kept fun r found => ?_
    obtain ⟨ref, refers, parts⟩ := reference?_eq_some_iff.mp found
    cases known : lookup (String.ofList r.name) with
    | none => rfl
    | some value =>
      refine absurd ?_ (unknown (String.ofList ref) (String.ofList r.name) (String.ofList r.rest)
        value (by simpa using refers) known)
      rw [← String.toList_inj]
      simpa using parts
  · rw [walk?_eq lookup (Nat.zero_le _), toList_expand, List.drop_zero]

/-- A value that looks like references, a price, and a text without known names. -/
theorem expansion_single_pass_home :
    let lookup := fun name => if name = "HOME" then some "%HOME%$HOME" else none
    (∀ c ∈ "a".toList, c ≠ '%' ∧ c ≠ '$') ∧ Refers "$HOME".toList "HOME".toList "/x".toList ∧
      lookup "HOME" = some "%HOME%$HOME" ∧
      expand lookup ("a" ++ "$HOME" ++ "/x") = "a" ++ "%HOME%$HOME" ++ expand lookup "/x" ∧
      expand lookup (String.singleton '$' ++ "5") = String.singleton '$' ++ expand lookup "5" ∧
      expand (fun _ => none) "%HOME%" = "%HOME%" := by
  intro lookup
  have plain : ∀ c ∈ "a".toList, c ≠ '%' ∧ c ≠ '$' := by simp
  have refers : Refers "$HOME".toList "HOME".toList "/x".toList :=
    .bare (by decide) (by decide) (by decide) (by decide)
  obtain ⟨-, found, kept, -⟩ := expansion_single_pass lookup
  refine ⟨plain, refers, rfl, found _ _ _ _ _ plain refers rfl, kept '$' "5" ?_,
    (expansion_single_pass fun _ => none).1 (fun _ => rfl) _⟩
  intro ref name behind value refers _ same
  have none : reference? "$5".toList = none := by decide
  have parts : "$5".toList = ref.toList ++ behind.toList := by
    rw [← String.toList_append, ← same]
    rfl
  cases none.symm.trans (reference?_eq_some_iff.mpr ⟨ref.toList, refers, parts⟩)

end RuntimeBridge
