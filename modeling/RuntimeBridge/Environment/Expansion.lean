/-
# Expansion of references

A text may refer to variables in four ways: `%NAME%`, `${NAME}`, `$ENV:NAME` and `$NAME`.  Expansion
goes through the text once from the front.  A reference whose name is known is replaced by the value,
which is not looked at again; the first character of any other reference stays, and expansion goes on
behind it.

Main definitions: `reference?`, the reference that a text begins with, and `expand`.
-/
namespace RuntimeBridge

/-- A reference at the front of a text: the name it asks for, and the text behind it. -/
structure Reference where
  name : List Char
  rest : List Char
  deriving DecidableEq, Repr

namespace Expansion

/-! ## 1. Names -/

def isNameChar (c : Char) : Bool := c.isAlphanum || c == '_'

def isNameStart (c : Char) : Bool := c.isAlpha || c == '_'

/-- Characters of a name between percent signs. -/
def isPercentNameChar (c : Char) : Bool :=
  isNameChar c || c == '(' || c == ')' || c == '.' || c == '-'

/-- The characters in front of the first `stop` and those behind it, if there is one. -/
def upTo? (stop : Char) : List Char → Option (List Char × List Char)
  | [] => none
  | c :: cs =>
    if c == stop then some ([], cs) else (upTo? stop cs).map fun p => (c :: p.1, p.2)

theorem upTo?_length {stop : Char} {cs name rest : List Char}
    (h : upTo? stop cs = some (name, rest)) : rest.length < cs.length := by
  induction cs generalizing name with
  | nil => simp [upTo?] at h
  | cons c cs ih =>
    by_cases hc : c = stop
    · simp [upTo?, hc] at h
      simp [← h.2]
    · simp only [upTo?, beq_iff_eq, hc, if_false, Option.map_eq_some_iff, Prod.mk.injEq] at h
      obtain ⟨⟨n, r⟩, found, -, rfl⟩ := h
      exact Nat.lt_succ_of_lt (ih found)

/-! ## 2. References -/

/-- The reference behind an opening percent sign. -/
def percentReference? (cs : List Char) : Option Reference :=
  (upTo? '%' cs).bind fun p =>
    if !p.1.isEmpty && p.1.all isPercentNameChar then some ⟨p.1, p.2⟩ else none

/-- The reference behind an opening brace. -/
def bracedReference? (cs : List Char) : Option Reference :=
  (upTo? '}' cs).map fun p => ⟨p.1, p.2⟩

/-- The reference whose name reaches as far as name characters do.  A name of one character has to
be marked as that of a variable. -/
def bareReference? (marked : Bool) (cs : List Char) : Option Reference :=
  let name := cs.takeWhile isNameChar
  if name.head?.any isNameStart && (marked || 2 ≤ name.length) then
    some ⟨name, cs.dropWhile isNameChar⟩
  else none

/-- The reference that a text begins with. -/
def reference? : List Char → Option Reference
  | '%' :: cs => percentReference? cs
  | '$' :: '\x7b' :: cs => bracedReference? cs
  | '$' :: 'E' :: 'N' :: 'V' :: ':' :: cs => bareReference? true cs
  | '$' :: cs => bareReference? false cs
  | _ => none

theorem bareReference?_length {marked : Bool} {cs : List Char} {r : Reference}
    (h : bareReference? marked cs = some r) : r.rest.length ≤ cs.length := by
  simp only [bareReference?, Option.ite_none_right_eq_some, Option.some.injEq] at h
  rw [← h.2]
  exact (List.dropWhile_suffix _).length_le

/-- The text behind a reference is shorter. -/
theorem reference?_length {cs : List Char} {r : Reference} (h : reference? cs = some r) :
    r.rest.length < cs.length := by
  unfold reference? at h
  split at h
  · simp only [percentReference?, Option.bind_eq_some_iff, Option.ite_none_right_eq_some,
      Option.some.injEq] at h
    obtain ⟨⟨name, rest⟩, found, -, rfl⟩ := h
    exact Nat.lt_succ_of_lt (upTo?_length found)
  · simp only [bracedReference?, Option.map_eq_some_iff] at h
    obtain ⟨⟨name, rest⟩, found, rfl⟩ := h
    have := upTo?_length found
    simp only [List.length_cons]
    omega
  · have := bareReference?_length h
    simp only [List.length_cons]
    omega
  · exact Nat.lt_succ_of_le (bareReference?_length h)
  · simp at h

/-! ## 3. Pieces -/

/-- A part of a text under expansion. -/
inductive Piece where
  | plain (c : Char)
  /-- A reference with the value of its name. -/
  | found (name value : String)
  /-- The first character of a reference whose name is not known. -/
  | missing (name : String) (c : Char)
  deriving DecidableEq, Repr

/-- The pieces of a text. -/
def pieces (lookup : String → Option String) : List Char → List Piece
  | [] => []
  | c :: cs =>
    match _h : reference? (c :: cs) with
    | none => .plain c :: pieces lookup cs
    | some r =>
      match lookup (String.ofList r.name) with
      | some value => .found (String.ofList r.name) value :: pieces lookup r.rest
      | none => .missing (String.ofList r.name) c :: pieces lookup cs
termination_by cs => cs.length
decreasing_by
  · simp
  · exact reference?_length _h
  · simp

namespace Piece

/-- What a piece leaves in the text. -/
def toChars : Piece → List Char
  | plain c => [c]
  | found _ value => value.toList
  | missing _ c => [c]

/-- The name that a piece asks for. -/
def asked? : Piece → Option String
  | plain _ => none
  | found name _ => some name
  | missing name _ => some name

end Piece

end Expansion

/-! ## 4. Expansion -/

/-- A text with its references replaced. -/
def expand (lookup : String → Option String) (text : String) : String :=
  String.ofList ((Expansion.pieces lookup text.toList).flatMap Expansion.Piece.toChars)

/-- The names asked for by expansion, in order. -/
def askedNames (lookup : String → Option String) (text : String) : List String :=
  (Expansion.pieces lookup text.toList).filterMap Expansion.Piece.asked?

end RuntimeBridge
