/-
# JSON

The data of a JSON text.  Numbers keep their spelling, and objects keep their members in order,
repeated keys included, so that a reader can be as strict about both as it has to be.  A text with an
escaped surrogate that has no partner is well formed and has no value: it is `unreadable`, and so is
an object with such a key.
-/
namespace RuntimeBridge

inductive Json where
  | null
  | bool (b : Bool)
  | num (spelling : String)
  | str (s : String)
  | arr (items : List Json)
  | obj (members : List (String × Json))
  | unreadable

namespace Json

/-! ## 1. Numbers -/

/-- The number that decimal digits spell, if there is a digit and nothing else. -/
def naturalOfChars? (digits : List Char) : Option Nat :=
  if digits.isEmpty || !digits.all Char.isDigit then none
  else some (digits.foldl (fun n c => n * 10 + (c.toNat - 48)) 0)

/-- The integer that a list of characters spells: digits, with an optional sign in front.  Zero with
a sign is none; it is a number in floating point. -/
def integerOfChars? : List Char → Option Int
  | '-' :: digits =>
    (naturalOfChars? digits).bind fun n => if n = 0 then none else some (-(n : Int))
  | digits => (naturalOfChars? digits).map Int.ofNat

/-- The integer of a number that is spelled as one. -/
def integer? : Json → Option Int
  | num spelling => integerOfChars? spelling.toList
  | _ => none

/-- The number that spells an integer. -/
def ofInt (n : Int) : Json := num (toString n)

def ofNat (n : Nat) : Json := num n.repr

/-! ## 2. Members -/

def text? : Json → Option String
  | str s => some s
  | _ => none

def bool? : Json → Option Bool
  | bool b => some b
  | _ => none

def items? : Json → Option (List Json)
  | arr items => some items
  | _ => none

def members? : Json → Option (List (String × Json))
  | obj members => some members
  | _ => none

/-- The first member of an object under a key, null or not. -/
def lookup? (j : Json) (key : String) : Option Json :=
  j.members?.bind fun members => members.lookup key

/-- The first member of an object under a key; a member that is null counts as missing. -/
def member? (j : Json) (key : String) : Option Json :=
  match j.lookup? key with
  | some null => none
  | found => found

/-! ## 3. Optional parts -/

/-- Null where there is nothing. -/
def ofOption {α : Type} (f : α → Json) : Option α → Json
  | some x => f x
  | none => null

def ofList {α : Type} (f : α → Json) (xs : List α) : Json :=
  arr (xs.map f)

/-! ## 4. Depth -/

mutual

/-- Depth of nested arrays and objects. -/
def depth : Json → Nat
  | arr items => depthOfItems items + 1
  | obj members => depthOfMembers members + 1
  | _ => 0

/-- Greatest depth of some items. -/
def depthOfItems : List Json → Nat
  | [] => 0
  | j :: js => max j.depth (depthOfItems js)

/-- Greatest depth of the values of some members. -/
def depthOfMembers : List (String × Json) → Nat
  | [] => 0
  | (_, j) :: js => max j.depth (depthOfMembers js)

end

end Json

end RuntimeBridge
