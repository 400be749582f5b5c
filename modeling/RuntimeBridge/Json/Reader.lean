/-
# Reading JSON texts

A text is read by the grammar of JSON: one value, blanks around its parts, nothing behind it.  The
readers take the characters from the front and give back the rest.  Nested values are read with fuel;
each character of the text pays for two steps, which is more than any text needs.
-/
import RuntimeBridge.Json.Basic
import RuntimeBridge.Text.Utf16
namespace RuntimeBridge

namespace Json.Reader

/-! ## 1. Blanks -/

def isSpace (c : Char) : Bool :=
  c == ' ' || c == '\n' || c == '\t' || c == '\r'

def skipSpace (cs : List Char) : List Char := cs.dropWhile isSpace

/-! ## 2. Strings -/

def hexValue? (c : Char) : Option Nat :=
  if c.isDigit then some (c.toNat - 48)
  else if 'a' ≤ c && c ≤ 'f' then some (c.toNat - 87)
  else if 'A' ≤ c && c ≤ 'F' then some (c.toNat - 55)
  else none

/-- The number of four digits to base sixteen. -/
def hexUnit? (a b c d : Char) : Option UInt16 :=
  match hexValue? a, hexValue? b, hexValue? c, hexValue? d with
  | some a, some b, some c, some d => some (((a * 16 + b) * 16 + c) * 16 + d).toUInt16
  | _, _, _, _ => none

/-- The character that a letter behind a backslash stands for. -/
def escaped? (c : Char) : Option Char :=
  if c == '"' || c == '\\' || c == '/' then some c
  else if c == 'b' then some '\x08'
  else if c == 'f' then some '\x0c'
  else if c == 'n' then some '\n'
  else if c == 'r' then some '\r'
  else if c == 't' then some '\t'
  else none

/-- The 16-bit units of a string, up to its closing quotation mark. -/
def stringUnits? : List Char → Option (List UInt16 × List Char)
  | [] => none
  | '"' :: rest => some ([], rest)
  | '\\' :: 'u' :: a :: b :: c :: d :: rest =>
    match hexUnit? a b c d, stringUnits? rest with
    | some u, some (us, rest) => some (u :: us, rest)
    | _, _ => none
  | '\\' :: e :: rest =>
    match escaped? e, stringUnits? rest with
    | some c, some (us, rest) => some (Utf16.encodeChar c ++ us, rest)
    | _, _ => none
  | c :: rest =>
    if c.toNat < 0x20 then none
    else (stringUnits? rest).map fun p => (Utf16.encodeChar c ++ p.1, p.2)

/-! ## 3. Numbers -/

/-- The digits in front, at least one. -/
def digits? (cs : List Char) : Option (List Char × List Char) :=
  match cs.span Char.isDigit with
  | ([], _) => none
  | found => some found

/-- An integer without sign: zero, or digits that do not begin with zero. -/
def natural? : List Char → Option (List Char × List Char)
  | '0' :: rest => if rest.head?.any Char.isDigit then none else some (['0'], rest)
  | cs => digits? cs

/-- The point of a number and the digits behind it, if there is a point. -/
def fraction? : List Char → Option (List Char × List Char)
  | '.' :: rest => (digits? rest).map fun p => ('.' :: p.1, p.2)
  | cs => some ([], cs)

/-- The exponent of a number, if there is one. -/
def exponent? : List Char → Option (List Char × List Char)
  | [] => some ([], [])
  | e :: rest =>
    if e == 'e' || e == 'E' then
      match rest with
      | '+' :: rest => (digits? rest).map fun p => (e :: '+' :: p.1, p.2)
      | '-' :: rest => (digits? rest).map fun p => (e :: '-' :: p.1, p.2)
      | rest => (digits? rest).map fun p => (e :: p.1, p.2)
    else some ([], e :: rest)

def sign : List Char → List Char × List Char
  | '-' :: rest => (['-'], rest)
  | cs => ([], cs)

/-- A number, as it is spelled. -/
def number? (cs : List Char) : Option (String × List Char) := do
  let (s, cs) := sign cs
  let (n, cs) ← natural? cs
  let (f, cs) ← fraction? cs
  let (e, cs) ← exponent? cs
  return (String.ofList (s ++ n ++ f ++ e), cs)

/-! ## 4. Values -/

/-- The text of some units, unless one of them is a surrogate without partner. -/
def ofUnits (us : List UInt16) : Json :=
  match Utf16.decode? us with
  | some s => str s
  | none => unreadable

/-- The object with these members, unless a key cannot be read. -/
def ofMembers (members : List (List UInt16 × Json)) : Json :=
  match members.mapM fun m => (Utf16.decode? m.1).map fun key => (key, m.2) with
  | some members => obj members
  | none => unreadable

mutual

/-- A value behind blanks. -/
def value? : Nat → List Char → Option (Json × List Char)
  | 0, _ => none
  | fuel + 1, cs =>
    match skipSpace cs with
    | 'n' :: 'u' :: 'l' :: 'l' :: rest => some (null, rest)
    | 't' :: 'r' :: 'u' :: 'e' :: rest => some (bool true, rest)
    | 'f' :: 'a' :: 'l' :: 's' :: 'e' :: rest => some (bool false, rest)
    | '"' :: rest => (stringUnits? rest).map fun p => (ofUnits p.1, p.2)
    | '[' :: rest =>
      match skipSpace rest with
      | ']' :: rest => some (arr [], rest)
      | rest => (items? fuel rest).map fun p => (arr p.1, p.2)
    | '\x7b' :: rest =>
      match skipSpace rest with
      | '\x7d' :: rest => some (obj [], rest)
      | rest => (members? fuel rest).map fun p => (ofMembers p.1, p.2)
    | rest => (number? rest).map fun p => (num p.1, p.2)

/-- The items of an array, up to its closing bracket. -/
def items? : Nat → List Char → Option (List Json × List Char)
  | 0, _ => none
  | fuel + 1, cs =>
    match value? fuel cs with
    | none => none
    | some (v, rest) =>
      match skipSpace rest with
      | ']' :: rest => some ([v], rest)
      | ',' :: rest => (items? fuel rest).map fun p => (v :: p.1, p.2)
      | _ => none

/-- The members of an object, up to its closing brace. -/
def members? : Nat → List Char → Option (List (List UInt16 × Json) × List Char)
  | 0, _ => none
  | fuel + 1, cs =>
    match skipSpace cs with
    | '"' :: rest =>
      match stringUnits? rest with
      | none => none
      | some (key, rest) =>
        match skipSpace rest with
        | ':' :: rest =>
          match value? fuel rest with
          | none => none
          | some (v, rest) =>
            match skipSpace rest with
            | '\x7d' :: rest => some ([(key, v)], rest)
            | ',' :: rest => (members? fuel rest).map fun p => ((key, v) :: p.1, p.2)
            | _ => none
        | _ => none
    | _ => none

end

end Json.Reader

/-- The data of a JSON text. -/
def Json.parse? (s : String) : Option Json :=
  match Json.Reader.value? (2 * s.length + 2) s.toList with
  | some (j, rest) => if (Json.Reader.skipSpace rest).isEmpty then some j else none
  | none => none

end RuntimeBridge
