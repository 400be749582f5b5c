/-
# JSON texts

The text of JSON data without blanks between its parts.  In a string the quotation mark, the
backslash and control characters are escaped, and every other character stands for itself.
-/
import RuntimeBridge.Json.Basic
namespace RuntimeBridge

namespace Json

/-! ## 1. Strings -/

/-- A digit to base sixteen. -/
def hexDigit (n : Nat) : Char :=
  ("0123456789abcdef".toList[n % 16]?).getD '0'

/-- The characters that stand for a character inside a string. -/
def escapeChar (c : Char) : List Char :=
  if c == '"' then ['\\', '"']
  else if c == '\\' then ['\\', '\\']
  else if c.toNat < 0x20 then ['\\', 'u', '0', '0', hexDigit (c.toNat / 16), hexDigit c.toNat]
  else [c]

/-- A string between quotation marks. -/
def quote (s : String) : String :=
  String.ofList ('"' :: s.toList.flatMap escapeChar ++ ['"'])

/-! ## 2. Data -/

mutual

/-- The text of JSON data behind the text `front`. -/
def appendTo (front : String) : Json → String
  | null => front ++ "null"
  | bool b => front ++ (if b then "true" else "false")
  | num spelling => front ++ spelling
  | str s => front ++ quote s
  | arr items => appendItems (front ++ "[") "" items ++ "]"
  | obj members => appendMembers (front ++ "\x7b") "" members ++ "\x7d"
  | unreadable => front ++ "null"

/-- The texts of some items, separated by commas. -/
def appendItems (front separator : String) : List Json → String
  | [] => front
  | j :: js => appendItems (appendTo (front ++ separator) j) "," js

/-- The texts of some members, separated by commas. -/
def appendMembers (front separator : String) : List (String × Json) → String
  | [] => front
  | (key, j) :: js =>
    appendMembers (appendTo (front ++ separator ++ quote key ++ ":") j) "," js

end

/-- The text of JSON data. -/
def toText (j : Json) : String := appendTo "" j

end Json

end RuntimeBridge
