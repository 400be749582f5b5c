/-
# Quoted texts

In descriptions for logs a text stands between quotes.  Quotes and backslashes inside it are escaped,
and so is every character that would not be seen; the apostrophe is not.
-/
import RuntimeBridge.Text.Printable
namespace RuntimeBridge

/-- The escape of a character by its code point. -/
def codePointEscape (c : Char) : String :=
  "\\u\x7b" ++ String.ofList (Nat.toDigits 16 c.toNat) ++ "\x7d"

/-- A character as it stands between quotes. -/
def quotedChar (c : Char) : String :=
  match c with
  | '\x00' => "\\0"
  | '\t' => "\\t"
  | '\n' => "\\n"
  | '\r' => "\\r"
  | '\\' => "\\\\"
  | '"' => "\\\""
  | c => if isPrintable c then c.toString else codePointEscape c

/-- A text between quotes, as descriptions show it. -/
def quotedText (s : String) : String :=
  "\"" ++ String.join (s.toList.map quotedChar) ++ "\""

end RuntimeBridge
