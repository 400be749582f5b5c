/-
# Writing TOML

A text is written between quotation marks or between apostrophes.  Between apostrophes there are no
escapes, and between quotation marks they are spared where they can be: a pair of delimiters of three
characters holds short runs of its own character, and line breaks, as they are.  A list with more than
one item is written over several lines, too.

Main definitions: `Form.of`, which chooses the delimiters, and `quote`.
-/
import RuntimeBridge.Toml.Text
import RuntimeBridge.Error.Basic
namespace RuntimeBridge.Toml

/-! ## 1. Measures of a text -/

/-- What decides how a text can be written. -/
structure Measures where
  /-- Length of the longest run of apostrophes. -/
  apostrophes : Nat
  /-- Length of the longest run of quotation marks. -/
  quotes : Nat
  /-- There are characters that only escapes can stand for. -/
  controls : Bool
  backslashes : Bool
  lineBreaks : Bool
  deriving DecidableEq, Repr

/-- Length of the longest run of a character, behind a run of `run`. -/
def longestRun (d : Char) (run : Nat) : List Char → Nat
  | [] => run
  | c :: rest => if c == d then longestRun d (run + 1) rest else max run (longestRun d 0 rest)

/-- A character that never stands in a text as it is: a control character other than a tab or a line
break. -/
def isControl (c : Char) : Bool :=
  !isPlain c && c != '\n'

/-- The measures of a text. -/
def Measures.of (cs : List Char) : Measures where
  apostrophes := longestRun '\'' 0 cs
  quotes := longestRun '"' 0 cs
  controls := cs.any isControl
  backslashes := cs.contains '\\'
  lineBreaks := cs.contains '\n'

/-- The longest run that is counted; the counters have one octet. -/
def runLimit : Nat := 255

/-- Runs of this length can be counted. -/
def Measures.counted (m : Measures) : Bool :=
  m.apostrophes ≤ runLimit && m.quotes ≤ runLimit

/-! ## 2. Forms -/

/-- How a text is delimited: by quotation marks or apostrophes, and by one or by three. -/
inductive Form where
  | basic
  | literal
  | longBasic
  | longLiteral
  deriving DecidableEq, Repr

namespace Form

/-- The form for a text: the first one that spares all escapes, and else one that has them. -/
def of (m : Measures) : Form :=
  if !m.controls && !m.backslashes && m.quotes == 0 && !m.lineBreaks then basic
  else if !m.controls && m.apostrophes == 0 && !m.lineBreaks then literal
  else if !m.controls && !m.backslashes && m.quotes ≤ 2 then longBasic
  else if !m.controls && m.apostrophes ≤ 2 then longLiteral
  else if m.lineBreaks then longBasic
  else basic

def delimiter : Form → String
  | basic => "\""
  | literal => "'"
  | longBasic => "\"\"\""
  | longLiteral => "'''"

/-- Three delimiters, between which there may be line breaks. -/
def isLong : Form → Bool
  | basic | literal => false
  | longBasic | longLiteral => true

end Form

/-! ## 3. Escapes -/

/-- A digit to base sixteen. -/
def upperHexDigit (n : Nat) : Char :=
  ("0123456789ABCDEF".toList[n % 16]?).getD '0'

/-- A character other than a quotation mark; line breaks stay if the text has several lines. -/
def escapeChar (lines : Bool) (c : Char) : List Char :=
  if c == '\\' then ['\\', '\\']
  else if c == '\n' then if lines then ['\n'] else ['\\', 'n']
  else if c == '\x08' then ['\\', 'b']
  else if c == '\t' then ['\\', 't']
  else if c == '\x0c' then ['\\', 'f']
  else if c == '\r' then ['\\', 'r']
  else if isControl c then
    ['\\', 'u', '0', '0', upperHexDigit (c.toNat / 16), upperHexDigit c.toNat]
  else [c]

/-- Characters with escapes behind a run of `run` quotation marks; between long delimiters runs of two
stay. -/
def escapeFrom (long : Bool) (run : Nat) : List Char → List Char
  | [] => []
  | c :: cs =>
    if c == '"' then
      if long && run < 2 then '"' :: escapeFrom long (run + 1) cs
      else '\\' :: '"' :: escapeFrom long 0 cs
    else escapeChar long c ++ escapeFrom long 0 cs

/-- The characters of a text between the delimiters of a form. -/
def Form.body : Form → List Char → List Char
  | literal, cs | longLiteral, cs => cs
  | form, cs => escapeFrom form.isLong 0 cs

/-! ## 4. Texts -/

/-- The written form of a text.  A line break behind the opening delimiter does not count, so one is put
there where the text has line breaks.  A run that cannot be counted is a panic. -/
def quote (s : String) : Outcome String :=
  let m := Measures.of s.toList
  if m.counted then
    let form := Form.of m
    let opening := if form.isLong && m.lineBreaks then "\n" else ""
    .ok (form.delimiter ++ opening ++ String.ofList (form.body s.toList) ++ form.delimiter)
  else .error (.panic (.text "attempt to add with overflow"))

/-! ## 5. Lists and lines -/

/-- The written form of a list of texts. -/
def quoteList (items : List String) : Outcome String := do
  match ← items.mapM quote with
  | [] => return "[]"
  | [s] => return "[" ++ s ++ "]"
  | items => return "[\n" ++ String.join (items.map fun s => "    " ++ s ++ ",\n") ++ "]"

/-- A line that gives a key its value. -/
def line (key value : String) : String := key ++ " = " ++ value ++ "\n"

/-- The line of an optional text, or nothing. -/
def optionalLine (key : String) : Option String → Outcome String
  | some s => return line key (← quote s)
  | none => return ""

end RuntimeBridge.Toml
