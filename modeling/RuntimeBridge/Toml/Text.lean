/-
# Texts in TOML

Texts stand between quotation marks, which allow escapes, or between apostrophes, which do not.
Three marks instead of one open a text of several lines.  Control characters other than the tab have
to be escaped.

Each reader takes characters from the front and gives back what it read and the rest.
-/
namespace RuntimeBridge.Toml

/-! ## 1. Characters -/

/-- Characters that may stand in comments and texts. -/
def isPlain (c : Char) : Bool :=
  c == '\t' || (0x20 ≤ c.toNat && c.toNat ≠ 0x7F)

def isBlankChar (c : Char) : Bool := c == ' ' || c == '\t'

def skipBlanks (cs : List Char) : List Char := cs.dropWhile isBlankChar

/-- The rest behind a line break at the front. -/
def newline? : List Char → Option (List Char)
  | '\n' :: rest => some rest
  | '\r' :: '\n' :: rest => some rest
  | _ => none

def skipNewline (cs : List Char) : List Char := (newline? cs).getD cs

/-- The rest behind blanks and line breaks. -/
def skipBlankLines : List Char → List Char
  | ' ' :: rest => skipBlankLines rest
  | '\t' :: rest => skipBlankLines rest
  | '\n' :: rest => skipBlankLines rest
  | '\r' :: '\n' :: rest => skipBlankLines rest
  | cs => cs

/-! ## 2. Escapes -/

def hexValue? (c : Char) : Option Nat :=
  if c.isDigit then some (c.toNat - 48)
  else if 'a' ≤ c && c ≤ 'f' then some (c.toNat - 87)
  else if 'A' ≤ c && c ≤ 'F' then some (c.toNat - 55)
  else none

/-- The character whose number is written with these digits. -/
def numberedChar? (digits : List Char) : Option Char :=
  (digits.mapM hexValue?).bind fun ds =>
    let n := ds.foldl (fun n d => n * 16 + d) 0
    if n < 0xD800 ∨ 0xDFFF < n ∧ n < 0x110000 then some (Char.ofNat n) else none

/-- The character that a letter behind a backslash stands for. -/
def escaped? (c : Char) : Option Char :=
  if c == '"' || c == '\\' then some c
  else if c == 'b' then some '\x08'
  else if c == 'f' then some '\x0c'
  else if c == 'n' then some '\n'
  else if c == 'r' then some '\r'
  else if c == 't' then some '\t'
  else none

/-- The character of an escape, behind its backslash. -/
def escape? : List Char → Option (Char × List Char)
  | 'u' :: rest =>
    if rest.length < 4 then none
    else (numberedChar? (rest.take 4)).map fun c => (c, rest.drop 4)
  | 'U' :: rest =>
    if rest.length < 8 then none
    else (numberedChar? (rest.take 8)).map fun c => (c, rest.drop 8)
  | c :: rest => (escaped? c).map fun c => (c, rest)
  | [] => none

/-! ## 3. Texts on one line -/

/-- Put a character in front of what was read. -/
def consChar (c : Char) (r : Option (List Char × List Char)) : Option (List Char × List Char) :=
  r.map fun p => (c :: p.1, p.2)

/-- A text up to its closing quotation mark; it is read with fuel, one unit for each character. -/
def quoted? : Nat → List Char → Option (List Char × List Char)
  | 0, _ => none
  | _ + 1, [] => none
  | _ + 1, '"' :: rest => some ([], rest)
  | fuel + 1, '\\' :: rest =>
    match escape? rest with
    | some (c, rest) => consChar c (quoted? fuel rest)
    | none => none
  | fuel + 1, c :: rest => if isPlain c then consChar c (quoted? fuel rest) else none

/-- A text up to its closing apostrophe. -/
def literal? : List Char → Option (List Char × List Char)
  | [] => none
  | '\'' :: rest => some ([], rest)
  | c :: rest => if isPlain c then consChar c (literal? rest) else none

/-! ## 4. Texts of several lines -/

/-- What a run of `n` marks inside a text of several lines means: up to two stand for themselves,
three to five close the text and those beyond three stand for themselves, more are an error. -/
inductive MarkRun where
  | inside (n : Nat)
  | closing (n : Nat)
  | error

def markRun (n : Nat) : MarkRun :=
  if n < 3 then .inside n else if n ≤ 5 then .closing (n - 3) else .error

/-- Go on behind a run of marks at the front, or end the text there. -/
def afterMarks (mark : Char) (goOn : List Char → Option (List Char × List Char))
    (cs : List Char) : Option (List Char × List Char) :=
  let rest := cs.dropWhile (· == mark)
  match markRun (cs.length - rest.length) with
  | .inside n => (goOn rest).map fun p => (List.replicate n mark ++ p.1, p.2)
  | .closing n => some (List.replicate n mark, rest)
  | .error => none

/-- A text of several lines with escapes, behind its opening marks.  A backslash at the end of a line
takes away the line break and the blanks and line breaks behind it. -/
def quotedLines? : Nat → List Char → Option (List Char × List Char)
  | 0, _ => none
  | _ + 1, [] => none
  | fuel + 1, '"' :: rest => afterMarks '"' (quotedLines? fuel) ('"' :: rest)
  | fuel + 1, '\\' :: rest =>
    match newline? (skipBlanks rest) with
    | some rest => quotedLines? fuel (skipBlankLines rest)
    | none =>
      match escape? rest with
      | some (c, rest) => consChar c (quotedLines? fuel rest)
      | none => none
  | fuel + 1, '\n' :: rest => consChar '\n' (quotedLines? fuel rest)
  | fuel + 1, '\r' :: '\n' :: rest => consChar '\n' (quotedLines? fuel rest)
  | fuel + 1, c :: rest => if isPlain c then consChar c (quotedLines? fuel rest) else none

/-- A text of several lines without escapes, behind its opening marks. -/
def literalLines? : Nat → List Char → Option (List Char × List Char)
  | 0, _ => none
  | _ + 1, [] => none
  | fuel + 1, '\'' :: rest => afterMarks '\'' (literalLines? fuel) ('\'' :: rest)
  | fuel + 1, '\n' :: rest => consChar '\n' (literalLines? fuel rest)
  | fuel + 1, '\r' :: '\n' :: rest => consChar '\n' (literalLines? fuel rest)
  | fuel + 1, c :: rest => if isPlain c then consChar c (literalLines? fuel rest) else none

/-! ## 5. Texts as values -/

/-- A text of any form. -/
def string? (cs : List Char) : Option (String × List Char) :=
  let found :=
    match cs with
    | '"' :: '"' :: '"' :: rest => quotedLines? cs.length (skipNewline rest)
    | '"' :: rest => quoted? cs.length rest
    | '\'' :: '\'' :: '\'' :: rest => literalLines? cs.length (skipNewline rest)
    | '\'' :: rest => literal? rest
    | _ => none
  found.map fun p => (String.ofList p.1, p.2)

end RuntimeBridge.Toml
