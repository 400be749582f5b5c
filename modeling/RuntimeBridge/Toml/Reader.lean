/-
# Reading TOML documents

A document is read line by line into statements, which then define its tables.  Values nest less than
80 levels deep, and keys have fewer than 80 parts.
-/
import RuntimeBridge.Toml.Text
import RuntimeBridge.Toml.Number
import RuntimeBridge.Toml.Table
namespace RuntimeBridge.Toml

/-! ## 1. Keys -/

/-- Levels at which nesting stops. -/
def depthLimit : Nat := 80

def isKeyChar (c : Char) : Bool := c.isAlphanum || c == '_' || c == '-'

/-- One part of a key. -/
def keyPart? (cs : List Char) : Option (String × List Char) :=
  match cs with
  | '"' :: rest => (quoted? cs.length rest).map fun p => (String.ofList p.1, p.2)
  | '\'' :: rest => (literal? rest).map fun p => (String.ofList p.1, p.2)
  | cs =>
    match cs.span isKeyChar with
    | ([], _) => none
    | (name, rest) => some (String.ofList name, rest)

/-- The parts of a key, of which there may be at most `limit`, and the rest behind the blanks that
follow. -/
def keyParts? : Nat → List Char → Option (List String × List Char)
  | 0, _ => none
  | limit + 1, cs =>
    match keyPart? (skipBlanks cs) with
    | none => none
    | some (part, rest) =>
      match skipBlanks rest with
      | '.' :: rest => (keyParts? limit rest).map fun p => (part :: p.1, p.2)
      | rest => some ([part], rest)

/-- A key: the parts in front of the last one, and the last one. -/
def key? (cs : List Char) : Option (List String × String × List Char) :=
  (keyParts? (depthLimit - 1) cs).bind fun p =>
    p.1.getLast?.map fun last => (p.1.dropLast, last, p.2)

/-! ## 2. Values -/

/-- The rest behind a comment at the front. -/
def skipComment : List Char → List Char
  | '#' :: rest => rest.dropWhile isPlain
  | cs => cs

/-- The rest behind blanks, line breaks, and comments that end with a line break. -/
def skipFiller : Nat → List Char → Option (List Char)
  | 0, cs => some cs
  | fuel + 1, cs =>
    match skipBlanks cs with
    | '#' :: rest => (newline? (skipComment ('#' :: rest))).bind (skipFiller fuel)
    | '\n' :: rest => skipFiller fuel rest
    | '\r' :: rest => (newline? ('\r' :: rest)).bind (skipFiller fuel)
    | rest => some rest

/-- A value whose parts may nest to a depth, and the rest. -/
def valueWith (arrayOf tableOf : List Char → Option (Toml × List Char)) (cs : List Char) :
    Option (Toml × List Char) :=
  match cs with
  | '"' :: _ => (string? cs).map fun p => (.text p.1, p.2)
  | '\'' :: _ => (string? cs).map fun p => (.text p.1, p.2)
  | '[' :: rest => arrayOf rest
  | '\x7b' :: rest => tableOf rest
  | 't' :: 'r' :: 'u' :: 'e' :: rest => some (.boolean true, rest)
  | 'f' :: 'a' :: 'l' :: 's' :: 'e' :: rest => some (.boolean false, rest)
  | cs => number? cs

mutual

/-- A value; `depth` counts the levels that are left, and `fuel` the steps. -/
def readValue? : Nat → Nat → List Char → Option (Toml × List Char)
  | 0, _, _ => none
  | _ + 1, 0, cs => valueWith (fun _ => none) (fun _ => none) cs
  | fuel + 1, depth + 1, cs =>
    valueWith
      (fun rest => (readItems? fuel depth rest).map fun p => (.array p.1, p.2))
      (fun rest =>
        match skipBlanks rest with
        | '\x7d' :: rest => some (.table [], rest)
        | rest =>
          (readPairs? fuel depth [] rest).map fun p => (.table (Definition.finishEntries p.1), p.2))
      cs

/-- The items of an array up to its closing bracket. -/
def readItems? : Nat → Nat → List Char → Option (List Toml × List Char)
  | 0, _, _ => none
  | fuel + 1, depth, cs =>
    match skipFiller (fuel + 1) cs with
    | none => none
    | some (']' :: rest) => some ([], rest)
    | some cs =>
      match readValue? fuel depth cs with
      | none => none
      | some (v, rest) =>
        match skipFiller (fuel + 1) rest with
        | some (',' :: rest) => (readItems? fuel depth rest).map fun p => (v :: p.1, p.2)
        | some (']' :: rest) => some ([v], rest)
        | _ => none

/-- The pairs of a table on one line, up to its closing brace, behind those already read. -/
def readPairs? : Nat → Nat → Entries → List Char → Option (Entries × List Char)
  | 0, _, _, _ => none
  | fuel + 1, depth, entries, cs =>
    match key? cs with
    | some (path, key, '=' :: rest) =>
      match readValue? fuel depth (skipBlanks rest) with
      | none => none
      | some (v, rest) =>
        match Definition.assign path key v entries with
        | none => none
        | some entries =>
          match skipBlanks rest with
          | ',' :: rest => readPairs? fuel depth entries rest
          | '\x7d' :: rest => some (entries, rest)
          | _ => none
    | _ => none

end

/-! ## 3. Statements -/

inductive Statement where
  | assign (path : List String) (key : String) (v : Toml)
  | openTable (path : List String) (key : String)
  | openRow (path : List String) (key : String)

/-- The rest behind the end of a line, where a comment may stand. -/
def endOfLine? (cs : List Char) : Option (List Char) :=
  match skipComment (skipBlanks cs) with
  | [] => some []
  | cs => newline? cs

/-- The statement on a line, behind blanks, and the rest behind its last part. -/
def statement? (fuel : Nat) (cs : List Char) : Option (Statement × List Char) :=
  match cs with
  | '[' :: '[' :: rest =>
    match key? rest with
    | some (path, key, ']' :: ']' :: rest) => some (.openRow path key, rest)
    | _ => none
  | '[' :: rest =>
    match key? rest with
    | some (path, key, ']' :: rest) => some (.openTable path key, rest)
    | _ => none
  | cs =>
    match key? cs with
    | some (path, key, '=' :: rest) =>
      (readValue? fuel (depthLimit - 1) (skipBlanks rest)).map fun p => (.assign path key p.1, p.2)
    | _ => none

/-- The statements of a document, read with fuel for each line and each value. -/
def statements? : Nat → List Char → Option (List Statement)
  | 0, _ => none
  | fuel + 1, cs =>
    match skipBlanks cs with
    | [] => some []
    | cs =>
      if cs.head? == some '#' || (newline? cs).isSome then
        (endOfLine? cs).bind (statements? fuel)
      else
        match statement? (fuel + 1) cs with
        | none => none
        | some (s, rest) =>
          ((endOfLine? rest).bind (statements? fuel)).map fun ss => s :: ss

/-! ## 4. Documents -/

/-- Carry out statements; `header` is the path of the table that was opened last. -/
def define (header : List String) (entries : Entries) : List Statement → Option Entries
  | [] => some entries
  | .assign path key v :: rest =>
    (Definition.assignUnder header path key v entries).bind fun entries => define header entries rest
  | .openTable path key :: rest =>
    (Definition.openTable path key entries).bind fun entries => define (path ++ [key]) entries rest
  | .openRow path key :: rest =>
    (Definition.openRow path key entries).bind fun entries => define (path ++ [key]) entries rest

/-- The text without a byte order mark. -/
def withoutMark : List Char → List Char
  | '\uFEFF' :: rest => rest
  | cs => cs

/-- The entries of a document. -/
def parse? (s : String) : Option (List (String × Toml)) :=
  let cs := withoutMark s.toList
  ((statements? (2 * cs.length + 2) cs).bind (define [] [])).map Definition.finishEntries

end RuntimeBridge.Toml
