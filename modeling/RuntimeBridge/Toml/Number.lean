/-
# Numbers and dates in TOML

Integers may be decimal with a sign, hexadecimal, octal or binary; underscores may stand between
digits.  An integer has to fit 64 bits.  A number in floating point has a fraction, an exponent or
both, and may not be too great.  Dates follow the calendar, and times the clock.
-/
import RuntimeBridge.Number.Integer
import RuntimeBridge.Toml.Basic
namespace RuntimeBridge.Toml

/-! ## 1. Digits -/

/-- Further digits, each after an underscore or at once. -/
def moreDigits? (p : Char → Bool) : List Char → Option (List Char × List Char)
  | [] => some ([], [])
  | ['_'] => none
  | '_' :: c :: rest =>
    if p c then (moreDigits? p rest).map fun r => (c :: r.1, r.2) else none
  | c :: rest =>
    if p c then (moreDigits? p rest).map fun r => (c :: r.1, r.2) else some ([], c :: rest)

/-- Digits, at least one. -/
def digits? (p : Char → Bool) : List Char → Option (List Char × List Char)
  | [] => none
  | c :: rest => if p c then (moreDigits? p rest).map fun r => (c :: r.1, r.2) else none

/-- The number that digits to a base spell. -/
def digitsValue (base : Nat) (digits : List Char) : Nat :=
  digits.foldl
    (fun n c =>
      n * base +
        (if c.isDigit then c.toNat - 48 else if 'a' ≤ c then c.toNat - 87 else c.toNat - 55))
    0

/-- A sign; minus is `true`. -/
def sign : List Char → Bool × List Char
  | '-' :: rest => (true, rest)
  | '+' :: rest => (false, rest)
  | cs => (false, cs)

/-- The digits of a decimal integer: zero, or digits that do not begin with zero. -/
def decimal? : List Char → Option (List Char × List Char)
  | '0' :: rest => some (['0'], rest)
  | cs => digits? Char.isDigit cs

/-! ## 2. Integers -/

/-- An integer to a base, behind the letter that names the base. -/
def based? (base : Nat) (p : Char → Bool) (cs : List Char) : Option (Int × List Char) :=
  (digits? p cs).map fun r => (digitsValue base r.1, r.2)

def isHexDigit (c : Char) : Bool :=
  c.isDigit || ('a' ≤ c && c ≤ 'f') || ('A' ≤ c && c ≤ 'F')

/-- An integer of any size. -/
def unboundedInteger? : List Char → Option (Int × List Char)
  | '0' :: 'x' :: rest => based? 16 isHexDigit rest
  | '0' :: 'o' :: rest => based? 8 (fun c => '0' ≤ c && c ≤ '7') rest
  | '0' :: 'b' :: rest => based? 2 (fun c => c == '0' || c == '1') rest
  | cs =>
    let (negative, cs) := sign cs
    (decimal? cs).map fun r =>
      let n := digitsValue 10 r.1
      (if negative then -n else n, r.2)

/-- An integer that fits 64 bits. -/
def integer64? (cs : List Char) : Option (Int × List Char) :=
  (unboundedInteger? cs).bind fun r => if IntKind.int64.Fits r.1 then some r else none

/-! ## 3. Floating point -/

/-- The fraction of a number: its digits behind the point. -/
def fraction? : List Char → Option (List Char × List Char)
  | '.' :: rest => digits? Char.isDigit rest
  | _ => none

/-- The exponent of a number. -/
def exponent? : List Char → Option (Int × List Char)
  | [] => none
  | e :: rest =>
    if e == 'e' || e == 'E' then
      let (negative, rest) := sign rest
      (digits? Char.isDigit rest).map fun r =>
        let n := digitsValue 10 r.1
        (if negative then -n else n, r.2)
    else none

/-- The least number that rounds up to a power of two beyond all binary64 values. -/
def floatLimit : Nat := Nat.pow 2 1024 - Nat.pow 2 970

/-- The number `n · 10 ^ exponent` is too great for binary64.  A number of `length` digits lies below
ten to the `length`, which settles all but a few cases without computing the power. -/
def isTooGreat (n length : Nat) (exponent : Int) : Bool :=
  if n == 0 || exponent + length ≤ 300 then false
  else if exponent > 400 then true
  else if exponent ≥ 0 then floatLimit ≤ n * Nat.pow 10 exponent.toNat
  else floatLimit * Nat.pow 10 (-exponent).toNat ≤ n

/-- A number with fraction or exponent; the rest behind it. -/
def decimalFloat? (cs : List Char) : Option (List Char) :=
  let (negative, cs) := sign cs
  (decimal? cs).bind fun (whole, cs) =>
    let part :=
      match fraction? cs with
      | some (digits, cs) =>
        match exponent? cs with
        | some (e, cs) => some (digits, e, cs)
        | none => if cs.head?.any (fun c => c == 'e' || c == 'E') then none else some (digits, 0, cs)
      | none =>
        if cs.head? == some '.' then none
        else (exponent? cs).map fun (e, cs) => ([], e, cs)
    part.bind fun (digits, e, cs) =>
      let all := whole ++ digits
      let great := isTooGreat (digitsValue 10 all) all.length (e - digits.length)
      if great && !negative then none else some cs

/-- An infinite number or none; the rest behind it. -/
def specialFloat? (cs : List Char) : Option (List Char) :=
  match (sign cs).2 with
  | 'i' :: 'n' :: 'f' :: rest => some rest
  | 'n' :: 'a' :: 'n' :: rest => some rest
  | _ => none

def float? (cs : List Char) : Option (List Char) :=
  (decimalFloat? cs).or (specialFloat? cs)

/-! ## 4. Dates and times -/

/-- A number of exactly `n` digits from a range. -/
def field? (n lo hi : Nat) (cs : List Char) : Option (Nat × List Char) :=
  let digits := cs.take n
  if digits.length == n && digits.all Char.isDigit then
    let value := digitsValue 10 digits
    if lo ≤ value && value ≤ hi then some (value, cs.drop n) else none
  else none

/-- The rest behind an expected character. -/
def expect? (c : Char) : List Char → Option (List Char)
  | d :: rest => if c == d then some rest else none
  | [] => none

/-- Days of a month. -/
def daysOf (year month : Nat) : Nat :=
  if month == 2 then
    if year % 4 == 0 && (year % 100 != 0 || year % 400 == 0) then 29 else 28
  else if month == 4 || month == 6 || month == 9 || month == 11 then 30
  else 31

/-- A date; the rest behind it. -/
def date? (cs : List Char) : Option (List Char) := do
  let (year, cs) ← field? 4 0 9999 cs
  let cs ← expect? '-' cs
  let (month, cs) ← field? 2 1 12 cs
  let cs ← expect? '-' cs
  let (_, cs) ← field? 2 1 (daysOf year month) cs
  return cs

/-- A time of the day; the rest behind it. -/
def time? (cs : List Char) : Option (List Char) := do
  let (_, cs) ← field? 2 0 23 cs
  let cs ← expect? ':' cs
  let (_, cs) ← field? 2 0 59 cs
  let cs ← expect? ':' cs
  let (_, cs) ← field? 2 0 60 cs
  match cs with
  | '.' :: fraction =>
    if fraction.head?.any Char.isDigit then return fraction.dropWhile Char.isDigit else return cs
  | cs => return cs

/-- The distance of a time from universal time, if it is given; the rest behind it. -/
def offset? (cs : List Char) : Option (List Char) :=
  match cs with
  | 'Z' :: rest => some rest
  | 'z' :: rest => some rest
  | c :: rest =>
    if c == '+' || c == '-' then do
      let (_, rest) ← field? 2 0 23 rest
      let rest ← expect? ':' rest
      let (_, rest) ← field? 2 0 59 rest
      return rest
    else some cs
  | [] => some []

/-- The time behind a date and a separator, if there is one. -/
def timeOfDate? (cs : List Char) : Option (List Char) :=
  match cs with
  | c :: rest =>
    if c == 'T' || c == 't' || c == ' ' then
      match time? rest with
      | some rest => offset? rest
      | none => some cs
    else some cs
  | [] => some []

/-- A date, a date with a time, or a time; the rest behind it. -/
def moment? (cs : List Char) : Option (List Char) :=
  match date? cs with
  | some rest => timeOfDate? rest
  | none => time? cs

/-! ## 5. Numbers as values -/

/-- A number or a date; the longest form that fits is tried first. -/
def number? (cs : List Char) : Option (Toml × List Char) :=
  match moment? cs, float? cs with
  | some rest, _ => some (.moment, rest)
  | none, some rest => some (.float, rest)
  | none, none => (integer64? cs).map fun r => (.integer r.1, r.2)

end RuntimeBridge.Toml
