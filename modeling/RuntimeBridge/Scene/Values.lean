/-
# Values in scenes

The JSON forms of values, objects, handles and callables.  An object or a foreign handle in a
description is a new one each time it is read; a callable is one of the scene.
-/
import RuntimeBridge.Scene.Types
import RuntimeBridge.Text.CodePoint
namespace RuntimeBridge.Scene

/-! ## 1. Numbers -/

/-- The number of hexadecimal digits. -/
def hexNumber (s : String) : Nat :=
  s.toList.foldl
    (fun n c =>
      n * 16 +
        (if c.isDigit then c.toNat - 48 else if 'a' ≤ c then c.toNat - 87 else c.toNat - 55))
    0

/-- A number as so many hexadecimal digits. -/
def hexText (width n : Nat) : String :=
  let digits := Nat.toDigits 16 n
  String.ofList (List.replicate (width - digits.length) '0' ++ digits)

def ofFloat64 (x : Binary64) : Json :=
  .str (if x.isNoNumber then "nan" else hexText 16 x.pattern.toNat)

def ofFloat32 (x : Binary32) : Json :=
  .str (if x.isNoNumber then "nan" else hexText 8 x.pattern.toNat)

/-! ## 2. Keys -/

def intKinds : List (String × IntKind) :=
  [("i8", .int8), ("i16", .int16), ("i32", .int32), ("i64", .int64), ("u8", .uint8),
    ("u16", .uint16), ("u32", .uint32), ("u64", .uint64), ("size", .size)]

def intKey (k : IntKind) : String :=
  ((intKinds.find? fun e => e.2 == k).map Prod.fst).getD ""

/-- A letter for characters or texts, and a width. -/
def widthKey (letter : String) : Width → String
  | .w8 => letter ++ "8"
  | .w16 => letter ++ "16"
  | .w32 => letter ++ "32"

def width? (letter key : String) : Option Width :=
  [Width.w8, .w16, .w32].find? fun w => widthKey letter w == key

/-! ## 3. Writing -/

def ofChar (c : Char) : Json := .ofNat c.toNat

/-- A scalar without its kind. -/
def ofBareScalar : Scalar → Json
  | .int _ n => .ofInt n.val
  | .float64 x => ofFloat64 x
  | .float32 x => ofFloat32 x
  | .bool b => .bool b
  | .char _ c => ofChar c

def ofScalar (s : Scalar) : Json :=
  match s with
  | .int k _ => .obj [(intKey k, ofBareScalar s)]
  | .float64 _ => .obj [("f64", ofBareScalar s)]
  | .float32 _ => .obj [("f32", ofBareScalar s)]
  | .bool b => .bool b
  | .char w _ => .obj [(widthKey "c" w, ofBareScalar s)]

def ofHandle (r : HandleRecord) : Json :=
  .obj [("handle", .ofNat r.handle), ("runtime", .ofNat r.runtime),
    ("release", .bool r.release.isSome)]

def ofCallable (c : Callable) : Json :=
  let kind :=
    match c with
    | .native f => [Json.str "local", .str f.name]
    | .foreign _ => [Json.str "foreign"]
  .obj [("kind", .arr kind), ("params", ofTypes c.params), ("retvals", ofTypes c.retvals),
    ("shape", .str c.shape.name)]

mutual

def ofValue : Value → Json
  | .null => .null
  | .scalar s => ofScalar s
  | .string w s => .obj [(widthKey "s" w, .str s)]
  | .array items => .arr (ofItems items)
  | .object o => .obj [("obj", ofObject o)]
  | .foreign h => .obj [("foreign", ofHandle h.record)]
  | .callable c => .obj [("callable", ofCallable c)]

def ofItems : List Value → List Json
  | [] => []
  | v :: vs => ofValue v :: ofItems vs

def ofObject : Object → Json
  | .mk _ content => ofContent content

def ofContent : ObjectContent → Json
  | .number n => .arr [.str "u32", .ofNat n.toNat]
  | .text s => .arr [.str "string", .str s]
  | .flag b => .arr [.str "bool", .bool b]
  | .value v => .arr [.str "value", ofValue v]
  | .function f => .arr [.str "function", .str f.name]

end

def ofValues (vs : List Value) : Json := .ofList ofValue vs

/-! ## 4. Reading -/

/-- The callable of a name. -/
def readCallable (j : Json) : SceneM Callable := do
  orComplain "no such function" ((← get).functions.lookup (← readText j))

/-- A new object. -/
def readObject (j : Json) : SceneM Object := do
  let content ←
    match ← readItems j with
    | [.str "u32", v] => pure (ObjectContent.number (← readNat v).toUInt32)
    | [.str "string", v] => pure (.text (← readText v))
    | [.str "bool", v] => pure (.flag (← readBool v))
    | _ => complain "unknown object"
  onWorld fun w => w.newObject content

/-- A handle record, or the record of a new object of this runtime. -/
def readHandle (j : Json) : SceneM HandleRecord := do
  match j.member? "local" with
  | some o =>
    let o ← readObject o
    onWorld fun w => w.localHandle o
  | none =>
    let release ← boolMember j "release"
    return ⟨← natMember j "handle", ← natMember j "runtime", if release then some .owner else none⟩

/-- A new handle of another runtime. -/
def readForeign (j : Json) : SceneM ForeignHandle := do
  let record ← readHandle j
  onWorld fun w => w.newForeign record

def readChar (j : Json) : SceneM Char := do
  orComplain "no character" (CodePoint.char? (← readNat j))

/-- The value under its key. -/
def readKeyed (key : String) (j : Json) : SceneM Value := do
  if let some k := intKinds.lookup key then
    return .scalar (.int k (Fixed.wrap k (← readInt j)))
  if let some w := width? "c" key then return .scalar (.char w (← readChar j))
  if let some w := width? "s" key then return .string w (← readText j)
  match key with
  | "f32" => return .scalar (.float32 ⟨UInt32.ofNat (hexNumber (← readText j))⟩)
  | "f64" => return .scalar (.float64 ⟨UInt64.ofNat (hexNumber (← readText j))⟩)
  | "obj" => return .object (← readObject j)
  | "foreign" => return .foreign (← readForeign j)
  | "fn" => return .callable (← readCallable j)
  | _ => complain ("unknown value " ++ key)

mutual

/-- A value; it may be repeated, or nested in arrays of one element. -/
def readValue : Json → SceneM Value
  | .null => return .null
  | .bool b => return .scalar (.bool b)
  | .arr items => return .array (← readValueList items)
  | .obj [(key, .arr [a, b])] => do
    if key == "nest" then
      let inner ← readValue b
      return (List.range (← readNat a)).foldl (fun v _ => .array [v]) inner
    else if key == "rep" then
      let inner ← readValue b
      let n ← readNat a
      orHalt (reserve n valueOctets)
      return .array (List.replicate n inner)
    else readKeyed key (.arr [a, b])
  | .obj [(key, .arr [kind, text, n])] => do
    if key == "srep" then
      let w ← orComplain "unknown text" (width? "s" (← readText kind))
      let text ← readText text
      let n ← readNat n
      if text.isEmpty then return .string w ""
      orHalt (reserve n text.utf8ByteSize)
      return .string w (String.join (List.replicate n text))
    else readKeyed key (.arr [kind, text, n])
  | .obj [(key, j)] => readKeyed key j
  | _ => complain "unknown value"

def readValueList : List Json → SceneM (List Value)
  | [] => return []
  | j :: js => do
    let v ← readValue j
    return v :: (← readValueList js)

end

/-- The values under a key. -/
def readValues (j : Json) (key : String) : SceneM (List Value) := do
  readValueList (← memberOr [] readItems j key)

end RuntimeBridge.Scene
