/-
# Types and errors in scenes

The JSON forms of types, places, shapes and errors.
-/
import RuntimeBridge.Scene.Basic
namespace RuntimeBridge.Scene

/-! ## 1. Types -/

def readTag (j : Json) : SceneM TypeTag := return ⟨UInt64.ofNat (← readNat j)⟩

def readType (j : Json) : SceneM TypeInfo := do
  let tag ← readTag (← member j "t")
  let dimensions ← intMember j "d"
  let aliasName ← optional readText j "a"
  return { tag, aliasName, dimensions }

/-- The signature under a key. -/
def readTypes (j : Json) (key : String) : SceneM (List TypeInfo) := listMember readType j key

def ofTag (t : TypeTag) : Json := .ofNat t.bits.toNat

def ofType (t : TypeInfo) : Json :=
  .obj [("t", ofTag t.tag), ("d", .ofInt t.dimensions), ("a", .ofOption .str t.aliasName)]

def ofTypes (ts : List TypeInfo) : Json := .ofList ofType ts

/-! ## 2. Places and shapes -/

def readPath (j : Json) : SceneM IndexPath := readList readNat j

def ofPath (p : IndexPath) : Json := .ofList .ofNat p

/-- The short names of the types of objects. -/
def objectTypes : List (String × ObjectType) :=
  [("u32", .number), ("string", .text), ("bool", .flag), ("value", .value), ("function", .function)]

def objectType? (j : Json) : Option ObjectType :=
  j.text?.bind fun name => objectTypes.lookup name

def ofObjectType (t : Option ObjectType) : Json :=
  .ofOption (fun e => .str e.1) (t.bind fun t => objectTypes.find? fun e => e.2 == t)

def ofShape (s : ArrayShape) : Json :=
  .obj [("len", .ofNat s.length), ("dims", .ofInt s.dimensions), ("common", ofTag s.commonType),
    ("native", ofObjectType s.objectType)]

/-! ## 3. Errors -/

def marshalKind : MarshalError → String
  | .unresolvedAny _ => "UnresolvedAny"
  | .unknownType _ _ => "UnknownType"
  | .nullArray _ => "NullArray"
  | .nullCallable _ => "NullCallable"
  | .nestedArrayIn1D _ => "NestedArrayIn1D"
  | .typeMismatch _ _ _ => "TypeMismatch"
  | .outOfRange _ _ => "OutOfRange"
  | .interiorNul _ => "InteriorNul"
  | .invalidChar _ => "InvalidChar"
  | .invalidString _ _ => "InvalidString"
  | .signatureTooLong _ => "SignatureTooLong"
  | .bulkArrayUnsupported _ => "BulkArrayUnsupported"

def handleKind : HandleError → String
  | .notFound _ => "NotFound"
  | .alreadyReleased => "AlreadyReleased"
  | .noReleaser _ => "NoReleaser"

def errorKind : BridgeError → String
  | .homeNotSet => "HomeNotSet"
  | .pluginNotFound _ _ => "PluginNotFound"
  | .pluginLoad _ _ | .pluginUnmapped _ => "PluginLoad"
  | .pluginNotLoaded _ => "PluginNotLoaded"
  | .symbolMissing _ _ => "SymbolMissing"
  | .entityNotFound _ _ => "EntityNotFound"
  | .entityResolution _ _ _ _ => "EntityResolution"
  | .signatureMismatch _ _ _ => "SignatureMismatch"
  | .invalidEntityPath _ => "InvalidEntityPath"
  | .invocation _ => "Invocation"
  | .argCountMismatch _ _ => "ArgCountMismatch"
  | .threadAffinity _ => "ThreadAffinity"
  | .marshal e => "Marshal." ++ marshalKind e
  | .handle e => "Handle." ++ handleKind e
  | .allocation _ => "Allocation"
  | .config _ => "Config"

def readMarshalError (kind : String) (j : Json) : SceneM MarshalError := do
  let place := Place.label (← textMember j "path")
  let tag : TypeTag := ⟨UInt64.ofNat (← natMember j "tag")⟩
  match kind with
  | "UnresolvedAny" => return .unresolvedAny place
  | "UnknownType" => return .unknownType tag place
  | "NullArray" => return .nullArray place
  | "NullCallable" => return .nullCallable place
  | "NestedArrayIn1D" => return .nestedArrayIn1D place
  | "TypeMismatch" =>
    return .typeMismatch place (← textMember j "expected") (← textMember j "found")
  | "OutOfRange" => return .outOfRange place tag
  | "InteriorNul" => return .interiorNul place
  | "InvalidChar" => return .invalidChar place
  | "InvalidString" => return .invalidString place tag
  | "SignatureTooLong" => return .signatureTooLong (← natMember j "len")
  | "BulkArrayUnsupported" => return .bulkArrayUnsupported place
  | _ => complain ("unknown kind of violation " ++ kind)

def readHandleError (kind : String) (j : Json) : SceneM HandleError := do
  match kind with
  | "NotFound" => return .notFound (← natMember j "id")
  | "AlreadyReleased" => return .alreadyReleased
  | "NoReleaser" => return .noReleaser (← natMember j "runtime")
  | _ => complain ("unknown kind of handle error " ++ kind)

def readBridgeError (kind : String) (j : Json) : SceneM BridgeError := do
  let text := textMember j
  match kind with
  | "HomeNotSet" => return .homeNotSet
  | "PluginNotFound" => return .pluginNotFound (← text "name") (← text "path")
  | "PluginLoad" => return .pluginLoad (← text "name") (← text "reason")
  | "PluginNotLoaded" => return .pluginNotLoaded (← text "name")
  | "SymbolMissing" => return .symbolMissing (← text "plugin") (← text "symbol")
  | "EntityNotFound" => return .entityNotFound (← text "module") (← text "entity")
  | "EntityResolution" =>
    return .entityResolution (← text "plugin") (← text "module") (← text "entity") (← text "reason")
  | "SignatureMismatch" =>
    return .signatureMismatch (← text "entity") (← text "expected") (← text "found")
  | "InvalidEntityPath" => return .invalidEntityPath (← text "text")
  | "Invocation" => return .invocation (← text "text")
  | "ArgCountMismatch" =>
    return .argCountMismatch (← natMember j "expected") (← natMember j "got")
  | "ThreadAffinity" => return .threadAffinity (← text "entity")
  | "Allocation" => return .allocation (← text "text")
  | "Config" => return .config (← text "text")
  | _ => complain ("unknown kind of error " ++ kind)

/-- An error of the kind that it names. -/
def readError (j : Json) : SceneM BridgeError := do
  let kind ← readText (← member j "kind")
  match kind.splitOn "." with
  | ["Marshal", kind] => return .marshal (← readMarshalError kind j)
  | ["Handle", kind] => return .handle (← readHandleError kind j)
  | _ => readBridgeError kind j

/-- Words behind which a text about data from outside is cut: what follows depends on the data. -/
def cuts : List String :=
  ["invalid signature descriptor", "failed to parse config", "failed to read", "failed to write"]

/-- A text without what follows one of the cutting words. -/
def cutText (s : String) : String :=
  cuts.foldl
    (fun s word =>
      match s.splitOn word with
      | front :: _ :: _ => front ++ word
      | _ => s)
    s

def ofError (e : BridgeError) : Json :=
  .obj [("error", .str (errorKind e)), ("message", .str (cutText e.message))]

def ofHalt : Halt → Json
  | .error e => ofError e
  | .panic p =>
    .obj [("error", .str "panic"),
      ("message", .str (match p with | .text s => s | .wordless => "unknown payload"))]
  | .tooDeep => .obj [("error", .str "too deep")]

/-- The error of a computation, or its result written by `f`. -/
def ofResult {α : Type} (f : α → Json) : Except BridgeError α → Json
  | .ok x => f x
  | .error e => ofError e

def ofOutcome {α : Type} (f : α → Json) : Outcome α → Json
  | .ok x => f x
  | .error h => ofHalt h

end RuntimeBridge.Scene
