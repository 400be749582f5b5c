/-
# Errors

Three layers of errors, each a list of causes with one text per cause: violations found while
values move to or from the wire, failures of the objects table and of foreign handles, and errors
of the engine, which carry the first two unchanged.

A computation may also stop without an error of its own: the body of a function may panic, and a
computation that is given a bound on its depth may use it up.  `Halt` joins these ways to stop.
-/
import RuntimeBridge.Error.Place
import RuntimeBridge.Type.Info
namespace RuntimeBridge

/-! ## 1. Violations on the wire -/

inductive MarshalError where
  /-- The type was still `any` after inspection. -/
  | unresolvedAny (place : Place)
  /-- The tag is none of the known ones. -/
  | unknownType (tag : TypeTag) (place : Place)
  /-- An array cell holds no array. -/
  | nullArray (place : Place)
  /-- A callable cell holds no record, or a record without a call point. -/
  | nullCallable (place : Place)
  /-- An element of an array announced as one-dimensional is an array. -/
  | nestedArrayIn1D (place : Place)
  /-- A native value has no form of the requested type. -/
  | typeMismatch (place : Place) (expected found : String)
  /-- A number does not fit the requested width. -/
  | outOfRange (place : Place) (target : TypeTag)
  /-- A text holds NUL, which would end it on the wire. -/
  | interiorNul (place : Place)
  | invalidChar (place : Place)
  | invalidString (place : Place) (tag : TypeTag)
  /-- A signature has more entries than its count on the wire can say. -/
  | signatureTooLong (length : Nat)
  /-- An array is to be filled at once by a source that cannot do so. -/
  | bulkArrayUnsupported (place : Place)
  deriving DecidableEq, Repr

namespace MarshalError

/-- The text of a violation. -/
def message : MarshalError → String
  | unresolvedAny place =>
    "type of value at " ++ place.toText ++ " is still 'any' after inspection"
  | unknownType tag place => "unknown type tag " ++ tag.bits.toNat.repr ++ " at " ++ place.toText
  | nullArray place => "Array value is null at " ++ place.toText
  | nullCallable place => "Callable value is null at " ++ place.toText
  | nestedArrayIn1D place => "1D array cannot contain another array (at " ++ place.toText ++ ")"
  | typeMismatch place expected found =>
    "cannot marshal " ++ found ++ " as " ++ expected ++ " at " ++ place.toText
  | outOfRange place target =>
    "value at " ++ place.toText ++ " does not fit in " ++ target.toText
  | interiorNul place => "string at " ++ place.toText ++ " contains an interior NUL"
  | invalidChar place => "invalid character encoding at " ++ place.toText
  | invalidString place tag => "invalid " ++ tag.toText ++ " encoding at " ++ place.toText
  | signatureTooLong length =>
    "signature has " ++ length.repr ++ " entries, at most " ++ signatureLimit.repr ++
      " are supported"
  | bulkArrayUnsupported place =>
    "array at " ++ place.toText ++ " is marked for bulk filling but the source cannot fill it"

/-- The place that a violation names. -/
def place? : MarshalError → Option Place
  | unresolvedAny p | unknownType _ p | nullArray p | nullCallable p | nestedArrayIn1D p
  | typeMismatch p _ _ | outOfRange p _ | interiorNul p | invalidChar p | invalidString p _
  | bulkArrayUnsupported p => some p
  | signatureTooLong _ => none

end MarshalError

/-! ## 2. Handles -/

inductive HandleError where
  /-- No object is registered under this id. -/
  | notFound (id : Nat)
  | alreadyReleased
  /-- The handle came without a release callback. -/
  | noReleaser (runtime : Nat)
  deriving DecidableEq, Repr

def HandleError.message : HandleError → String
  | notFound id => "Handle " ++ id.repr ++ " not found in objects table"
  | alreadyReleased => "Foreign handle already released"
  | noReleaser runtime => "Foreign handle of runtime " ++ runtime.repr ++ " has no release function"

/-! ## 3. Errors of the engine -/

inductive BridgeError where
  | homeNotSet
  | pluginNotFound (name path : String)
  | pluginLoad (name reason : String)
  /-- The system cannot map the plugin's file; why not, the system alone knows. -/
  | pluginUnmapped (name : String)
  | pluginNotLoaded (name : String)
  | symbolMissing (plugin symbol : String)
  | entityNotFound (module entity : String)
  | entityResolution (plugin module entity reason : String)
  | signatureMismatch (entity expected found : String)
  | invalidEntityPath (reason : String)
  /-- The text that came through an error slot, or a failure of the call itself. -/
  | invocation (text : String)
  | argCountMismatch (expected got : Nat)
  | threadAffinity (entity : String)
  | marshal (e : MarshalError)
  | handle (e : HandleError)
  | allocation (text : String)
  | config (text : String)
  deriving DecidableEq, Repr

namespace BridgeError

/-- The text of an error. -/
def message : BridgeError → String
  | homeNotSet => "XLLR_HOME is not set"
  | pluginNotFound name path => "Runtime plugin '" ++ name ++ "' not found at " ++ path
  | pluginLoad name reason => "Failed to load runtime plugin '" ++ name ++ "': " ++ reason
  | pluginUnmapped name => "Failed to load runtime plugin '" ++ name ++ "'"
  | pluginNotLoaded name => "Runtime plugin '" ++ name ++ "' is not loaded"
  | symbolMissing plugin symbol =>
    "Runtime plugin '" ++ plugin ++ "' does not export '" ++ symbol ++ "'"
  | entityNotFound module entity =>
    "Entity '" ++ entity ++ "' not found in module '" ++ module ++ "'"
  | entityResolution plugin module entity reason =>
    "Runtime plugin '" ++ plugin ++ "' failed to resolve '" ++ entity ++ "' in module '" ++
      module ++ "': " ++ reason
  | signatureMismatch entity expected found =>
    "Signature mismatch for '" ++ entity ++ "': expected " ++ expected ++ ", requested " ++ found
  | invalidEntityPath reason => "Invalid entity path: " ++ reason
  | invocation text => text
  | argCountMismatch expected got =>
    "Argument count mismatch: expected " ++ expected.repr ++ ", got " ++ got.repr
  | threadAffinity entity =>
    "Entity '" ++ entity ++ "' must be invoked on the thread that loaded it"
  | marshal e => e.message
  | handle e => e.message
  | allocation text => "Allocation failed: " ++ text
  | config text => "Configuration error: " ++ text

/-- The text of the error that this one carries. -/
def sourceMessage? : BridgeError → Option String
  | marshal e => some e.message
  | handle e => some e.message
  | _ => none

end BridgeError

/-- The tag that a text names, or the error that names the text. -/
def TypeTag.parse (s : String) : Except BridgeError TypeTag :=
  match TypeTag.ofText? s with
  | some tag => .ok tag
  | none => .error (.config ("unknown type name '" ++ TypeTag.normalizeName s ++ "'"))

/-! ## 4. Ways to stop -/

/-- What a panic carries: a text, or something that is none. -/
inductive Panic where
  | text (s : String)
  | wordless
  deriving DecidableEq, Repr

inductive Halt where
  | error (e : BridgeError)
  | panic (p : Panic)
  /-- The bound on the depth of the computation was used up. -/
  | tooDeep
  deriving DecidableEq, Repr

/-- The result of a computation that may stop early. -/
abbrev Outcome (α : Type) := Except Halt α

/-- A violation as an early stop. -/
def Halt.marshal (e : MarshalError) : Halt := .error (.marshal e)

/-! ## 5. Memory -/

/-- The most octets that one block of memory can have. -/
def memoryLimit : Nat := 0x7FFFFFFFFFFFFFFF

/-- Make room for `count` things of so many octets each.  What no block of memory can hold is a panic,
whether or not there is memory for less. -/
def reserve (count octets : Nat) : Outcome Unit :=
  if count * octets ≤ memoryLimit then .ok () else .error (.panic (.text "capacity overflow"))

/-! ## 6. Signature lengths -/

/-- The length of a signature as the count on the wire. -/
def signatureCount? (length : Nat) : Except MarshalError Nat :=
  if length ≤ signatureLimit then .ok length else .error (.signatureTooLong length)

end RuntimeBridge
