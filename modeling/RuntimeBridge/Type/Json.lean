/-
# Signatures as JSON

A signature is written as a list of types.  A type is an object with the members `type`, `alias` and
`dimensions`, or a list of the three in this order; only the first is required.  The tag is a number
or a name.  Members under other keys are ignored, whatever they hold, and no member may occur twice.
-/
import RuntimeBridge.Json.Reader
import RuntimeBridge.Error.Basic
namespace RuntimeBridge

/-! ## 1. Tags -/

/-- The tag that a number or a name stands for. -/
def TypeTag.ofJson? (j : Json) : Option TypeTag :=
  match j with
  | .str name => TypeTag.ofText? name
  | .num _ =>
    j.integer?.bind fun n =>
      (Fixed.ofInt? .uint64 n).map fun n => ⟨UInt64.ofNat n.val.toNat⟩
  | _ => none

/-- The name of a tag. -/
def TypeTag.toJson (t : TypeTag) : Json := .str t.toText

namespace TypeInfo

/-! ## 2. Types -/

/-- An alias, or null. -/
def aliasOfJson? : Json → Option (Option String)
  | .null => some none
  | .str s => some (some s)
  | _ => none

/-- A number of dimensions. -/
def dimensionsOfJson? (j : Json) : Option Int :=
  j.integer?.bind fun n => (Fixed.ofInt? .int64 n).map Fixed.val

/-- What is read if there is something; `default` is what is left out. -/
def orDefault {α : Type} (default : α) (read : Json → Option α) : Option Json → Option α
  | none => some default
  | some j => read j

/-- The type of its three parts, of which the last two may be missing. -/
def ofParts? (tag : Json) (aliasName dimensions : Option Json) : Option TypeInfo := do
  let tag ← TypeTag.ofJson? tag
  let aliasName ← orDefault none aliasOfJson? aliasName
  let dimensions ← orDefault 0 dimensionsOfJson? dimensions
  return { tag, aliasName, dimensions }

/-- The members under a key. -/
def membersUnder (key : String) (members : List (String × Json)) : List Json :=
  (members.filter fun m => m.1 == key).map Prod.snd

/-- The member under a key, if there is one, and nothing if there are more. -/
def atMostOne? : List Json → Option (Option Json)
  | [] => some none
  | [j] => some (some j)
  | _ => none

/-- The type that JSON data describe. -/
def ofJson? : Json → Option TypeInfo
  | .obj members => do
    let tag ← (← atMostOne? (membersUnder "type" members))
    let aliasName ← atMostOne? (membersUnder "alias" members)
    let dimensions ← atMostOne? (membersUnder "dimensions" members)
    ofParts? tag aliasName dimensions
  | .arr [tag] => ofParts? tag none none
  | .arr [tag, name] => ofParts? tag (some name) none
  | .arr [tag, name, dimensions] => ofParts? tag (some name) (some dimensions)
  | _ => none

/-- The description of a type; the alias is left out if there is none. -/
def toJson (t : TypeInfo) : Json :=
  let aliasMember :=
    match t.aliasName with
    | some a => [("alias", Json.str a)]
    | none => []
  .obj ([("type", t.tag.toJson)] ++ aliasMember ++ [("dimensions", Json.ofInt t.dimensions)])

end TypeInfo

/-! ## 3. Signatures -/

/-- The signature that JSON data describe. -/
def signatureOfJson? (j : Json) : Option (List TypeInfo) :=
  j.items?.bind fun items => items.mapM TypeInfo.ofJson?

/-- The description of a signature. -/
def signatureToJson (types : List TypeInfo) : Json :=
  Json.ofList TypeInfo.toJson types

/-- The signature that a JSON text describes. -/
def parseSignature (text : String) : Except BridgeError (List TypeInfo) :=
  match (Json.parse? text).bind signatureOfJson? with
  | some types => .ok types
  | none => .error (.config "invalid signature descriptor")

end RuntimeBridge
