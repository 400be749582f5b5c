/-
# Arguments and reports of C functions

A function with the C calling convention takes texts as octets that end with a zero, and signatures as
descriptors with a count.  It reports through an error slot of the caller, if it is given one: the slot
is emptied first, and receives the message of the error if there is one.
-/
import RuntimeBridge.Call.Dispatch
import RuntimeBridge.Type.Descriptor
namespace RuntimeBridge.Abi

/-! ## 1. Arguments -/

/-- A text argument: no octets behind the null pointer, and the text ends at the first zero. -/
abbrev TextArgument := Option (List UInt8)

/-- The text of an argument, which errors call `what`. -/
def readText (what : String) : TextArgument → Except BridgeError String
  | none => .error (.invocation (what ++ " is null"))
  | some octets =>
    match Utf8.decode? (octets.takeWhile (· != 0)) with
    | some s => .ok s
    | none => .error (.invocation (what ++ " is not valid UTF-8"))

/-- Descriptors, unless there is a null pointer, and their signed 8-bit count. -/
structure SignatureArgument where
  descriptors : Option (List TypeDescriptor) := none
  count : Int := 0

namespace SignatureArgument

/-- The declared types. -/
def types (s : SignatureArgument) : List TypeInfo :=
  TypeDescriptor.unpack s.descriptors s.count

/-- The argument for a signature, unless it is too long. -/
def ofTypes (types : List TypeInfo) : Except MarshalError SignatureArgument :=
  match TypeDescriptor.pack types with
  | .ok ds => .ok ⟨if ds.isEmpty then none else some ds, ds.length⟩
  | .error e => .error e

end SignatureArgument

/-! ## 2. Reports -/

/-- A caller's error slot, unless there is a null pointer. -/
abbrev SlotArgument := Option ErrorSlot

/-- Put a message, or its absence, into a slot. -/
def SlotArgument.put (slot : SlotArgument) (message : ErrorSlot) : SlotArgument :=
  slot.map fun _ => message

/-- The result of an operation, if it succeeded, and the error slot. -/
structure Report (α : Type) where
  result : Option α
  slot : SlotArgument

/-- Report an outcome through a slot. -/
def report {α : Type} (outcome : Except BridgeError α) (slot : SlotArgument) : Report α :=
  match outcome with
  | .ok x => ⟨some x, slot.put none⟩
  | .error e => ⟨none, slot.put (slotMessage e.message)⟩

/-- Report how a call went; using up the bound on the depth is no outcome. -/
def reportCall (outcome : Outcome Unit) (slot : SlotArgument) : Outcome SlotArgument :=
  match outcome with
  | .ok () => .ok (slot.put none)
  | .error halt =>
    match halt.message? with
    | some text => .ok (slot.put (slotMessage text))
    | none => .error halt

end RuntimeBridge.Abi
