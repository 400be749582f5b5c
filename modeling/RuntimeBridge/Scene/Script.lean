/-
# Scripted sources and logging sinks

A script gives the answers of a source, path by path, and each question is noted in a log.  A logging
sink notes what it is handed; it may stop behind one event and decline some arrays.
-/
import RuntimeBridge.Scene.Cells
import RuntimeBridge.Wire.FromValues
import RuntimeBridge.Wire.Traverse
namespace RuntimeBridge.Scene

/-! ## 1. Scripts -/

/-- How an array is filled.  Its cells are made when it is filled: handles and call points in them are
then registered. -/
structure FillPlan where
  cells : World → Except SceneEnd (List Cell × World)
  dimensions : Option Int

/-- The answers at one path; an answer that is missing is refused. -/
structure ScriptNode where
  type : Option (Except BridgeError TypeInfo) := none
  layout : Option (Except BridgeError ArrayMetadata) := none
  scalar : Option (Except BridgeError Scalar) := none
  text : Option (Except BridgeError String) := none
  handle : Option (Except BridgeError HandleOffer) := none
  callable : Option (Except BridgeError Callable) := none
  fill : Option (Except BridgeError FillPlan) := none

abbrev Script := List (IndexPath × ScriptNode)

/-- The error that stands for an answer that makes no sense. -/
def badAnswer (text : String) : BridgeError := .invocation ("bad input: " ++ text)

/-- The answer under a key: an error to raise, or what `read` reads.  An answer that makes no sense is
refused. -/
def readAnswer {α : Type} (read : Json → SceneM α) (j : Json) (key : String) :
    SceneM (Option (Except BridgeError α)) :=
  optional
    (fun a => do
      match a.member? "raise" with
      | some e => return .error (← readError e)
      | none =>
        try return .ok (← read a)
        catch
        | .complaint text => return .error (badAnswer text)
        | .halted h => throw (.halted h))
    j key

def readLayout (j : Json) : SceneM ArrayMetadata := do
  return { length := ← natMember j "len"
           is1D := ← boolMember j "is_1d"
           commonType := ⟨UInt64.ofNat (← natMember j "common")⟩
           manual := ← boolMember j "manual" }

def readScalar (j : Json) : SceneM Scalar := do
  orComplain "scalar expected" (← readValue j).scalar?

/-- What is offered as a handle.  An object of this runtime is registered when its turn comes. -/
def readOffer (j : Json) : SceneM HandleOffer := do
  let localOr (r : Json) (read : SceneM HandleOffer) : SceneM HandleOffer :=
    match r.member? "local" with
    | some o => return .object (← readObject o)
    | none => read
  match j.member? "record", j.member? "foreign" with
  | some r, _ => localOr r (return .record (← readHandle r))
  | none, some r => localOr r (return .foreign (← readForeign r))
  | none, none => return .object (← readObject (← member j "local"))

def readFill (j : Json) : SceneM FillPlan := do
  let scene ← get
  let cells (w : World) : Except SceneEnd (List Cell × World) := do
    let (cells, scene) ← (readCells j "cells").run { scene with world := w }
    return (cells, scene.world)
  return { cells, dimensions := ← optional readInt j "dims" }

def readNode (j : Json) : SceneM ScriptNode := do
  return { type := ← readAnswer readType j "type"
           layout := ← readAnswer readLayout j "meta"
           scalar := ← readAnswer readScalar j "scalar"
           text := ← readAnswer readText j "string"
           handle := ← readAnswer readOffer j "handle"
           callable := ← readAnswer readCallable j "fn"
           fill := ← readAnswer readFill j "fill" }

/-- The path of a key: indices with points between them. -/
def readPathKey (key : String) : SceneM IndexPath :=
  if key == "" then return []
  else (key.splitOn ".").mapM fun i => readNat (.num i)

/-- The script under a key. -/
def readScript (j : Json) (key : String) : SceneM Script := do
  (← pairsMember j key).mapM fun (path, node) => do
    return (← readPathKey path, ← readNode node)

/-- A depth that no construction from the script uses up: behind its longest path nothing is
answered any more. -/
def Script.depth (script : Script) : Nat :=
  script.foldl (fun d e => max d e.1.length) 0 + 2

/-! ## 2. Scripted sources -/

/-- Note a question in the log and answer it from the script. -/
def consult {α : Type} (script : Script) (path : IndexPath) (key question : String)
    (answer : ScriptNode → Option (Except BridgeError α)) (log : List String) :
    Except BridgeError α × List String :=
  let found := ((script.lookup path).bind answer).getD
    (.error (.invocation ("no " ++ key ++ " at " ++ path.toText)))
  (found, log ++ [question ++ " " ++ path.toText])

/-- Fill an array by a plan, from its first cell on. -/
def FillPlan.carryOut (plan : FillPlan) (a : CellArray) (w : World) (log : List String) :
    Filling (List String) :=
  match plan.cells w with
  | .error (.complaint text) => ⟨.error (.error (badAnswer text)), a, w, log⟩
  | .error (.halted h) => ⟨.error h, a, w, log⟩
  | .ok (cells, w) =>
    let (outcome, a) := a.writeFrom 0 cells
    ⟨outcome, { a with dimensions := plan.dimensions.getD a.dimensions }, w, log⟩

/-- The source of a script; it can fill arrays at once if `bulk` is set. -/
def Script.source (script : Script) (bulk : Bool) : Source (List String) where
  typeInfo path := consult script path "type" "type_info" ScriptNode.type
  arrayMetadata path declared :=
    consult script path "meta" ("array_metadata " ++ declared.toText) ScriptNode.layout
  scalar path tag := consult script path "scalar" ("scalar " ++ tag.toText) ScriptNode.scalar
  text path tag := consult script path "string" ("string " ++ tag.toText) ScriptNode.text
  handle path := consult script path "handle" "handle" ScriptNode.handle
  callable path := consult script path "fn" "callable" ScriptNode.callable
  fill path a w log :=
    if bulk then
      match consult script path "fill" "construct_array" ScriptNode.fill log with
      | (.ok plan, log) => plan.carryOut a w log
      | (.error e, log) => ⟨.error (.error e), a, w, log⟩
    else refuseFill path a w log

/-! ## 3. Logging sinks -/

/-- What a logging sink does besides noting. -/
structure LogPlan where
  /-- The event behind which it stops. -/
  stopAt : Option IndexPath := none
  /-- Arrays that it declines. -/
  skipped : List IndexPath := []
  expected : List (IndexPath × ObjectType) := []

def readLogPlan (j : Json) : SceneM LogPlan := do
  let stopAt ← optional readPath j "fail_at"
  let skipped ← listMember readPath j "skip"
  let expected ← listMember
    (fun e => do
      match ← readItems e with
      | [path, type] => return (← readPath path, objectType? type)
      | _ => complain "path and type expected")
    j "expect"
  let known := expected.filterMap fun e => e.2.map fun t => (e.1, t)
  return { stopAt, skipped, expected := known }

namespace LogPlan

/-- Note an event, and stop there if the plan says so. -/
def note (plan : LogPlan) (kind : String) (path : IndexPath) (data : Json) (log : List Json) :
    Except BridgeError Unit × List Json :=
  (if plan.stopAt == some path then .error (.invocation ("sink stopped at " ++ path.toText))
    else .ok (),
    log ++ [.arr [.str kind, ofPath path, data]])

def ofDecodedHandle : DecodedHandle → Json
  | .object o => .obj [("local", ofObject o)]
  | .foreign r => .obj [("foreign", ofHandle r)]

/-- The sink of a plan. -/
def sink (plan : LogPlan) (w : World) : Sink (List Json) where
  onNull path := plan.note "null" path .null
  onScalar path s := plan.note "scalar" path (.arr [ofTag s.tag, ofScalar s])
  onText path width s :=
    plan.note "string" path (.arr [ofTag (.ofKind (.string width)), .str s])
  onHandle path h := plan.note "handle" path (ofDecodedHandle h)
  onCallable path c := plan.note "callable" path (ofCallable c)
  onArray path shape items log :=
    let skip := plan.skipped.contains path
    let data := [ofShape shape, if skip then ofCellList w items else .null]
    let (r, log) := plan.note "array" path (.arr data) log
    (r.map fun _ => !skip, log)
  expectedType path _ := plan.expected.lookup path

end LogPlan

end RuntimeBridge.Scene
