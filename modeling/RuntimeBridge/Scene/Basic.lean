/-
# Scenes

A scene is a process with a program: functions known by their names, sample bodies for them, and the
state that they share.  Scenes and what happens in them are described in JSON.  A reader of such a
description may add things to the scene; it fails with a complaint when the description makes no
sense.  A panic that nothing in the scene catches ends the scene.
-/
import RuntimeBridge.Json.Basic
import RuntimeBridge.Sample.Program
namespace RuntimeBridge

structure Scene where
  world : World := {}
  /-- What the functions of this runtime do. -/
  table : SampleTable := []
  /-- Callables by name. -/
  functions : List (String × Callable) := []

/-- Why a scene ends before its description does. -/
inductive SceneEnd where
  /-- The description makes no sense. -/
  | complaint (text : String)
  /-- Something that happened in it stopped, and nothing caught that. -/
  | halted (h : Halt)

/-- A step of a scene. -/
abbrev SceneM := StateT Scene (Except SceneEnd)

namespace Scene

/-! ## 1. The process -/

def complain {α : Type} (text : String) : SceneM α := throw (.complaint text)

/-- What is there, or a complaint. -/
def orComplain {α : Type} (text : String) : Option α → SceneM α
  | some x => return x
  | none => complain text

/-- What a computation gives; where it stops, so does the scene. -/
def orHalt {α : Type} : Outcome α → SceneM α
  | .ok x => return x
  | .error h => throw (.halted h)

def getWorld : SceneM World := return (← get).world

def setWorld (w : World) : SceneM Unit := modify fun s => { s with world := w }

/-- Change the process and answer something. -/
def onWorld {α : Type} (f : World → α × World) : SceneM α := do
  let (x, w) := f (← getWorld)
  setWorld w
  return x

/-- Change the process in a way that may stop the scene. -/
def changeWorld (f : World → Outcome Unit × World) : SceneM Unit := do
  orHalt (← onWorld f)

/-- The program of the scene. -/
def program : SceneM Program := return (← get).table.program

/-- The way to call functions of the scene. -/
def caller : SceneM FunctionCaller := return callFunction (← program) sampleDepth

/-! ## 2. Data -/

def readInt (j : Json) : SceneM Int := orComplain "integer expected" j.integer?

def readNat (j : Json) : SceneM Nat := return (← readInt j).toNat

def readText (j : Json) : SceneM String := orComplain "text expected" j.text?

def readBool (j : Json) : SceneM Bool := orComplain "truth value expected" j.bool?

def readItems (j : Json) : SceneM (List Json) := orComplain "array expected" j.items?

/-- The items of an array, each read by `read`. -/
def readList {α : Type} (read : Json → SceneM α) (j : Json) : SceneM (List α) := do
  (← readItems j).mapM read

/-! ## 3. Members -/

/-- A member that must be there. -/
def member (j : Json) (key : String) : SceneM Json :=
  orComplain ("no member " ++ key) (j.member? key)

/-- A member read by `read`, or a default if it is missing. -/
def memberOr {α : Type} (default : α) (read : Json → SceneM α) (j : Json) (key : String) :
    SceneM α :=
  match j.member? key with
  | some v => read v
  | none => return default

/-- A member read by `read`, if there is one. -/
def optional {α : Type} (read : Json → SceneM α) (j : Json) (key : String) : SceneM (Option α) :=
  memberOr none (fun v => return some (← read v)) j key

def intMember (j : Json) (key : String) : SceneM Int := memberOr 0 readInt j key

def natMember (j : Json) (key : String) : SceneM Nat := memberOr 0 readNat j key

def textMember (j : Json) (key : String) : SceneM String := memberOr "" readText j key

def boolMember (j : Json) (key : String) : SceneM Bool := memberOr false readBool j key

/-- The items under a key, each read by `read`. -/
def listMember {α : Type} (read : Json → SceneM α) (j : Json) (key : String) : SceneM (List α) :=
  memberOr [] (readList read) j key

/-- The members of the object under a key. -/
def pairsMember (j : Json) (key : String) : SceneM (List (String × Json)) :=
  memberOr [] (fun v => orComplain "object expected" v.members?) j key

end Scene

end RuntimeBridge
