/-
# Sample plugins

Plugins for trying an engine: one that binds the entities of this process to their thread, and
libraries in a directory of their own.  All libraries behave alike, but each one fails in its own way:
some fail to start or to stop, some lack an export, one is no library at all.
-/
import RuntimeBridge.Sample.Routine
import RuntimeBridge.Host.Basic
namespace RuntimeBridge

/-! ## 1. A plugin that binds to threads -/

/-- The entities of this process, each bound to the thread that loads it. -/
def affinePlugin : Plugin Host where
  name := "affine"
  bindsThread := true
  start h := (.ok (), h)
  stop h := (.ok (), h)
  loadEntity := Host.loadEntity
  release := Host.release
  makeCallable _ _ _ h := refuseCallable "affine" h

namespace SampleLibrary

/-! ## 2. What the libraries export -/

/-- Report nothing, or a text. -/
def reportText (text : Option String) (h : Host) : ErrorSlot × Host := (text, h)

/-- A call point whose dispatcher is the routine of the libraries. -/
def newPoint (context : Nat) (params retvals : List TypeDescriptor) (h : Host) :
    Option CallPoint × ErrorSlot × Host :=
  let shape := CallShape.ofCounts params.length retvals.length
  let (point, h) := h.onWorld fun w => w.placePoint (.remote (SampleRoutine.library shape context))
  (some point, none, h)

def refuse (text : String) (h : Host) : Option CallPoint × ErrorSlot × Host := (none, some text, h)

/-- The alias of the first parameter. -/
def firstAlias (params : List TypeDescriptor) : String :=
  match params.head? with
  | some d => (Message.take d.aliasName).getD "no alias"
  | none => "no alias"

/-- Resolve an entity; some modules stand for a way to fail.  The context of the call point is the
number of octets of the entity path. -/
def loadEntity : Resolver (String × String) Host := fun (module, entity) params retvals h =>
  match module with
  | "error" => refuse "no such class" h
  | "null" => (none, none, h)
  | "alias" => refuse (firstAlias params) h
  | "dims" =>
    refuse (if (retvals.head?.map TypeDescriptor.dimensions) == some 2 then "two" else "other") h
  | _ => newPoint entity.utf8ByteSize params retvals h

/-- Wrap a context as a call point; two contexts stand for a way to fail. -/
def makeCallable : Resolver Nat Host := fun context params retvals h =>
  match context with
  | 0 => refuse "unexpected signature" h
  | 1 => (none, none, h)
  | _ => newPoint context params retvals h

/-- The context of a call point of the libraries. -/
def context? (p : CallPoint) : Option Nat :=
  match p.target with
  | .remote r => some r.context
  | .exported _ _ => none

/-- Release a call point; one context is refused. -/
def freeXcall (p : Option CallPoint) : Host → ErrorSlot × Host :=
  reportText (if p.bind context? == some 13 then some "unlucky xcall" else none)

/-- The library without a way to fail. -/
def good : Library Host where
  loadRuntime := some (reportText none)
  freeRuntime := some (reportText none)
  loadEntity := some loadEntity
  freeXcall := some freeXcall
  makeCallable := some makeCallable

/-! ## 3. Files -/

/-- The libraries by name. -/
def byName : List (String × Library Host) :=
  [("good", good), ("nomake", { good with makeCallable := none }),
    ("failload", { good with loadRuntime := some (reportText (some "cannot start")) }),
    ("failfree", { good with freeRuntime := some (reportText (some "cannot stop")) }),
    ("no_load_runtime", { good with loadRuntime := none }),
    ("no_free_runtime", { good with freeRuntime := none }),
    ("no_load_entity", { good with loadEntity := none }),
    ("no_free_xcall", { good with freeXcall := none })]

def fileName (name : String) : String := "xllr." ++ name ++ ".so"

/-- What a file of the directory is.  One of its files is no library, and one entry is a directory. -/
def entry (file : String) : PluginFile Host :=
  match byName.find? fun e => fileName e.1 == file with
  | some e => .library e.2
  | none => if file == fileName "broken" then .unmappable else .absent

/-- The parts of a path, without those that stay where they are and without a way into the inner
directory and back. -/
def steps : List String → List String
  | a :: b :: rest =>
    if a == fileName "folder" && b == ".." then steps rest else a :: steps (b :: rest)
  | parts => parts

/-- What lies at a path, when the libraries lie in `directory`. -/
def files (directory path : String) : PluginFile Host :=
  match steps ((path.splitOn "/").filter fun part => part != "" && part != ".") with
  | [d, file] => if d == directory then entry file else .absent
  | _ => .absent

end SampleLibrary

end RuntimeBridge
