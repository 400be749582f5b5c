/-
# The counts of live entities

Every instance of a plugin counts what was resolved through it and not yet released.  An entity is
taken off the instance that resolved it.  A call point that a client releases by name is taken off the
instance that runs under the name at that time, and so is an absent call point, which nobody resolved.

This file settles when the counts are exact.  A client does what it likes, in any order, but it releases
a call point only while it holds it, and under the name it was resolved under.  Then one step keeps the
counts exact unless it is one of three (`EngineClient.Miscounts`), and it never does if it is.

Main statement: `liveCounts_exact_iff`, over whole runs.
-/
import RuntimeBridge.Engine.Entity
import RuntimeBridge.Host.Basic
import Mathlib.Algebra.Group.Nat.Defs
namespace RuntimeBridge

variable {σ : Type}

/-! ## 1. Clients -/

/-- A call point that a client releases by name, with the instance that resolved it. -/
structure RawPoint where
  origin : Nat
  plugin : String
  point : CallPoint
  deriving DecidableEq, Repr

/-- An engine and the process it acts on, the entities that a client ever resolved, and the call points
that it still has to release. -/
structure EngineClient (σ : Type) where
  engine : Engine σ
  state : σ
  entities : List EntityHandle := []
  points : List RawPoint := []

/-- What a client does next; entities and call points are named by their places. -/
inductive EngineOp where
  | loadPlugin (name : String)
  | freePlugin (name : String)
  | loadEntity (thread : Nat) (plugin module path : String) (params retvals : List TypeInfo)
  | releaseEntity (i : Nat)
  | loadPoint (plugin module path : String) (params retvals : List TypeInfo)
  | makeCallable (plugin : String) (context : Nat) (params retvals : List TypeInfo)
  | releasePoint (i : Nat)
  | releaseAbsent (plugin : String)

namespace EngineClient

/-- The client after an operation of the engine. -/
def after {α : Type} (c : EngineClient σ) (r : Stepped σ α) : EngineClient σ :=
  { c with engine := r.engine, state := r.state }

/-- Keep a call point that the instance under a name has just resolved. -/
def hold (c : EngineClient σ) (plugin : String) : Option CallPoint → EngineClient σ
  | none => c
  | some point =>
    match c.engine.running.lookup plugin with
    | none => c
    | some origin => { c with points := c.points ++ [{ origin, plugin, point }] }

/-- Release the entity at a place; it is remembered as released, whatever the plugin answers. -/
def releaseEntity (c : EngineClient σ) (i : Nat) : EngineClient σ :=
  match c.entities[i]? with
  | none => c
  | some h =>
    { c.after (h.release c.engine c.state) with entities := c.entities.set i { h with held := false } }

/-- Release the call point at a place; it is held until a release succeeds. -/
def releasePoint (c : EngineClient σ) (i : Nat) : EngineClient σ :=
  match c.points[i]? with
  | none => c
  | some p =>
    let r := c.engine.releaseCallPoint p.plugin (some p.point) c.state
    match r.outcome with
    | .ok () => { c.after r with points := c.points.eraseIdx i }
    | .error _ => c.after r

/-- One step of a client. -/
def step (c : EngineClient σ) : EngineOp → EngineClient σ
  | .loadPlugin name => c.after (c.engine.loadPlugin name c.state)
  | .freePlugin name => c.after (c.engine.freePlugin name c.state)
  | .loadEntity thread plugin module path params retvals =>
    let r := EntityHandle.load c.engine thread plugin module path params retvals c.state
    match r.outcome with
    | .ok h => { c.after r with entities := c.entities ++ [h] }
    | .error _ => c.after r
  | .releaseEntity i => c.releaseEntity i
  | .loadPoint plugin module path params retvals =>
    let r := c.engine.loadCallPoint plugin module path params retvals c.state
    (c.after r).hold plugin r.outcome.toOption
  | .makeCallable plugin context params retvals =>
    let r := c.engine.makeCallable plugin context params retvals c.state
    (c.after r).hold plugin r.outcome.toOption.join
  | .releasePoint i => c.releasePoint i
  | .releaseAbsent plugin => c.after (c.engine.releaseCallPoint plugin none c.state)

def run (c : EngineClient σ) (ops : List EngineOp) : EngineClient σ :=
  ops.foldl step c

/-- How much was resolved through an instance and not yet released. -/
def unreleased (c : EngineClient σ) (k : Nat) : Nat :=
  (c.entities.countP fun h => h.held && h.origin == k) + c.points.countP fun p => p.origin == k

/-- Every instance counts what was resolved through it and not yet released. -/
def Exact (c : EngineClient σ) : Prop :=
  ∀ k i, c.engine.instances[k]? = some i → i.live.toNat = c.unreleased k

/-- The steps that leave a count behind: a function is wrapped as no call point, which counts; a call
point is released through another instance than resolved it; and an absent call point is released while
something is counted. -/
def Miscounts (c : EngineClient σ) : EngineOp → Prop
  | .makeCallable plugin context params retvals =>
    (c.engine.makeCallable plugin context params retvals c.state).outcome = .ok none
  | .releasePoint i =>
    ∃ p, c.points[i]? = some p ∧ c.engine.running.lookup p.plugin ≠ some p.origin ∧
      (c.engine.releaseCallPoint p.plugin (some p.point) c.state).outcome = .ok ()
  | .releaseAbsent plugin =>
    c.engine.live? plugin ≠ some 0 ∧
      (c.engine.releaseCallPoint plugin none c.state).outcome = .ok ()
  | _ => False

/-- Nothing was started, and nothing resolved. -/
structure Fresh (c : EngineClient σ) : Prop where
  instances : c.engine.instances = []
  running : c.engine.running = []
  entities : c.entities = []
  points : c.points = []

/-- What a client keeps refers to instances that were started. -/
structure Tidy (c : EngineClient σ) : Prop where
  running : ∀ r ∈ c.engine.running, r.2 < c.engine.instances.length
  entities : ∀ h ∈ c.entities, h.origin < c.engine.instances.length
  points : ∀ p ∈ c.points, p.origin < c.engine.instances.length

end EngineClient

/-! ## 2. What the operations of the engine count -/

namespace Engine

/-- What an instance counts; instances that were not started count nothing. -/
def count (e : Engine σ) (k : Nat) : Nat :=
  (e.instances[k]?.map fun i => i.live.toNat).getD 0

theorem count_of_getElem? {e : Engine σ} {k : Nat} {i : PluginInstance σ}
    (h : e.instances[k]? = some i) : e.count k = i.live.toNat := by
  simp [count, h]

theorem count_of_length_le {e : Engine σ} {k : Nat} (h : e.instances.length ≤ k) :
    e.count k = 0 := by
  simp [count, h]

/-- An instance that has just started counts nothing. -/
theorem count_addInstance (e : Engine σ) (name : String) (p : Plugin σ) (k : Nat) :
    (e.addInstance name p).count k = e.count k := by
  rcases Nat.lt_trichotomy k e.instances.length with h | h | h
  · simp [count, addInstance, List.getElem?_append_left h]
  · simp [count, addInstance, h]
  · have after_last : (e.addInstance name p).instances.length ≤ k := by
      simpa [addInstance] using Nat.succ_le_of_lt h
    rw [count_of_length_le after_last, count_of_length_le (Nat.le_of_lt h)]

theorem count_adjustLive (e : Engine σ) (f : UInt64 → UInt64) (k j : Nat)
    (hk : k < e.instances.length) :
    (e.adjustLive k f).count j =
      if j = k then (f (e.instances[k]).live).toNat else e.count j := by
  by_cases h : j = k
  · subst h
    simp [count, adjustLive, hk]
  · have other : (e.instances.modify k fun i => { i with live := f i.live })[j]? =
        e.instances[j]? := List.getElem?_modify_ne _ _ (Ne.symm h)
    simp [count, adjustLive, other, h]

@[simp]
theorem length_adjustLive (e : Engine σ) (k : Nat) (f : UInt64 → UInt64) :
    (e.adjustLive k f).instances.length = e.instances.length := by
  simp [adjustLive]

@[simp]
theorem running_adjustLive (e : Engine σ) (k : Nat) (f : UInt64 → UInt64) :
    (e.adjustLive k f).running = e.running := rfl

theorem lookup_insertName (name : String) (k : Nat) (other : String)
    (running : List (String × Nat)) (fresh : running.lookup name = none) :
    (insertName name k running).lookup other =
      if other = name then some k else running.lookup other := by
  induction running with
  | nil =>
    by_cases h : other = name
    · simp [insertName, h]
    · have : (other == name) = false := by simpa using h
      simp [insertName, List.lookup_cons, this, h]
  | cons r rest ih =>
    obtain ⟨n, j⟩ := r
    have hn : ¬ name = n := by
      rintro rfl
      simp at fresh
    have rest_fresh : rest.lookup name = none := by
      have : (name == n) = false := by simpa using hn
      simpa [List.lookup_cons, this] using fresh
    rw [insertName]
    split
    · by_cases h : other = name
      · simp [h]
      · have : (other == name) = false := by simpa using h
        simp [List.lookup_cons, this, h]
    · by_cases h : other = n
      · simp [h, Ne.symm hn]
      · have : (other == n) = false := by simpa using h
        simp [List.lookup_cons, this, ih rest_fresh]

theorem mem_insertName {name : String} {k : Nat} {r : String × Nat} {running : List (String × Nat)}
    (h : r ∈ insertName name k running) : r = (name, k) ∨ r ∈ running := by
  induction running with
  | nil => exact .inl (List.mem_singleton.mp h)
  | cons first rest ih =>
    rw [insertName] at h
    split at h
    · exact List.mem_cons.mp h
    · rcases List.mem_cons.mp h with rfl | h
      · exact .inr List.mem_cons_self
      · exact (ih h).imp id (List.mem_cons_of_mem _)

theorem mem_of_lookup {name : String} {k : Nat} {running : List (String × Nat)}
    (h : running.lookup name = some k) : (name, k) ∈ running := by
  obtain ⟨before, behind, rfl, -⟩ := List.lookup_eq_some_iff.mp h
  simp

/-- The engine after a plugin was asked for: as it was, or with one more instance. -/
inductive Loaded (e : Engine σ) (name : String) : Engine σ → Prop
  | same : Loaded e name e
  | started (p : Plugin σ) (fresh : e.running.lookup name = none) :
    Loaded e name (e.addInstance name p)

/-- **Loading** starts at most one instance, and the one it answers with runs under the name. -/
theorem loadPlugin_loaded (e : Engine σ) (name : String) (s : σ) :
    e.Loaded name (e.loadPlugin name s).engine ∧
      ∀ k, (e.loadPlugin name s).outcome = .ok k →
        (e.loadPlugin name s).engine.running.lookup name = some k := by
  rw [loadPlugin]
  split
  case h_1 k running => exact ⟨.same, fun j hj => by cases hj; exact running⟩
  case h_2 fresh =>
    split
    case h_1 => exact ⟨.same, fun j hj => by cases hj⟩
    case h_2 p opened =>
      split
      case h_1 => exact ⟨.same, fun j hj => by cases hj⟩
      case h_2 =>
        refine ⟨.started p fresh, fun j hj => ?_⟩
        cases hj
        simp [addInstance, lookup_insertName _ _ _ _ fresh]

namespace Loaded

variable {e e' : Engine σ} {name : String}

theorem count_eq (h : e.Loaded name e') (k : Nat) : e'.count k = e.count k := by
  cases h with
  | same => rfl
  | started p fresh => exact count_addInstance e name p k

theorem length_le (h : e.Loaded name e') : e.instances.length ≤ e'.instances.length := by
  cases h with
  | same => exact Nat.le_refl _
  | started p fresh => simp [addInstance]

theorem running_lt (h : e.Loaded name e') (he : ∀ r ∈ e.running, r.2 < e.instances.length) :
    ∀ r ∈ e'.running, r.2 < e'.instances.length := by
  intro r hr
  cases h with
  | same => exact he r hr
  | started p fresh =>
    simp only [addInstance, List.length_append, List.length_singleton]
    rcases mem_insertName hr with rfl | hr
    · exact Nat.lt_succ_self _
    · exact Nat.lt_succ_of_lt (he r hr)

end Loaded

/-- What a step that may resolve something through the plugin of a name does to the engine: it loads
the plugin, and if it resolves, the instance that now runs under the name counts one more. -/
inductive Resolves (e : Engine σ) (name : String) : Bool → Engine σ → Prop
  | nothing {loaded : Engine σ} (h : e.Loaded name loaded) : Resolves e name false loaded
  | something {loaded : Engine σ} {k : Nat} (h : e.Loaded name loaded)
    (running : loaded.running.lookup name = some k) (started : k < loaded.instances.length) :
    Resolves e name true (loaded.adjustLive k (· + 1))

namespace Resolves

variable {e e' : Engine σ} {name : String} {resolved : Bool}

theorem length_le (h : e.Resolves name resolved e') :
    e.instances.length ≤ e'.instances.length := by
  cases h with
  | nothing loaded => exact loaded.length_le
  | something loaded running started =>
    rw [length_adjustLive]
    exact loaded.length_le

theorem running_lt (h : e.Resolves name resolved e')
    (he : ∀ r ∈ e.running, r.2 < e.instances.length) :
    ∀ r ∈ e'.running, r.2 < e'.instances.length := by
  cases h with
  | nothing loaded => exact loaded.running_lt he
  | something loaded running started =>
    rw [running_adjustLive, length_adjustLive]
    exact loaded.running_lt he

theorem count_nothing (h : e.Resolves name false e') (k : Nat) : e'.count k = e.count k := by
  cases h with
  | nothing loaded => exact loaded.count_eq k

/-- What resolves is counted by the instance that runs under the name, unless its count is full. -/
theorem count_something (h : e.Resolves name true e') (room : ∀ k, e.count k + 1 < 2 ^ 64) :
    ∃ k, e'.running.lookup name = some k ∧ k < e'.instances.length ∧
      ∀ j, e'.count j = if j = k then e.count j + 1 else e.count j := by
  cases h with
  | @something middle k loaded running started =>
    refine ⟨k, running, by rwa [length_adjustLive], ?_⟩
    intro j
    rw [count_adjustLive _ _ _ _ started]
    split
    case isFalse => exact loaded.count_eq j
    case isTrue here =>
      subst here
      have counted : (middle.instances[j]).live.toNat = e.count j := by
        rw [← loaded.count_eq j, count_of_getElem? (List.getElem?_eq_getElem started)]
      have := room j
      rw [UInt64.toNat_add, counted]
      exact Nat.mod_eq_of_lt this

end Resolves

theorem resolveEntity_resolves (e : Engine σ) (plugin module path : String)
    (params retvals : List TypeInfo) (s : σ) :
    let r := e.resolveEntity plugin module path params retvals s
    e.Resolves plugin r.outcome.isOk r.engine ∧
      ∀ x, r.outcome = .ok x → r.engine.running.lookup plugin = some x.1 := by
  obtain ⟨loaded, found⟩ := loadPlugin_loaded e plugin s
  simp only [resolveEntity]
  generalize e.loadPlugin plugin s = r at loaded found
  split
  case h_1 err outcome => exact ⟨.nothing loaded, nofun⟩
  case h_2 k outcome =>
    split
    case h_1 => exact ⟨.nothing loaded, nofun⟩
    case h_2 i instance_k =>
      have started : k < r.engine.instances.length := (List.getElem?_eq_some_iff.mp instance_k).1
      split
      · exact ⟨.nothing loaded, nofun⟩
      · exact ⟨.nothing loaded, nofun⟩
      · refine ⟨.something loaded (found k outcome) started, ?_⟩
        rintro x ⟨⟩
        exact found k outcome

theorem loadCallPoint_resolves (e : Engine σ) (plugin module path : String)
    (params retvals : List TypeInfo) (s : σ) :
    e.Resolves plugin (e.loadCallPoint plugin module path params retvals s).outcome.isOk
      (e.loadCallPoint plugin module path params retvals s).engine := by
  have resolves : e.Resolves plugin _ _ :=
    (e.resolveEntity_resolves plugin module path params retvals s).1
  simp only [loadCallPoint]
  generalize e.resolveEntity plugin module path params retvals s = r at resolves
  cases outcome : r.outcome with
  | error err => rwa [outcome] at resolves
  | ok x => rwa [outcome] at resolves

theorem makeCallable_resolves (e : Engine σ) (plugin : String) (context : Nat)
    (params retvals : List TypeInfo) (s : σ) :
    e.Resolves plugin (e.makeCallable plugin context params retvals s).outcome.isOk
      (e.makeCallable plugin context params retvals s).engine := by
  obtain ⟨loaded, found⟩ := loadPlugin_loaded e plugin s
  simp only [makeCallable]
  generalize e.loadPlugin plugin s = r at loaded found
  split
  case h_1 err outcome => exact .nothing loaded
  case h_2 k outcome =>
    split
    case h_1 => exact .nothing loaded
    case h_2 i instance_k =>
      have started : k < r.engine.instances.length := (List.getElem?_eq_some_iff.mp instance_k).1
      split
      · exact .nothing loaded
      · exact .something loaded (found k outcome) started

/-- Freeing a plugin stops the counting under its name and changes no count. -/
theorem freePlugin_instances (e : Engine σ) (name : String) (s : σ) :
    (e.freePlugin name s).engine.instances = e.instances ∧
      ∀ r ∈ (e.freePlugin name s).engine.running, r ∈ e.running := by
  rw [freePlugin]
  split
  · exact ⟨rfl, fun r hr => hr⟩
  · exact ⟨rfl, fun r hr => (List.mem_filter.mp hr).1⟩

theorem toNat_countDown (n : UInt64) : (countDown n).toNat = n.toNat - 1 := by
  rw [countDown]
  split
  case isTrue h =>
    rw [beq_iff_eq.mp h]
    rfl
  case isFalse h =>
    have positive : 0 < n.toNat := by
      refine Nat.pos_of_ne_zero fun zero => h (beq_iff_eq.mpr ?_)
      exact UInt64.toNat_inj.mp zero
    exact UInt64.toNat_sub_of_le n 1 (UInt64.le_iff_toNat_le.mpr positive)

theorem count_countDown (e : Engine σ) {k : Nat} (started : k < e.instances.length) (j : Nat) :
    (e.adjustLive k countDown).count j = if j = k then e.count j - 1 else e.count j := by
  rw [count_adjustLive _ _ _ _ started, toNat_countDown]
  split
  case isTrue here => rw [here, count_of_getElem? (List.getElem?_eq_getElem started)]
  case isFalse => rfl

/-- **Releasing by name** counts down the instance that runs under the name, if it succeeds. -/
theorem releaseCallPoint_cases (e : Engine σ) (plugin : String) (p : Option CallPoint) (s : σ) :
    (∃ k i, e.running.lookup plugin = some k ∧ e.instances[k]? = some i ∧
      (e.releaseCallPoint plugin p s).outcome = .ok () ∧
      (e.releaseCallPoint plugin p s).engine = e.adjustLive k countDown) ∨
    ((e.releaseCallPoint plugin p s).outcome ≠ .ok () ∧
      (e.releaseCallPoint plugin p s).engine = e) := by
  simp only [releaseCallPoint]
  cases found : e.instance? plugin with
  | none => exact .inr ⟨nofun, rfl⟩
  | some x =>
    obtain ⟨k, i⟩ := x
    simp only [instance?, Option.bind_eq_some_iff, Option.map_eq_some_iff] at found
    obtain ⟨_, running, _, started, same⟩ := found
    cases same
    cases answer : i.plugin.release p s with
    | mk outcome state =>
      simp only [answer]
      cases outcome with
      | error err => exact .inr ⟨nofun, rfl⟩
      | ok u => exact .inl ⟨k, i, running, started, rfl, rfl⟩

theorem live?_eq {e : Engine σ} {name : String} {k : Nat} {i : PluginInstance σ}
    (running : e.running.lookup name = some k) (started : e.instances[k]? = some i) :
    e.live? name = some i.live := by
  simp [live?, instance?, running, started]

end Engine

/-- Loading an entity resolves it through the instance that the handle remembers. -/
theorem EntityHandle.load_resolves (e : Engine σ) (thread : Nat) (plugin module path : String)
    (params retvals : List TypeInfo) (s : σ) :
    let r := load e thread plugin module path params retvals s
    e.Resolves plugin r.outcome.isOk r.engine ∧
      ∀ h, r.outcome = .ok h → h.held = true ∧ r.engine.running.lookup plugin = some h.origin := by
  obtain ⟨resolves, found⟩ := e.resolveEntity_resolves plugin module path params retvals s
  simp only [load]
  generalize e.resolveEntity plugin module path params retvals s = r at resolves found
  cases outcome : r.outcome with
  | error err =>
    rw [outcome] at resolves
    exact ⟨resolves, nofun⟩
  | ok x =>
    rw [outcome] at resolves
    refine ⟨resolves, ?_⟩
    rintro h ⟨⟩
    exact ⟨rfl, found x outcome⟩

theorem EntityHandle.release_engine (h : EntityHandle) (e : Engine σ) (s : σ) :
    (h.release e s).engine = if h.held then e.adjustLive h.origin (· - 1) else e := by
  simp only [release]
  split
  · cases (e.adjustLive h.origin (· - 1)).instances[h.origin]? <;> rfl
  · rfl

/-! ## 3. What a client has to release -/

namespace EngineClient

variable {c : EngineClient σ}

theorem unreleased_after {α : Type} (c : EngineClient σ) (r : Stepped σ α) (k : Nat) :
    (c.after r).unreleased k = c.unreleased k := rfl

theorem unreleased_addEntity (c : EngineClient σ) (h : EntityHandle) (held : h.held = true)
    (k : Nat) :
    { c with entities := c.entities ++ [h] }.unreleased k =
      if k = h.origin then c.unreleased k + 1 else c.unreleased k := by
  by_cases hk : k = h.origin
  · subst hk
    simp [unreleased, held, List.countP_append]
    omega
  · have : ¬ h.origin = k := Ne.symm hk
    simp [unreleased, hk, this, List.countP_append]

theorem unreleased_addPoint (c : EngineClient σ) (p : RawPoint) (k : Nat) :
    { c with points := c.points ++ [p] }.unreleased k =
      if k = p.origin then c.unreleased k + 1 else c.unreleased k := by
  by_cases hk : k = p.origin
  · subst hk
    simp [unreleased, List.countP_append]
    omega
  · have : ¬ p.origin = k := Ne.symm hk
    simp [unreleased, hk, this, List.countP_append]

theorem unreleased_dropEntity (c : EngineClient σ) {i : Nat} {h : EntityHandle}
    (at_i : c.entities[i]? = some h) (k : Nat) :
    { c with entities := c.entities.set i { h with held := false } }.unreleased k =
      if h.held ∧ k = h.origin then c.unreleased k - 1 else c.unreleased k := by
  obtain ⟨hi, here⟩ := List.getElem?_eq_some_iff.mp at_i
  have counted : h.held = true → k = h.origin →
      0 < c.entities.countP fun h => h.held && h.origin == k := by
    intro held hk
    exact List.countP_pos_iff.mpr ⟨h, here ▸ List.getElem_mem hi, by simp [held, hk]⟩
  simp only [unreleased, List.countP_set hi, here]
  by_cases held : h.held = true
  · by_cases hk : k = h.origin
    · have := counted held hk
      simp only [held, hk, true_and, Bool.true_and, beq_self_eq_true, if_true] at this ⊢
      simp
      omega
    · simp [held, hk, Ne.symm hk]
  · simp [held]

theorem unreleased_dropPoint (c : EngineClient σ) {i : Nat} {p : RawPoint}
    (at_i : c.points[i]? = some p) (k : Nat) :
    { c with points := c.points.eraseIdx i }.unreleased k =
      if k = p.origin then c.unreleased k - 1 else c.unreleased k := by
  obtain ⟨hi, here⟩ := List.getElem?_eq_some_iff.mp at_i
  have split_at : c.points = c.points.take i ++ p :: c.points.drop (i + 1) := by
    rw [← here, List.getElem_cons_drop hi, List.take_append_drop]
  have whole : (c.points.countP fun q => q.origin == k) =
      ((c.points.take i).countP fun q => q.origin == k) +
        (((c.points.drop (i + 1)).countP fun q => q.origin == k) + if p.origin = k then 1 else 0) := by
    refine (congrArg (List.countP _) split_at).trans ?_
    rw [List.countP_append, List.countP_cons]
    simp
  simp only [unreleased, List.eraseIdx_eq_take_drop_succ, List.countP_append, whole]
  by_cases hk : k = p.origin
  · simp [hk]
    omega
  · simp [hk, Ne.symm hk]

theorem unreleased_pos_of_point {i : Nat} {p : RawPoint} (at_i : c.points[i]? = some p) :
    0 < c.unreleased p.origin := by
  have : 0 < c.points.countP fun q => q.origin == p.origin :=
    List.countP_pos_iff.mpr ⟨p, List.mem_of_getElem? at_i, by simp⟩
  rw [unreleased]
  omega

theorem unreleased_pos_of_entity {i : Nat} {h : EntityHandle} (at_i : c.entities[i]? = some h)
    (held : h.held = true) : 0 < c.unreleased h.origin := by
  have : 0 < c.entities.countP fun g => g.held && g.origin == h.origin :=
    List.countP_pos_iff.mpr ⟨h, List.mem_of_getElem? at_i, by simp [held]⟩
  rw [unreleased]
  omega

/-- Nothing was resolved through an instance that was not started. -/
theorem Tidy.unreleased_eq_zero (hc : c.Tidy) {k : Nat}
    (hk : c.engine.instances.length ≤ k) : c.unreleased k = 0 := by
  have no_entity : (c.entities.countP fun h => h.held && h.origin == k) = 0 := by
    refine List.countP_eq_zero.mpr ?_
    intro h hh
    have := hc.entities h hh
    have : h.origin ≠ k := by omega
    simp [this]
  have no_point : (c.points.countP fun p => p.origin == k) = 0 := by
    refine List.countP_eq_zero.mpr ?_
    intro p hp
    have := hc.points p hp
    have : p.origin ≠ k := by omega
    simp [this]
  rw [unreleased, no_entity, no_point]

theorem Tidy.exact_iff (hc : c.Tidy) : c.Exact ↔ ∀ k, c.engine.count k = c.unreleased k := by
  constructor
  · intro exact_c k
    cases started : c.engine.instances[k]? with
    | some i => rw [Engine.count_of_getElem? started, exact_c k i started]
    | none =>
      have beyond := List.getElem?_eq_none_iff.mp started
      rw [Engine.count_of_length_le beyond, hc.unreleased_eq_zero beyond]
  · intro same k i started
    rw [← same k, Engine.count_of_getElem? started]

/-! ## 4. One step -/

/-- An operation of the engine keeps a client tidy if it only ever starts instances. -/
theorem Tidy.after {α : Type} (hc : c.Tidy) (r : Stepped σ α)
    (length_le : c.engine.instances.length ≤ r.engine.instances.length)
    (running : ∀ x ∈ r.engine.running, x.2 < r.engine.instances.length) : (c.after r).Tidy where
  running := running
  entities := fun h hh => Nat.lt_of_lt_of_le (hc.entities h hh) length_le
  points := fun p hp => Nat.lt_of_lt_of_le (hc.points p hp) length_le

theorem Tidy.resolves {α : Type} (hc : c.Tidy) {r : Stepped σ α} {plugin : String} {resolved : Bool}
    (h : c.engine.Resolves plugin resolved r.engine) : (c.after r).Tidy :=
  hc.after r h.length_le (h.running_lt hc.running)

theorem Tidy.counting {α : Type} (hc : c.Tidy) (r : Stepped σ α)
    (length : r.engine.instances.length = c.engine.instances.length)
    (running : r.engine.running = c.engine.running) : (c.after r).Tidy := by
  refine hc.after r (Nat.le_of_eq length.symm) ?_
  rw [length, running]
  exact hc.running

theorem Tidy.hold (hc : c.Tidy) (plugin : String) (point : Option CallPoint) :
    (c.hold plugin point).Tidy := by
  cases point with
  | none => exact hc
  | some point =>
    simp only [EngineClient.hold]
    split
    case h_1 => exact hc
    case h_2 origin running =>
      refine ⟨hc.running, hc.entities, ?_⟩
      intro p hp
      rcases List.mem_append.mp hp with hp | hp
      · exact hc.points p hp
      · rw [List.mem_singleton.mp hp]
        exact hc.running _ (Engine.mem_of_lookup running)

theorem Tidy.releaseNamed (hc : c.Tidy) (plugin : String) (p : Option CallPoint) :
    (c.after (c.engine.releaseCallPoint plugin p c.state)).Tidy := by
  rcases c.engine.releaseCallPoint_cases plugin p c.state with
    ⟨k, i, -, -, -, engine⟩ | ⟨-, engine⟩
  · exact hc.counting _ (by simp [engine]) (by simp [engine])
  · exact hc.counting _ (by rw [engine]) (by rw [engine])

theorem Tidy.releaseEntity (hc : c.Tidy) (i : Nat) : (c.releaseEntity i).Tidy := by
  rw [EngineClient.releaseEntity]
  split
  case h_1 => exact hc
  case h_2 h at_i =>
    have released : (c.after (h.release c.engine c.state)).Tidy := by
      have engine := h.release_engine c.engine c.state
      split at engine
      · exact hc.counting _ (by simp [engine]) (by simp [engine])
      · exact hc.counting _ (by rw [engine]) (by rw [engine])
    refine ⟨released.running, ?_, released.points⟩
    intro g hg
    rcases List.mem_or_eq_of_mem_set hg with hg | rfl
    · exact released.entities g hg
    · exact released.entities h (List.mem_of_getElem? at_i)

theorem Tidy.releasePoint (hc : c.Tidy) (i : Nat) : (c.releasePoint i).Tidy := by
  rw [EngineClient.releasePoint]
  split
  case h_1 => exact hc
  case h_2 p at_i =>
    have released := hc.releaseNamed p.plugin (some p.point)
    simp only
    split
    · refine ⟨released.running, released.entities, ?_⟩
      intro q hq
      exact released.points q (List.mem_of_mem_eraseIdx hq)
    · exact released

/-- **Every step keeps a client tidy.** -/
theorem Tidy.step (hc : c.Tidy) (op : EngineOp) : (c.step op).Tidy := by
  cases op with
  | loadPlugin name =>
    have loaded := (c.engine.loadPlugin_loaded name c.state).1
    exact hc.after _ loaded.length_le (loaded.running_lt hc.running)
  | freePlugin name =>
    obtain ⟨instances, running⟩ := c.engine.freePlugin_instances name c.state
    refine hc.after _ (Nat.le_of_eq (by rw [instances])) ?_
    intro r hr
    rw [instances]
    exact hc.running r (running r hr)
  | loadEntity thread plugin module path params retvals =>
    obtain ⟨resolves, found⟩ :=
      EntityHandle.load_resolves c.engine thread plugin module path params retvals c.state
    have loaded := hc.resolves resolves
    simp only [EngineClient.step]
    split
    case h_1 h outcome =>
      refine ⟨loaded.running, ?_, loaded.points⟩
      intro g hg
      rcases List.mem_append.mp hg with hg | hg
      · exact loaded.entities g hg
      · rw [List.mem_singleton.mp hg]
        exact loaded.running _ (Engine.mem_of_lookup (found h outcome).2)
    case h_2 => exact loaded
  | releaseEntity i => exact hc.releaseEntity i
  | loadPoint plugin module path params retvals =>
    have resolves := c.engine.loadCallPoint_resolves plugin module path params retvals c.state
    exact (hc.resolves resolves).hold plugin _
  | makeCallable plugin context params retvals =>
    have resolves := c.engine.makeCallable_resolves plugin context params retvals c.state
    exact (hc.resolves resolves).hold plugin _
  | releasePoint i => exact hc.releasePoint i
  | releaseAbsent plugin => exact hc.releaseNamed plugin none

/-- A step that resolves nothing keeps the counts exact. -/
theorem Exact.nothing {α : Type} (hc : c.Tidy) (exact_c : c.Exact) {r : Stepped σ α}
    {plugin : String} (h : c.engine.Resolves plugin false r.engine) : (c.after r).Exact := by
  refine (hc.resolves h).exact_iff.mpr fun k => ?_
  exact (h.count_nothing k).trans (hc.exact_iff.mp exact_c k)

/-- A step that resolves something and keeps it keeps the counts exact. -/
theorem Exact.hold {α : Type} (hc : c.Tidy) (exact_c : c.Exact)
    (room : ∀ k, c.unreleased k + 1 < 2 ^ 64) {r : Stepped σ α} {plugin : String}
    (h : c.engine.Resolves plugin true r.engine) (point : CallPoint) :
    ((c.after r).hold plugin (some point)).Exact := by
  have counted := hc.exact_iff.mp exact_c
  obtain ⟨k, running, started, count⟩ := h.count_something (by simpa [counted] using room)
  refine ((hc.resolves h).hold plugin (some point)).exact_iff.mpr fun j => ?_
  have kept : (c.after r).hold plugin (some point) =
      { c.after r with points := c.points ++ [⟨k, plugin, point⟩] } := by
    simp [EngineClient.hold, EngineClient.after, running]
  rw [kept]
  refine (count j).trans ?_
  rw [counted j]
  exact (unreleased_addPoint (c.after r) ⟨k, plugin, point⟩ j).symm

/-- A step that is counted and gives nothing to keep spoils the counts. -/
theorem Exact.not_after_something {α : Type} (hc : c.Tidy) (exact_c : c.Exact)
    (room : ∀ k, c.unreleased k + 1 < 2 ^ 64) {r : Stepped σ α} {plugin : String}
    (h : c.engine.Resolves plugin true r.engine) : ¬ (c.after r).Exact := by
  have counted := hc.exact_iff.mp exact_c
  obtain ⟨k, running, started, count⟩ := h.count_something (by simpa [counted] using room)
  intro exact_after
  have more : c.engine.count k + 1 = c.unreleased k := by
    have := (hc.resolves h).exact_iff.mp exact_after k
    rwa [show (c.after r).engine.count k = _ from count k, if_pos rfl] at this
  rw [counted k] at more
  omega

theorem exact_makeCallable_iff (hc : c.Tidy) (exact_c : c.Exact)
    (room : ∀ k, c.unreleased k + 1 < 2 ^ 64) (plugin : String) (context : Nat)
    (params retvals : List TypeInfo) :
    (c.step (.makeCallable plugin context params retvals)).Exact ↔
      ¬ c.Miscounts (.makeCallable plugin context params retvals) := by
  have resolves := c.engine.makeCallable_resolves plugin context params retvals c.state
  simp only [step, Miscounts]
  generalize c.engine.makeCallable plugin context params retvals c.state = r at resolves ⊢
  cases outcome : r.outcome with
  | error err =>
    rw [outcome] at resolves
    exact iff_of_true (exact_c.nothing hc resolves) nofun
  | ok point =>
    rw [outcome] at resolves
    cases point with
    | none => exact iff_of_false (exact_c.not_after_something hc room resolves) (fun h => h rfl)
    | some point => exact iff_of_true (exact_c.hold hc room resolves point) nofun

theorem exact_loadPoint (hc : c.Tidy) (exact_c : c.Exact) (room : ∀ k, c.unreleased k + 1 < 2 ^ 64)
    (plugin module path : String) (params retvals : List TypeInfo) :
    (c.step (.loadPoint plugin module path params retvals)).Exact := by
  have resolves := c.engine.loadCallPoint_resolves plugin module path params retvals c.state
  simp only [step]
  generalize c.engine.loadCallPoint plugin module path params retvals c.state = r at resolves ⊢
  cases outcome : r.outcome with
  | error err =>
    rw [outcome] at resolves
    exact exact_c.nothing hc resolves
  | ok point =>
    rw [outcome] at resolves
    exact exact_c.hold hc room resolves point

theorem exact_loadEntity (hc : c.Tidy) (exact_c : c.Exact) (room : ∀ k, c.unreleased k + 1 < 2 ^ 64)
    (thread : Nat) (plugin module path : String) (params retvals : List TypeInfo) :
    (c.step (.loadEntity thread plugin module path params retvals)).Exact := by
  have counted := hc.exact_iff.mp exact_c
  have tidy := hc.step (.loadEntity thread plugin module path params retvals)
  obtain ⟨resolves, found⟩ :=
    EntityHandle.load_resolves c.engine thread plugin module path params retvals c.state
  simp only [step] at tidy ⊢
  generalize EntityHandle.load c.engine thread plugin module path params retvals c.state = r
    at resolves found tidy
  cases outcome : r.outcome with
  | error err =>
    rw [outcome] at resolves
    exact exact_c.nothing hc resolves
  | ok h =>
    rw [outcome] at resolves tidy
    obtain ⟨k, running, started, count⟩ := resolves.count_something (by simpa [counted] using room)
    obtain ⟨held, origin⟩ := found h outcome
    have same : h.origin = k := Option.some.inj (origin.symm.trans running)
    refine tidy.exact_iff.mpr fun j => (count j).trans ?_
    rw [counted j, ← same]
    exact (unreleased_addEntity (c.after r) h held j).symm

theorem exact_releaseEntity (hc : c.Tidy) (exact_c : c.Exact) (i : Nat) :
    (c.step (.releaseEntity i)).Exact := by
  have counted := hc.exact_iff.mp exact_c
  have tidy := hc.releaseEntity i
  simp only [step]
  rw [releaseEntity] at tidy ⊢
  cases at_i : c.entities[i]? with
  | none => exact exact_c
  | some h =>
    rw [at_i] at tidy
    have dropped := unreleased_dropEntity (c.after (h.release c.engine c.state)) at_i
    have engine := h.release_engine c.engine c.state
    refine tidy.exact_iff.mpr fun j => Eq.trans ?_ (dropped j).symm
    rw [unreleased_after, ← counted j]
    change (h.release c.engine c.state).engine.count j = _
    rw [engine]
    by_cases held : h.held = true
    · have started := hc.entities h (List.mem_of_getElem? at_i)
      have here := Engine.count_of_getElem? (List.getElem?_eq_getElem started)
      have positive : 1 ≤ (c.engine.instances[h.origin]).live.toNat := by
        rw [← here, counted]
        exact unreleased_pos_of_entity at_i held
      rw [if_pos held, Engine.count_adjustLive _ _ _ _ started,
        UInt64.toNat_sub_of_le _ 1 (UInt64.le_iff_toNat_le.mpr positive), ← here]
      by_cases hj : j = h.origin
      · simp [held, hj]
      · simp [hj]
    · simp [held]

/-- A release by name that fails changes nothing that is counted. -/
theorem Exact.release_failed (exact_c : c.Exact) {r : Stepped σ Unit}
    (engine : r.engine = c.engine) : (c.after r).Exact := by
  intro k i started
  exact exact_c k i (by rwa [← engine])

/-- **A call point released by name** is counted off where it was counted unless another instance runs
under the name. -/
theorem exact_releasePoint_iff (hc : c.Tidy) (exact_c : c.Exact) (i : Nat) :
    (c.step (.releasePoint i)).Exact ↔ ¬ c.Miscounts (.releasePoint i) := by
  have counted := hc.exact_iff.mp exact_c
  have tidy := hc.releasePoint i
  simp only [step, Miscounts]
  rw [releasePoint] at tidy ⊢
  cases at_i : c.points[i]? with
  | none => simpa using exact_c
  | some p =>
    rw [at_i] at tidy
    have cases_p := c.engine.releaseCallPoint_cases p.plugin (some p.point) c.state
    simp only [Option.some.injEq, exists_eq_left'] at tidy ⊢
    generalize c.engine.releaseCallPoint p.plugin (some p.point) c.state = r at cases_p tidy ⊢
    rcases cases_p with ⟨k, inst, running, started, outcome, engine⟩ | ⟨outcome, engine⟩
    · have dropped := unreleased_dropPoint (c.after r) at_i
      have count : ∀ j, r.engine.count j =
          if j = k then c.unreleased j - 1 else c.unreleased j := by
        intro j
        rw [engine, Engine.count_countDown _ (List.getElem?_eq_some_iff.mp started).1, counted]
      have positive := unreleased_pos_of_point at_i
      rw [outcome] at tidy ⊢
      rw [tidy.exact_iff]
      simp only [running, Option.some.injEq, ne_eq, not_and, not_true_eq_false, imp_false,
        Decidable.not_not]
      constructor
      · intro same
        have here := ((count p.origin).symm.trans (same p.origin)).trans (dropped p.origin)
        rw [if_pos rfl, unreleased_after] at here
        refine Decidable.byContradiction fun other => ?_
        rw [if_neg (Ne.symm other)] at here
        omega
      · rintro rfl j
        exact (count j).trans (dropped j).symm
    · refine iff_of_true ?_ fun h => outcome h.2
      split
      case h_1 ok => exact absurd ok outcome
      case h_2 => exact exact_c.release_failed engine

/-- **An absent call point released by name** is harmless only if nothing is counted under the name. -/
theorem exact_releaseAbsent_iff (hc : c.Tidy) (exact_c : c.Exact) (plugin : String) :
    (c.step (.releaseAbsent plugin)).Exact ↔ ¬ c.Miscounts (.releaseAbsent plugin) := by
  have counted := hc.exact_iff.mp exact_c
  have tidy := hc.releaseNamed plugin none
  simp only [step, Miscounts]
  have cases_p := c.engine.releaseCallPoint_cases plugin none c.state
  generalize c.engine.releaseCallPoint plugin none c.state = r at cases_p tidy ⊢
  rcases cases_p with ⟨k, inst, running, started, outcome, engine⟩ | ⟨outcome, engine⟩
  · have count : ∀ j, r.engine.count j =
        if j = k then c.unreleased j - 1 else c.unreleased j := by
      intro j
      rw [engine, Engine.count_countDown _ (List.getElem?_eq_some_iff.mp started).1, counted]
    have live : c.unreleased k = inst.live.toNat := by
      rw [← counted, Engine.count_of_getElem? started]
    rw [tidy.exact_iff, Engine.live?_eq running started, outcome]
    simp only [ne_eq, Option.some.injEq, and_true, Decidable.not_not]
    constructor
    · intro same
      have here := (count k).symm.trans (same k)
      rw [if_pos rfl, unreleased_after, live] at here
      exact UInt64.toNat_inj.mp (by simp; omega)
    · rintro zero j
      refine (count j).trans ?_
      split
      case isTrue here =>
        subst here
        rw [unreleased_after, live, zero]
        rfl
      case isFalse => rfl
  · exact iff_of_true (exact_c.release_failed engine) fun h => outcome h.2

/-- **One step keeps the counts exact unless it miscounts.** -/
theorem step_exact_iff (hc : c.Tidy) (exact_c : c.Exact)
    (room : ∀ k, c.unreleased k + 1 < 2 ^ 64) (op : EngineOp) :
    (c.step op).Exact ↔ ¬ c.Miscounts op := by
  cases op with
  | loadPlugin name =>
    have loaded := (c.engine.loadPlugin_loaded name c.state).1
    refine iff_of_true ?_ id
    refine (hc.step (.loadPlugin name)).exact_iff.mpr fun k => ?_
    exact (loaded.count_eq k).trans (hc.exact_iff.mp exact_c k)
  | freePlugin name =>
    refine iff_of_true ?_ id
    intro k i started
    exact exact_c k i ((c.engine.freePlugin_instances name c.state).1 ▸ started)
  | loadEntity thread plugin module path params retvals =>
    exact iff_of_true (exact_loadEntity hc exact_c room thread plugin module path params retvals) id
  | releaseEntity i => exact iff_of_true (exact_releaseEntity hc exact_c i) id
  | loadPoint plugin module path params retvals =>
    exact iff_of_true (exact_loadPoint hc exact_c room plugin module path params retvals) id
  | makeCallable plugin context params retvals =>
    exact exact_makeCallable_iff hc exact_c room plugin context params retvals
  | releasePoint i => exact exact_releasePoint_iff hc exact_c i
  | releaseAbsent plugin => exact exact_releaseAbsent_iff hc exact_c plugin

/-! ## 5. Runs -/

/-- How many things a client keeps, released entities included. -/
def size (c : EngineClient σ) : Nat :=
  c.entities.length + c.points.length

theorem unreleased_le_size (c : EngineClient σ) (k : Nat) : c.unreleased k ≤ c.size :=
  Nat.add_le_add List.countP_le_length List.countP_le_length

theorem size_hold_le (c : EngineClient σ) (plugin : String) (point : Option CallPoint) :
    (c.hold plugin point).size ≤ c.size + 1 := by
  cases point with
  | none => exact Nat.le_succ _
  | some point =>
    simp only [hold]
    split
    · exact Nat.le_succ _
    · simp [size]
      omega

/-- One step leaves at most one more thing to keep. -/
theorem size_step_le (c : EngineClient σ) (op : EngineOp) : (c.step op).size ≤ c.size + 1 := by
  cases op with
  | loadPlugin name => exact Nat.le_succ _
  | freePlugin name => exact Nat.le_succ _
  | loadEntity thread plugin module path params retvals =>
    simp only [step]
    split
    · simp [size, after]
      omega
    · exact Nat.le_succ _
  | releaseEntity i =>
    simp only [step, releaseEntity]
    split
    · exact Nat.le_succ _
    · simp [size, after]
  | loadPoint plugin module path params retvals => exact size_hold_le _ _ _
  | makeCallable plugin context params retvals => exact size_hold_le _ _ _
  | releasePoint i =>
    simp only [step, releasePoint]
    split
    · exact Nat.le_succ _
    · split
      · simp only [size, after, List.length_eraseIdx]
        split <;> omega
      · exact Nat.le_succ _
  | releaseAbsent plugin => exact Nat.le_succ _

theorem run_take_succ (c : EngineClient σ) {ops : List EngineOp} {n : Nat} (h : n < ops.length) :
    c.run (ops.take (n + 1)) = (c.run (ops.take n)).step ops[n] := by
  rw [List.take_succ_eq_append_getElem h]
  simp only [run, List.foldl_append, List.foldl_cons, List.foldl_nil]

theorem size_run_le (c : EngineClient σ) (ops : List EngineOp) :
    (c.run ops).size ≤ c.size + ops.length := by
  induction ops generalizing c with
  | nil => exact Nat.le_refl _
  | cons op ops ih =>
    have first := c.size_step_le op
    have rest := ih (c.step op)
    simp only [run, List.foldl_cons, List.length_cons] at rest ⊢
    omega

theorem Tidy.run (hc : c.Tidy) (ops : List EngineOp) : (c.run ops).Tidy := by
  induction ops generalizing c with
  | nil => exact hc
  | cons op ops ih => exact ih (hc.step op)

theorem Fresh.tidy (h : c.Fresh) : c.Tidy :=
  ⟨by simp [h.running], by simp [h.entities], by simp [h.points]⟩

theorem Fresh.exact_start (h : c.Fresh) : c.Exact := by
  intro k i started
  simp [h.instances] at started

end EngineClient

/-- **The counts of live entities are exact after every step of a run if and only if no step of it
miscounts**: over any plugins, from an engine that has started none of them, in runs of fewer steps than
a count can tell. -/
theorem liveCounts_exact_iff {c : EngineClient σ} (fresh : c.Fresh) (ops : List EngineOp)
    (countable : ops.length < 2 ^ 64) :
    (∀ n, n ≤ ops.length → (c.run (ops.take n)).Exact) ↔
      ∀ n (h : n < ops.length), ¬ (c.run (ops.take n)).Miscounts ops[n] := by
  have tidy : ∀ n, (c.run (ops.take n)).Tidy := fun n => fresh.tidy.run _
  have room : ∀ n, n < ops.length → ∀ k, (c.run (ops.take n)).unreleased k + 1 < 2 ^ 64 := by
    intro n h k
    have kept := (c.run (ops.take n)).unreleased_le_size k
    have grown := c.size_run_le (ops.take n)
    simp only [EngineClient.size, fresh.entities, fresh.points, List.length_nil,
      List.length_take] at kept grown
    omega
  constructor
  · intro exact_all n h
    refine (EngineClient.step_exact_iff (tidy n) (exact_all n (Nat.le_of_lt h)) (room n h) _).mp ?_
    rw [← EngineClient.run_take_succ c h]
    exact exact_all (n + 1) h
  · intro none_miscounts n
    induction n with
    | zero => exact fun _ => fresh.exact_start
    | succ n ih =>
      intro h
      rw [EngineClient.run_take_succ c h]
      exact (EngineClient.step_exact_iff (tidy n) (ih (Nat.le_of_lt h)) (room n h) _).mpr
        (none_miscounts n h)

/-- A function without a signature. -/
def tick : NativeFunction := ⟨0, "tick", [], []⟩

/-- A process with that function in its runtime, and its plugin in an engine. -/
def tickClient : EngineClient Host where
  engine := { builtins := [(localRuntimeName, Host.runtimePlugin)] }
  state := { runtime := LocalRuntime.register {} "math" tick }

theorem fresh_tickClient : tickClient.Fresh :=
  ⟨rfl, rfl, rfl, rfl⟩

def loadTick : EngineOp := .loadEntity 0 localRuntimeName "math" "tick" [] []

/-- Resolve the function twice, release both, and an absent call point when nothing is left. -/
def tickOps : List EngineOp :=
  [loadTick, .loadPoint localRuntimeName "math" "tick" [] [], .releasePoint 0, .releaseEntity 0,
    .releaseAbsent localRuntimeName]

theorem liveCounts_exact_tickOps :
    tickClient.Fresh ∧ tickOps.length < 2 ^ 64 ∧
      ∀ n, n ≤ tickOps.length → (tickClient.run (tickOps.take n)).Exact := by
  refine ⟨fresh_tickClient, by decide, ?_⟩
  refine (liveCounts_exact_iff fresh_tickClient tickOps (by decide)).mpr fun n h => ?_
  match n, h with
  | 0, _ | 1, _ | 3, _ => exact id
  | 2, _ =>
    rintro ⟨p, at_0, elsewhere, -⟩
    have held : ((tickClient.run (tickOps.take 2)).points[0]?.map fun p => (p.plugin, p.origin)) =
        some (localRuntimeName, 0) := by decide +kernel
    rw [at_0] at held
    obtain ⟨plugin, origin⟩ : p.plugin = localRuntimeName ∧ p.origin = 0 := by simpa using held
    rw [plugin, origin] at elsewhere
    exact elsewhere (by decide +kernel)
  | 4, _ =>
    rintro ⟨counted, -⟩
    exact counted (by decide +kernel)

/-- Releasing an absent call point while an entity lives takes the entity off, and when the entity is
released in turn, the count wraps. -/
theorem liveCounts_not_exact :
    ¬ (tickClient.run [loadTick, .releaseAbsent localRuntimeName]).Exact ∧
      (tickClient.run [loadTick, .releaseAbsent localRuntimeName, .releaseEntity 0]).engine.live?
        localRuntimeName = some 18446744073709551615 := by
  constructor
  · intro exact_run
    exact absurd ((fresh_tickClient.tidy.run _).exact_iff.mp exact_run 0) (by decide +kernel)
  · decide +kernel

end RuntimeBridge
