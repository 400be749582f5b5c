/-
# The runtime behind its name

A process asks its own runtime for entities as it asks any other: by the name of a plugin.  That name
stands for the plugin of the process in every state of a bridge, whatever was started, freed, resolved
or released before, as long as nobody builds in another plugin under it.

The invariant speaks of the engine alone: the plugin is built in, and whatever runs under the name is an
instance of it (`Engine.ServesRuntime`).  Each operation of the engine either leaves the instances as
they are, changes a count, or starts a plugin that it found under its name.

Main statements: `Bridge.Reached.serves`, and what starting the runtime does in such a state,
`Engine.ServesRuntime.started`.
-/
import RuntimeBridge.Proofs.Engine.LiveCounts
import RuntimeBridge.Host.Bridge
namespace RuntimeBridge

/-! ## 1. The invariant -/

/-- The name of the runtime stands for the plugin of this process: it is built in, and what runs under
the name is an instance of it. -/
structure Engine.ServesRuntime (e : Engine Host) : Prop where
  builtin : e.builtins.lookup localRuntimeName = some Host.runtimePlugin
  running : ∀ k, (localRuntimeName, k) ∈ e.running →
    ∃ i, e.instances[k]? = some i ∧ i.plugin = Host.runtimePlugin

namespace Engine.ServesRuntime

variable {e : Engine Host}

/-- Counts do not matter. -/
theorem adjustLive (served : e.ServesRuntime) (k : Nat) (f : UInt64 → UInt64) :
    (e.adjustLive k f).ServesRuntime := by
  refine ⟨served.builtin, fun j running => ?_⟩
  obtain ⟨i, started, plugin⟩ := served.running j running
  by_cases here : k = j
  · subst here
    refine ⟨{ i with live := f i.live }, ?_, plugin⟩
    simp [Engine.adjustLive, started]
  · refine ⟨i, ?_, plugin⟩
    rw [Engine.adjustLive, List.getElem?_modify_ne _ _ here, started]

/-- Under the name of the runtime nothing else is found. -/
theorem openPlugin (served : e.ServesRuntime) {p : Plugin Host}
    (opened : e.openPlugin localRuntimeName = .ok p) : p = Host.runtimePlugin := by
  rw [Engine.openPlugin, served.builtin] at opened
  exact (Except.ok.inj opened).symm

theorem addInstance (served : e.ServesRuntime) {name : String} {p : Plugin Host}
    (opened : e.openPlugin name = .ok p) : (e.addInstance name p).ServesRuntime := by
  refine ⟨served.builtin, fun k running => ?_⟩
  rcases Engine.mem_insertName running with same | older
  · obtain ⟨rfl, rfl⟩ := Prod.mk.inj same
    exact ⟨⟨p, 0⟩, by simp [Engine.addInstance], served.openPlugin opened⟩
  · obtain ⟨i, started, plugin⟩ := served.running k older
    have inside : k < e.instances.length := (List.getElem?_eq_some_iff.mp started).1
    exact ⟨i, (List.getElem?_append_left inside).trans started, plugin⟩

theorem loadPlugin (served : e.ServesRuntime) (name : String) (h : Host) :
    (e.loadPlugin name h).engine.ServesRuntime := by
  rw [Engine.loadPlugin]
  split
  · exact served
  · cases opened : e.openPlugin name with
    | error err => exact served
    | ok p =>
      simp only
      rcases p.start h with ⟨_ | _, after⟩
      · exact served
      · exact served.addInstance opened

theorem freePlugin (served : e.ServesRuntime) (name : String) (h : Host) :
    (e.freePlugin name h).engine.ServesRuntime := by
  rw [Engine.freePlugin]
  split
  · exact served
  · exact ⟨served.builtin, fun k running => served.running k (List.mem_filter.mp running).1⟩

theorem resolveEntity (served : e.ServesRuntime) (plugin module path : String)
    (params retvals : List TypeInfo) (h : Host) :
    (e.resolveEntity plugin module path params retvals h).engine.ServesRuntime := by
  have loaded := served.loadPlugin plugin h
  simp only [Engine.resolveEntity]
  generalize e.loadPlugin plugin h = r at loaded
  split
  · exact loaded
  case h_2 k _ =>
    split
    · exact loaded
    · split
      · exact loaded
      · exact loaded
      · exact loaded.adjustLive k (· + 1)

theorem makeCallable (served : e.ServesRuntime) (plugin : String) (context : Nat)
    (params retvals : List TypeInfo) (h : Host) :
    (e.makeCallable plugin context params retvals h).engine.ServesRuntime := by
  have loaded := served.loadPlugin plugin h
  simp only [Engine.makeCallable]
  generalize e.loadPlugin plugin h = r at loaded
  split
  · exact loaded
  case h_2 k _ =>
    split
    · exact loaded
    · split
      · exact loaded
      · exact loaded.adjustLive k (· + 1)

theorem releaseCallPoint (served : e.ServesRuntime) (plugin : String) (p : Option CallPoint)
    (h : Host) : (e.releaseCallPoint plugin p h).engine.ServesRuntime := by
  rcases e.releaseCallPoint_cases plugin p h with ⟨k, i, -, -, -, after⟩ | ⟨-, after⟩
  · rw [after]
    exact served.adjustLive k _
  · rwa [after]

/-- **A step of any client** keeps the name of the runtime. -/
theorem step {c : EngineClient Host} (served : c.engine.ServesRuntime) (op : EngineOp) :
    (c.step op).engine.ServesRuntime := by
  have held : ∀ (d : EngineClient Host) (plugin : String) (p : Option CallPoint),
      (d.hold plugin p).engine = d.engine := fun d plugin p => by
    cases p with
    | none => rfl
    | some p =>
      rw [EngineClient.hold]
      cases d.engine.running.lookup plugin <;> rfl
  cases op with
  | loadPlugin name => exact served.loadPlugin name c.state
  | freePlugin name => exact served.freePlugin name c.state
  | loadEntity thread plugin module path params retvals =>
    have resolved := served.resolveEntity plugin module path params retvals c.state
    simp only [EngineClient.step, EntityHandle.load]
    generalize c.engine.resolveEntity plugin module path params retvals c.state = r at resolved
    cases r.outcome <;> exact resolved
  | releaseEntity i =>
    rw [EngineClient.step, EngineClient.releaseEntity]
    split
    · exact served
    · simp only [EngineClient.after, EntityHandle.release_engine]
      split
      · exact served.adjustLive _ _
      · exact served
  | loadPoint plugin module path params retvals =>
    simp only [EngineClient.step, held]
    exact served.resolveEntity plugin module path params retvals c.state
  | makeCallable plugin context params retvals =>
    simp only [EngineClient.step, held]
    exact served.makeCallable plugin context params retvals c.state
  | releasePoint i =>
    rw [EngineClient.step, EngineClient.releasePoint]
    split
    · exact served
    case h_2 p _ =>
      have released := served.releaseCallPoint p.plugin (some p.point) c.state
      generalize c.engine.releaseCallPoint p.plugin (some p.point) c.state = r at released
      simp only
      cases r.outcome <;> exact released
  | releaseAbsent plugin => exact served.releaseCallPoint plugin none c.state

end Engine.ServesRuntime

/-! ## 2. The bridges of a process -/

/-- Bridges that a process can come to have: that of an environment, and from there whatever building in
plugins under other names, applying configurations, changing the process, and operations of the engine
lead to. -/
inductive Bridge.Reached : Bridge → Prop
  | start (documents : String → Option String) (files : String → PluginFile Host) (host : Host) :
    Reached (.ofEnvironment documents files host)
  | builtin {b : Bridge} (p : Plugin Host) (other : p.name ≠ localRuntimeName) :
    Reached b → Reached { b with engine := b.engine.registerBuiltin p }
  | configured {b : Bridge} (config : Config) (flags : List String) :
    Reached b → Reached { b with engine := { b.engine with config, flags } }
  | process {b : Bridge} (host : Host) : Reached b → Reached { b with host }
  | step {c : EngineClient Host} (op : EngineOp) :
    Reached ⟨c.engine, c.state⟩ → Reached ⟨(c.step op).engine, (c.step op).state⟩

theorem Bridge.Reached.serves {b : Bridge} (reached : b.Reached) : b.engine.ServesRuntime := by
  induction reached with
  | start documents files host => exact ⟨List.lookup_cons_self, nofun⟩
  | @builtin b p other _ served =>
    refine ⟨?_, served.running⟩
    have kept : (b.engine.builtins.filter fun entry => entry.1 != p.name).lookup localRuntimeName =
        b.engine.builtins.lookup localRuntimeName := by
      induction b.engine.builtins with
      | nil => rfl
      | cons entry rest ih =>
        by_cases here : entry.1 = p.name
        · have elsewhere : (localRuntimeName == entry.1) = false := by
            simpa [here] using Ne.symm other
          rw [List.filter_cons_of_neg (by simpa using here), ih, List.lookup_cons, elsewhere]
        · rw [List.filter_cons_of_pos (by simpa using here), List.lookup_cons, List.lookup_cons, ih]
    have elsewhere : (localRuntimeName == p.name) = false := by simpa using Ne.symm other
    simp only [Engine.registerBuiltin, List.lookup_cons, elsewhere]
    exact kept.trans served.builtin
  | configured config flags _ served => exact ⟨served.builtin, served.running⟩
  | process host _ served => exact served
  | step op _ served => exact served.step op

/-! ## 3. Starting the runtime -/

/-- **The runtime of a process starts under its name**, unless it runs: the instance is one of its
plugin, and of the process at most the note that the runtime was started changes. -/
theorem Engine.ServesRuntime.started {e : Engine Host} (served : e.ServesRuntime) (h : Host) :
    ∃ k i loaded, (e.loadPlugin localRuntimeName h).outcome = .ok k ∧
      (e.loadPlugin localRuntimeName h).engine.instances[k]? = some i ∧
      i.plugin = Host.runtimePlugin ∧
      (e.loadPlugin localRuntimeName h).state =
        { h with runtime := { h.runtime with loaded } } := by
  have opened : e.openPlugin localRuntimeName = .ok Host.runtimePlugin := by
    rw [Engine.openPlugin, served.builtin]
  rw [Engine.loadPlugin]
  cases running : e.running.lookup localRuntimeName with
  | some k =>
    obtain ⟨i, started, plugin⟩ := served.running k (Engine.mem_of_lookup running)
    exact ⟨k, i, h.runtime.loaded, rfl, started, plugin, rfl⟩
  | none =>
    rw [opened]
    exact ⟨e.instances.length, ⟨Host.runtimePlugin, 0⟩, true, rfl,
      by simp [Host.runtimePlugin, Host.markRuntime, Engine.addInstance], rfl, rfl⟩

end RuntimeBridge
