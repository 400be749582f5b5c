/-
# The lifecycle of plugins

Four operations start a plugin, two stop plugins, and the plugin that a name stands for may be replaced
while another one runs under it.  This file settles what becomes of every plugin in all that, whatever
fails on the way: to open a plugin, to start it, to resolve something through it, or to stop it.

The calls that start and stop plugins are kept beside the engine, in order; a plugin that writes them
down in the process writes down the same (`Lifecycle.written`).  Under every name they take turns, and the
plugin that runs under the name is the one whose stop is due.  Every step keeps it so (`Tracked.step`),
and all else that is said of plugins is read off the turns.

Main statement: `plugin_lifecycle`, over whole runs.
-/
import RuntimeBridge.Proofs.Engine.LiveCounts
import RuntimeBridge.Proofs.Engine.Turns
namespace RuntimeBridge

variable {σ : Type}

/-! ## 1. Runs of an engine -/

namespace Engine

/-- The plugin that runs under a name. -/
def up? (e : Engine σ) (name : String) : Option (Plugin σ) :=
  (e.instance? name).map fun x => x.2.plugin

/-- The calls that loading a plugin makes. -/
def startCalls (e : Engine σ) (name : String) (s : σ) : List (PluginCall σ) :=
  if e.isLoaded name then [] else
    match e.openPlugin name with
    | .error _ => []
    | .ok p => [p.startCall s]

/-- The calls that freeing a plugin makes. -/
def stopCalls (e : Engine σ) (name : String) (s : σ) : List (PluginCall σ) :=
  match e.up? name with
  | none => []
  | some p => [p.stopCall s]

/-- The calls that freeing the plugins of some names makes. -/
def stopAllCalls (e : Engine σ) : List String → σ → List (PluginCall σ)
  | [], _ => []
  | name :: names, s =>
    let r := e.freePlugin name s
    e.stopCalls name s ++ r.engine.stopAllCalls names r.state

end Engine

/-- An engine, the state of the process, and the calls that plugins got so far. -/
structure PluginRun (σ : Type) where
  engine : Engine σ
  state : σ
  calls : List (PluginCall σ) := []

/-- What happens to an engine next. -/
inductive PluginOp (σ : Type) where
  | register (p : Plugin σ)
  | load (name : String)
  | loadEntity (thread : Nat) (plugin module path : String) (params retvals : List TypeInfo)
  | loadPoint (plugin module path : String) (params retvals : List TypeInfo)
  | makeCallable (plugin : String) (context : Nat) (params retvals : List TypeInfo)
  | free (name : String)
  | shutdown
  /-- Other files lie where plugins are looked for. -/
  | replaceFiles (files : String → PluginFile σ)

/-- The plugin that an operation starts if need be. -/
def PluginOp.loads? : PluginOp σ → Option String
  | .load name => some name
  | .loadEntity _ plugin _ _ _ _ => some plugin
  | .loadPoint plugin _ _ _ _ => some plugin
  | .makeCallable plugin _ _ _ => some plugin
  | _ => none

namespace PluginRun

/-- An engine in which nothing runs, in a process that has started some plugins before. -/
def begin (config : Config) (files : String → PluginFile σ) (before : Nat) (s : σ) : PluginRun σ where
  engine := { config, files, pluginsLoaded := before }
  state := s

/-- The run after an operation of the engine and the calls that it made. -/
def after {α : Type} (c : PluginRun σ) (r : Stepped σ α) (calls : List (PluginCall σ)) :
    PluginRun σ :=
  ⟨r.engine, r.state, c.calls ++ calls⟩

def step (c : PluginRun σ) : PluginOp σ → PluginRun σ
  | .register p => { c with engine := c.engine.registerBuiltin p }
  | .load name => c.after (c.engine.loadPlugin name c.state) (c.engine.startCalls name c.state)
  | .loadEntity thread plugin module path params retvals =>
    c.after (EntityHandle.load c.engine thread plugin module path params retvals c.state)
      (c.engine.startCalls plugin c.state)
  | .loadPoint plugin module path params retvals =>
    c.after (c.engine.loadCallPoint plugin module path params retvals c.state)
      (c.engine.startCalls plugin c.state)
  | .makeCallable plugin context params retvals =>
    c.after (c.engine.makeCallable plugin context params retvals c.state)
      (c.engine.startCalls plugin c.state)
  | .free name => c.after (c.engine.freePlugin name c.state) (c.engine.stopCalls name c.state)
  | .shutdown =>
    let r := c.engine.shutdown c.state
    ⟨r.1, r.2, c.calls ++ c.engine.stopAllCalls c.engine.loadedPlugins c.state⟩
  | .replaceFiles files => { c with engine := { c.engine with files } }

def run (c : PluginRun σ) (ops : List (PluginOp σ)) : PluginRun σ :=
  ops.foldl step c

end PluginRun

/-- What holds of plugins after any run that began in a state of the process, with some plugins started
before. -/
structure Lifecycle (s : σ) (before : Nat) (c : PluginRun σ) : Prop where
  /-- The calls are those that brought the process to its state; beyond them, only plugins that ran were
  asked for things. -/
  went : Went s c.calls c.state
  /-- Plugins that write down in the process when they are started and stopped have written down these
  calls, each of them and no others. -/
  written : ∀ {α : Type} (log : σ → List α) (entry : PluginCall σ → α),
    (∀ x ∈ c.calls, x.plugin.WritesCalls log entry) → log c.state = log s ++ c.calls.map entry
  /-- The starts that succeeded and the stops of every plugin alternate, a start first. -/
  alternate : ∀ p, Alternate .start (actsOf p c.calls)
  /-- Under every name, each start is followed by a stop of the very plugin that was started. -/
  turns : ∀ name, ∃ up, Turns none (callsUnder name c.calls) up
  /-- A name is loaded when the plugin last started under it was not stopped since. -/
  loaded_iff : ∀ name, c.engine.isLoaded name = true ↔ ∃ p, LastUp c.calls name p
  /-- Nothing changes in the engine when a plugin cannot be opened or started. -/
  refused : ∀ op name err, op.loads? = some name →
    (c.engine.loadPlugin name c.state).outcome = .error err → (c.step op).engine = c.engine
  /-- Freeing stops the plugin that was started, and the name is no longer loaded, even if that
  fails. -/
  freed : ∀ name p, LastUp c.calls name p →
    (c.step (.free name)).state = (p.stop c.state).2 ∧
      (c.step (.free name)).calls = c.calls ++ [p.stopCall c.state] ∧
      (c.step (.free name)).engine.isLoaded name = false
  /-- As many plugins were started as starts succeeded. -/
  counted : c.engine.pluginsLoaded = before + c.calls.countP PluginCall.starts
  /-- Loading a loaded plugin changes nothing. -/
  again : ∀ name, c.engine.isLoaded name = true → c.step (.load name) = c
  /-- Shutting down leaves nothing loaded; each plugin that ran is stopped once, and no other. -/
  shutdown : (c.step .shutdown).engine.loadedPlugins = [] ∧ c.engine.loadedPlugins.Nodup ∧
    ∃ stops, (c.step .shutdown).calls = c.calls ++ stops ∧
      (stops.map fun x => x.plugin.name) = c.engine.loadedPlugins ∧
      ∀ x ∈ stops, x.act = .stop ∧ LastUp c.calls x.plugin.name x.plugin

/-! ## 2. What the operations of the engine start and stop -/

/-- The plugin of a library has the name that it was looked for under. -/
theorem Library.plugin_name {lib : Library σ} {name : String} {bindsThread : Bool} {p : Plugin σ}
    (h : lib.plugin name bindsThread = .ok p) : p.name = name := by
  simp only [Library.plugin, bind, Except.bind] at h
  iterate 4
    split at h
    · cases h
  cases h
  rfl

namespace Engine

/-- Every name that is loaded stands for an instance. -/
def Backed (e : Engine σ) : Prop :=
  ∀ r ∈ e.running, r.2 < e.instances.length

theorem isLoaded_eq {e : Engine σ} (backed : e.Backed) (name : String) :
    e.isLoaded name = (e.up? name).isSome := by
  cases running : e.running.lookup name with
  | none => simp [isLoaded, up?, instance?, running]
  | some k =>
    have started : k < e.instances.length := backed _ (mem_of_lookup running)
    simp [isLoaded, up?, instance?, running, started]

theorem isLoaded_iff_mem (e : Engine σ) {name : String} :
    e.isLoaded name = true ↔ name ∈ e.loadedPlugins := by
  constructor
  · intro loaded
    obtain ⟨k, running⟩ := Option.isSome_iff_exists.mp loaded
    exact List.mem_map.mpr ⟨_, mem_of_lookup running, rfl⟩
  · intro listed
    obtain ⟨r, hr, rfl⟩ := List.mem_map.mp listed
    refine Option.isSome_iff_ne_none.mpr fun absent => ?_
    simpa using List.lookup_eq_none_iff.mp absent r hr

theorem up?_eq_bind (e : Engine σ) (name : String) :
    e.up? name = (e.running.lookup name).bind fun k => e.instances[k]?.map PluginInstance.plugin := by
  simp [up?, instance?, Option.map_bind, Function.comp_def]

@[simp]
theorem up?_adjustLive (e : Engine σ) (k : Nat) (f : UInt64 → UInt64) (name : String) :
    (e.adjustLive k f).up? name = e.up? name := by
  simp only [up?_eq_bind, running_adjustLive]
  congr 1
  funext j
  simp only [adjustLive, List.getElem?_modify]
  cases e.instances[j]? with
  | none => rfl
  | some i => by_cases here : k = j <;> simp [here]

theorem up?_addInstance {e : Engine σ} (backed : e.Backed) {name : String} (p : Plugin σ)
    (fresh : e.running.lookup name = none) (other : String) :
    (e.addInstance name p).up? other = if other = name then some p else e.up? other := by
  simp only [up?, instance?, addInstance, lookup_insertName _ _ _ _ fresh]
  split
  · simp
  · cases running : e.running.lookup other with
    | none => rfl
    | some k =>
      have started : k < e.instances.length := backed _ (mem_of_lookup running)
      simp [List.getElem?_append_left started]

theorem lookup_filter_ne (name other : String) (running : List (String × Nat)) :
    (running.filter fun r => r.1 != name).lookup other =
      if other = name then none else running.lookup other := by
  induction running with
  | nil => simp
  | cons r rest ih =>
    obtain ⟨n, k⟩ := r
    by_cases dropped : n = name
    · subst dropped
      by_cases here : other = n
      · simpa [here] using ih
      · have : (other == n) = false := by simpa using here
        simpa [here, List.lookup_cons, this] using ih
    · have kept : (n != name) = true := by simpa using dropped
      rw [List.filter_cons_of_pos (by exact kept), List.lookup_cons, List.lookup_cons, ih]
      by_cases here : other = n
      · simp [here, dropped]
      · have : (other == n) = false := by simpa using here
        simp [this]

theorem freePlugin_eq (e : Engine σ) (name : String) (s : σ) :
    e.freePlugin name s = match e.up? name with
      | none => ⟨.error (.pluginNotLoaded name), e, s⟩
      | some p =>
        ⟨(p.stop s).1, { e with running := e.running.filter fun r => r.1 != name }, (p.stop s).2⟩ := by
  simp only [freePlugin, up?]
  cases e.instance? name <;> rfl

theorem up?_freePlugin (e : Engine σ) (name : String) (s : σ) (other : String) :
    (e.freePlugin name s).engine.up? other = if other = name then none else e.up? other := by
  rw [freePlugin_eq]
  split
  case h_1 absent =>
    split
    case isTrue here => rw [here, absent]
    case isFalse => rfl
  case h_2 p running =>
    simp only [up?, instance?, lookup_filter_ne]
    split <;> rfl

theorem running_freePlugin {e : Engine σ} (backed : e.Backed) (name : String) (s : σ) :
    (e.freePlugin name s).engine.running = e.running.filter fun r => r.1 != name := by
  rw [freePlugin_eq]
  split
  case h_2 => rfl
  case h_1 absent =>
    have unloaded : e.running.lookup name = none := by
      simpa [isLoaded, absent] using isLoaded_eq backed name
    refine (List.filter_eq_self.mpr fun r hr => ?_).symm
    have other := List.lookup_eq_none_iff.mp unloaded r hr
    simpa [bne, BEq.comm] using other

theorem keys_insertName (name : String) (k : Nat) (running : List (String × Nat)) :
    ((insertName name k running).map Prod.fst).Perm (name :: running.map Prod.fst) := by
  induction running with
  | nil => exact .refl _
  | cons r rest ih =>
    rw [insertName]
    split
    · exact .refl _
    · exact (ih.cons _).trans (.swap _ _ _)

/-- A plugin that a name stands for has that name, if this holds of the registered ones. -/
theorem openPlugin_name {e : Engine σ} (named : ∀ b ∈ e.builtins, b.2.name = b.1) {name : String}
    {p : Plugin σ} (h : e.openPlugin name = .ok p) : p.name = name := by
  rw [openPlugin] at h
  split at h
  case h_1 q found =>
    cases h
    obtain ⟨before, behind, same, -⟩ := List.lookup_eq_some_iff.mp found
    exact named (name, p) (by simp [same])
  case h_2 =>
    split at h
    case h_1 => cases h
    case h_2 path =>
      split at h
      case h_1 => cases h
      case h_2 => cases h
      case h_3 lib => exact Library.plugin_name h

/-- How loading a plugin goes, and the calls that it makes. -/
inductive Loading (e : Engine σ) (name : String) (s : σ) :
    Stepped σ Nat → List (PluginCall σ) → Prop
  | running (k : Nat) (h : e.running.lookup name = some k) : Loading e name s ⟨.ok k, e, s⟩ []
  | unopened (err : BridgeError) (fresh : e.running.lookup name = none)
    (h : e.openPlugin name = .error err) : Loading e name s ⟨.error err, e, s⟩ []
  | unstarted (p : Plugin σ) (err : BridgeError) (fresh : e.running.lookup name = none)
    (opened : e.openPlugin name = .ok p) (h : (p.start s).1 = .error err) :
    Loading e name s ⟨.error err, e, (p.start s).2⟩ [p.startCall s]
  | started (p : Plugin σ) (fresh : e.running.lookup name = none)
    (opened : e.openPlugin name = .ok p) (h : (p.start s).1 = .ok ()) :
    Loading e name s ⟨.ok e.instances.length, e.addInstance name p, (p.start s).2⟩ [p.startCall s]

theorem loadPlugin_loading (e : Engine σ) (name : String) (s : σ) :
    e.Loading name s (e.loadPlugin name s) (e.startCalls name s) := by
  rw [loadPlugin]
  split
  case h_1 k running =>
    have calls : e.startCalls name s = [] := by simp [startCalls, isLoaded, running]
    rw [calls]
    exact .running k running
  case h_2 fresh =>
    split
    case h_1 err opened =>
      have calls : e.startCalls name s = [] := by simp [startCalls, isLoaded, fresh, opened]
      rw [calls]
      exact .unopened err fresh opened
    case h_2 p opened =>
      have calls : e.startCalls name s = [p.startCall s] := by
        simp [startCalls, isLoaded, fresh, opened]
      rw [calls]
      split
      case h_1 err t result =>
        have started := Loading.unstarted p err fresh opened (by rw [result])
        rwa [result] at started
      case h_2 t result =>
        have started := Loading.started p fresh opened (by rw [result])
        rwa [result] at started

/-- The instance that loading gives is the one that runs under the name afterwards. -/
theorem up?_loadPlugin (e : Engine σ) {name : String} {s : σ} {k : Nat} {i : PluginInstance σ}
    (loaded : (e.loadPlugin name s).outcome = .ok k)
    (found : (e.loadPlugin name s).engine.instances[k]? = some i) :
    (e.loadPlugin name s).engine.up? name = some i.plugin := by
  have loading := e.loadPlugin_loading name s
  generalize e.loadPlugin name s = r, e.startCalls name s = calls at loading loaded found
  cases loading with
  | running j running =>
    cases loaded
    simp_all [up?_eq_bind]
  | unopened => cases loaded
  | unstarted => cases loaded
  | started p fresh =>
    cases loaded
    have same : ({ plugin := p } : PluginInstance σ) = i := by simpa [addInstance] using found
    simp [up?, instance?, addInstance, lookup_insertName _ _ _ _ fresh, ← same]

/-- What an operation that loads a plugin does beyond that: the plugin that runs under the name may be
asked for something, and at most the count of an instance changes. -/
structure Beyond (name : String) (r : Stepped σ Nat) (e : Engine σ) (s : σ) : Prop where
  asked : s = r.state ∨ ∃ p, r.engine.up? name = some p ∧ Asked p r.state s
  engine : e = r.engine ∨ ∃ k, e = r.engine.adjustLive k (· + 1)
  refused : ∀ err, r.outcome = .error err → e = r.engine

theorem resolveEntity_beyond (e : Engine σ) (plugin module path : String)
    (params retvals : List TypeInfo) (s : σ) :
    Beyond plugin (e.loadPlugin plugin s)
      (e.resolveEntity plugin module path params retvals s).engine
      (e.resolveEntity plugin module path params retvals s).state := by
  have up := @up?_loadPlugin _ e plugin s
  simp only [resolveEntity]
  generalize e.loadPlugin plugin s = r at up
  split
  case h_1 err outcome => exact ⟨.inl rfl, .inl rfl, fun _ _ => rfl⟩
  case h_2 k outcome =>
    split
    case h_1 => exact ⟨.inl rfl, .inl rfl, fun _ _ => rfl⟩
    case h_2 i instance_k =>
      have runs := up outcome instance_k
      have asked := Asked.entity (p := i.plugin) module path params retvals r.state
      split
      case h_1 answer =>
        exact ⟨.inr ⟨_, runs, by rwa [answer] at asked⟩, .inl rfl, fun _ _ => rfl⟩
      case h_2 answer =>
        exact ⟨.inr ⟨_, runs, by rwa [answer] at asked⟩, .inl rfl, fun _ _ => rfl⟩
      case h_3 answer =>
        exact ⟨.inr ⟨_, by simpa using runs, by rwa [answer] at asked⟩, .inr ⟨k, rfl⟩,
          fun _ h => by cases outcome.symm.trans h⟩

theorem makeCallable_beyond (e : Engine σ) (plugin : String) (context : Nat)
    (params retvals : List TypeInfo) (s : σ) :
    Beyond plugin (e.loadPlugin plugin s) (e.makeCallable plugin context params retvals s).engine
      (e.makeCallable plugin context params retvals s).state := by
  have up := @up?_loadPlugin _ e plugin s
  simp only [makeCallable]
  generalize e.loadPlugin plugin s = r at up
  split
  case h_1 err outcome => exact ⟨.inl rfl, .inl rfl, fun _ _ => rfl⟩
  case h_2 k outcome =>
    split
    case h_1 => exact ⟨.inl rfl, .inl rfl, fun _ _ => rfl⟩
    case h_2 i instance_k =>
      have runs := up outcome instance_k
      have asked := Asked.callable (p := i.plugin) context params retvals r.state
      split
      case h_1 answer =>
        exact ⟨.inr ⟨_, runs, by rwa [answer] at asked⟩, .inl rfl, fun _ _ => rfl⟩
      case h_2 answer =>
        exact ⟨.inr ⟨_, runs, by rwa [answer] at asked⟩, .inr ⟨k, rfl⟩,
          fun _ h => by cases outcome.symm.trans h⟩

end Engine

theorem EntityHandle.load_beyond (e : Engine σ) (thread : Nat) (plugin module path : String)
    (params retvals : List TypeInfo) (s : σ) :
    Engine.Beyond plugin (e.loadPlugin plugin s) (load e thread plugin module path params retvals s).engine
      (load e thread plugin module path params retvals s).state := by
  have beyond := e.resolveEntity_beyond plugin module path params retvals s
  simp only [load]
  cases (e.resolveEntity plugin module path params retvals s).outcome <;> exact beyond

namespace PluginRun

variable {c : PluginRun σ}

/-- An operation whose plugin cannot be loaded leaves the engine alone. -/
theorem step_refused {op : PluginOp σ} {name : String} {err : BridgeError}
    (loads : op.loads? = some name)
    (failed : (c.engine.loadPlugin name c.state).outcome = .error err) :
    (c.step op).engine = c.engine := by
  have alone : (c.engine.loadPlugin name c.state).engine = c.engine := by
    have loading := c.engine.loadPlugin_loading name c.state
    generalize c.engine.loadPlugin name c.state = r, c.engine.startCalls name c.state = calls
      at loading failed
    cases loading with
    | running => cases failed
    | unopened => rfl
    | unstarted => rfl
    | started => cases failed
  cases op with
  | load plugin =>
    cases loads
    exact alone
  | loadEntity thread plugin module path params retvals =>
    cases loads
    exact ((EntityHandle.load_beyond ..).refused _ failed).trans alone
  | loadPoint plugin module path params retvals =>
    cases loads
    exact ((c.engine.resolveEntity_beyond ..).refused _ failed).trans alone
  | makeCallable plugin context params retvals =>
    cases loads
    exact ((c.engine.makeCallable_beyond ..).refused _ failed).trans alone
  | register | free | shutdown | replaceFiles => cases loads

/-- Loading a loaded plugin changes nothing. -/
theorem step_again {name : String} (loaded : c.engine.isLoaded name = true) :
    c.step (.load name) = c := by
  have loading := c.engine.loadPlugin_loading name c.state
  simp only [PluginRun.step]
  generalize c.engine.loadPlugin name c.state = r, c.engine.startCalls name c.state = calls
    at loading
  cases loading with
  | running => simp [PluginRun.after]
  | unopened err fresh => simp [Engine.isLoaded, fresh] at loaded
  | unstarted p err fresh => simp [Engine.isLoaded, fresh] at loaded
  | started p fresh => simp [Engine.isLoaded, fresh] at loaded

end PluginRun

/-! ## 3. One step -/

/-- What every step keeps. -/
structure Tracked (s : σ) (before : Nat) (c : PluginRun σ) : Prop where
  went : Went s c.calls c.state
  turns : ∀ name, Turns none (callsUnder name c.calls) (c.engine.up? name)
  named : ∀ b ∈ c.engine.builtins, b.2.name = b.1
  distinct : c.engine.loadedPlugins.Nodup
  backed : c.engine.Backed
  counted : c.engine.pluginsLoaded = before + c.calls.countP PluginCall.starts

namespace Tracked

variable {s : σ} {before : Nat} {c : PluginRun σ}

theorem begin (config : Config) (files : String → PluginFile σ) (before : Nat) (s : σ) :
    Tracked s before (.begin config files before s) where
  went := .still
  turns := fun _ => .none _
  named := nofun
  distinct := List.nodup_nil
  backed := nofun
  counted := rfl

/-- A plugin runs under its own name. -/
theorem name_eq (h : Tracked s before c) {name : String} {p : Plugin σ}
    (up : c.engine.up? name = some p) : p.name = name :=
  ((lastUp_iff (h.turns name) p).mpr up).1

theorem register (h : Tracked s before c) (p : Plugin σ) :
    Tracked s before (c.step (.register p)) where
  went := h.went
  turns := h.turns
  named := by
    intro b hb
    rcases List.mem_cons.mp hb with rfl | hb
    · rfl
    · exact h.named b (List.mem_filter.mp hb).1
  distinct := h.distinct
  backed := h.backed
  counted := h.counted

theorem replaceFiles (h : Tracked s before c) (files : String → PluginFile σ) :
    Tracked s before (c.step (.replaceFiles files)) :=
  ⟨h.went, h.turns, h.named, h.distinct, h.backed, h.counted⟩

/-- A plugin that fails to start is as if it had not been asked to. -/
theorem unstarted (h : Tracked s before c) {p : Plugin σ} {err : BridgeError}
    (failed : (p.start c.state).1 = .error err) :
    Tracked s before ⟨c.engine, (p.start c.state).2, c.calls ++ [p.startCall c.state]⟩ where
  went := h.went.start p
  turns := by
    intro name
    have uncounted : (p.startCall c.state).counts = false := by
      simp [PluginCall.counts, PluginCall.starts, Plugin.startCall, failed, Except.isOk, Except.toBool]
    simpa [callsUnder_concat, uncounted] using h.turns name
  named := h.named
  distinct := h.distinct
  backed := h.backed
  counted := by
    simpa [List.countP_append, PluginCall.starts, Plugin.startCall, failed, Except.isOk,
      Except.toBool] using h.counted

/-- A plugin that starts takes the turn of its name. -/
theorem started (h : Tracked s before c) {p : Plugin σ} {name : String}
    (fresh : c.engine.running.lookup name = none) (named : p.name = name)
    (result : (p.start c.state).1 = .ok ()) :
    Tracked s before
      ⟨c.engine.addInstance name p, (p.start c.state).2, c.calls ++ [p.startCall c.state]⟩ := by
  have call : p.startCall c.state = ⟨p, .start, true⟩ := by
    simp [Plugin.startCall, result, Except.isOk, Except.toBool]
  refine ⟨h.went.start p, ?_, h.named, ?_, ?_, ?_⟩
  · intro other
    have turns := h.turns other
    simp only [call, callsUnder_concat, Engine.up?_addInstance h.backed p fresh, named]
    by_cases here : other = name
    · subst here
      have idle : c.engine.up? other = none := by simp [Engine.up?_eq_bind, fresh]
      rw [idle] at turns
      simpa [PluginCall.counts, PluginCall.starts] using turns.append (.start p (.none _))
    · simpa [here, Ne.symm here] using turns
  · have unlisted : name ∉ c.engine.loadedPlugins := by
      simp [← Engine.isLoaded_iff_mem, Engine.isLoaded, fresh]
    exact (Engine.keys_insertName name _ _).nodup_iff.mpr (List.nodup_cons.mpr ⟨unlisted, h.distinct⟩)
  · exact (Engine.Loaded.started p fresh).running_lt h.backed
  · simp [Engine.addInstance, call, h.counted, PluginCall.starts, Nat.add_assoc]

/-- **Loading** keeps plugins tracked. -/
theorem load (h : Tracked s before c) (name : String) :
    Tracked s before (c.step (.load name)) := by
  have loading := c.engine.loadPlugin_loading name c.state
  simp only [PluginRun.step]
  generalize c.engine.loadPlugin name c.state = r, c.engine.startCalls name c.state = calls
    at loading
  cases loading with
  | running k running => simpa [PluginRun.after] using h
  | unopened err fresh failed => simpa [PluginRun.after] using h
  | unstarted p err fresh opened failed => exact h.unstarted failed
  | started p fresh opened result =>
    exact h.started fresh (Engine.openPlugin_name h.named opened) result

/-- A plugin that runs may be asked for things. -/
theorem ask (h : Tracked s before c) {name : String} {p : Plugin σ} {t : σ}
    (up : c.engine.up? name = some p) (asked : Asked p c.state t) :
    Tracked s before { c with state := t } := by
  have runs : LastUp c.calls p.name p := by
    rw [h.name_eq up]
    exact (lastUp_iff (h.turns name) p).mpr up
  exact { h with went := h.went.ask p runs asked }

theorem adjustLive (h : Tracked s before c) (k : Nat) (f : UInt64 → UInt64) :
    Tracked s before { c with engine := c.engine.adjustLive k f } where
  went := h.went
  turns := fun name => by simpa using h.turns name
  named := h.named
  distinct := h.distinct
  backed := by simpa [Engine.Backed] using h.backed
  counted := h.counted

/-- Asking a plugin that is loaded for this keeps plugins tracked. -/
theorem beyond {α : Type} (h : Tracked s before c) {name : String} {r : Stepped σ α}
    (beyond : Engine.Beyond name (c.engine.loadPlugin name c.state) r.engine r.state) :
    Tracked s before (c.after r (c.engine.startCalls name c.state)) := by
  have asked : Tracked s before { c.step (.load name) with state := r.state } := by
    rcases beyond.asked with same | ⟨p, up, asked⟩
    · rw [same]
      exact h.load name
    · exact (h.load name).ask up asked
  rcases beyond.engine with same | ⟨k, same⟩
  · rw [PluginRun.after, same]
    exact asked
  · rw [PluginRun.after, same]
    exact asked.adjustLive k (· + 1)

/-- **Freeing** keeps plugins tracked. -/
theorem free (h : Tracked s before c) (name : String) :
    Tracked s before (c.step (.free name)) := by
  have running := Engine.running_freePlugin h.backed name c.state
  have instances := (c.engine.freePlugin_instances name c.state).1
  have up := c.engine.up?_freePlugin name c.state
  have eq := c.engine.freePlugin_eq name c.state
  cases here : c.engine.up? name with
  | none =>
    rw [here] at eq
    simpa [PluginRun.step, PluginRun.after, eq, Engine.stopCalls, here] using h
  | some p =>
    have calls : c.engine.stopCalls name c.state = [p.stopCall c.state] := by
      simp [Engine.stopCalls, here]
    simp only [PluginRun.step, PluginRun.after, calls]
    refine ⟨?_, ?_, ?_, ?_, ?_, ?_⟩
    · rw [eq, here]
      exact h.went.stop p
    · intro other
      have turns := h.turns other
      simp only [up, callsUnder_concat]
      by_cases same : other = name
      · subst same
        rw [here] at turns
        simpa [PluginCall.counts, Plugin.stopCall, h.name_eq here] using
          turns.append (.stop p (p.stop c.state).1.isOk (.none _))
      · simpa [Plugin.stopCall, h.name_eq here, same, Ne.symm same] using turns
    · rw [eq, here]
      exact h.named
    · simp only [Engine.loadedPlugins, running]
      exact h.distinct.sublist (List.filter_sublist.map _)
    · intro r hr
      rw [instances]
      rw [running] at hr
      exact h.backed r (List.mem_filter.mp hr).1
    · rw [eq, here]
      simpa [List.countP_append, PluginCall.starts, Plugin.stopCall] using h.counted

/-! ## 4. Shutting down -/

end Tracked

/-- Shutting down frees what is loaded, one after the other. -/
theorem PluginRun.step_shutdown (c : PluginRun σ) :
    c.step .shutdown = c.run (c.engine.loadedPlugins.map .free) := by
  have freed : ∀ (names : List String) (c : PluginRun σ),
      c.run (names.map .free) =
        ⟨(c.engine.freePlugins names c.state).1, (c.engine.freePlugins names c.state).2,
          c.calls ++ c.engine.stopAllCalls names c.state⟩ := by
    intro names
    induction names with
    | nil => intro c; simp [PluginRun.run, Engine.freePlugins, Engine.stopAllCalls]
    | cons name names ih =>
      intro c
      refine (ih (c.step (.free name))).trans ?_
      simp [PluginRun.step, PluginRun.after, Engine.freePlugins, Engine.stopAllCalls]
  exact (freed _ c).symm

namespace Tracked

variable {s : σ} {before : Nat} {c : PluginRun σ}

theorem freeAll (h : Tracked s before c) (names : List String) :
    Tracked s before (c.run (names.map .free)) := by
  induction names generalizing c with
  | nil => exact h
  | cons name names ih => exact ih (h.free name)

theorem shutdown (h : Tracked s before c) : Tracked s before (c.step .shutdown) := by
  rw [c.step_shutdown]
  exact h.freeAll _

/-- Freeing the plugins of some names takes those names away. -/
theorem running_freeAll (h : Tracked s before c) (names : List String) :
    (c.run (names.map .free)).engine.running =
      c.engine.running.filter fun r => !names.contains r.1 := by
  induction names generalizing c with
  | nil => exact (List.filter_eq_self.mpr fun _ _ => rfl).symm
  | cons name names ih =>
    refine (ih (h.free name)).trans ?_
    simp only [PluginRun.step, PluginRun.after, Engine.running_freePlugin h.backed,
      List.filter_filter]
    congr 1
    funext r
    by_cases here : r.1 = name <;> simp [here]

/-- Freeing the plugins of some names stops what runs under them, each once. -/
theorem calls_freeAll (h : Tracked s before c) {names : List String} (distinct : names.Nodup)
    (loaded : ∀ name ∈ names, c.engine.isLoaded name = true) :
    ∃ stops, (c.run (names.map .free)).calls = c.calls ++ stops ∧
      (stops.map fun x => x.plugin.name) = names ∧
      ∀ x ∈ stops, x.act = .stop ∧ c.engine.up? x.plugin.name = some x.plugin := by
  induction names generalizing c with
  | nil => exact ⟨[], by simp [PluginRun.run], rfl, nofun⟩
  | cons name names ih =>
    obtain ⟨fresh, distinct⟩ := List.nodup_cons.mp distinct
    have freed := h.free name
    have up : ∀ other, (c.step (.free name)).engine.up? other =
        if other = name then none else c.engine.up? other := c.engine.up?_freePlugin name c.state
    have other_loaded : ∀ other ∈ names, (c.step (.free name)).engine.isLoaded other = true := by
      intro other member
      have different : other ≠ name := fun same => fresh (same ▸ member)
      rw [Engine.isLoaded_eq freed.backed, up, if_neg different, ← Engine.isLoaded_eq h.backed]
      exact loaded other (List.mem_cons_of_mem _ member)
    obtain ⟨stops, calls, stopped, each⟩ := ih freed distinct other_loaded
    have here := loaded name List.mem_cons_self
    rw [Engine.isLoaded_eq h.backed, Option.isSome_iff_exists] at here
    obtain ⟨p, here⟩ := here
    refine ⟨p.stopCall c.state :: stops, ?_, ?_, ?_⟩
    · refine calls.trans ?_
      simp [PluginRun.step, PluginRun.after, Engine.stopCalls, here]
    · simp [Plugin.stopCall, h.name_eq here, stopped]
    · intro x hx
      rcases List.mem_cons.mp hx with rfl | hx
      · refine ⟨rfl, ?_⟩
        simp only [Plugin.stopCall]
        rw [h.name_eq here, here]
      · obtain ⟨act, running⟩ := each x hx
        rw [up] at running
        split at running
        case isTrue => cases running
        case isFalse => exact ⟨act, running⟩

/-- **Every step keeps plugins tracked.** -/
theorem step (h : Tracked s before c) (op : PluginOp σ) : Tracked s before (c.step op) := by
  cases op with
  | register p => exact h.register p
  | load name => exact h.load name
  | loadEntity thread plugin module path params retvals =>
    exact h.beyond (EntityHandle.load_beyond ..)
  | loadPoint plugin module path params retvals =>
    exact h.beyond (c.engine.resolveEntity_beyond ..)
  | makeCallable plugin context params retvals =>
    exact h.beyond (c.engine.makeCallable_beyond ..)
  | free name => exact h.free name
  | shutdown => exact h.shutdown
  | replaceFiles files => exact h.replaceFiles files

theorem run (h : Tracked s before c) (ops : List (PluginOp σ)) : Tracked s before (c.run ops) := by
  induction ops generalizing c with
  | nil => exact h
  | cons op ops ih => exact ih (h.step op)

/-! ## 5. Whole runs -/

/-- A name is loaded when the plugin last started under it was not stopped since. -/
theorem loaded_iff (h : Tracked s before c) (name : String) :
    c.engine.isLoaded name = true ↔ ∃ p, LastUp c.calls name p := by
  rw [Engine.isLoaded_eq h.backed, Option.isSome_iff_exists]
  exact exists_congr fun p => (lastUp_iff (h.turns name) p).symm

theorem freed (h : Tracked s before c) {name : String} {p : Plugin σ}
    (last : LastUp c.calls name p) :
    (c.step (.free name)).state = (p.stop c.state).2 ∧
      (c.step (.free name)).calls = c.calls ++ [p.stopCall c.state] ∧
      (c.step (.free name)).engine.isLoaded name = false := by
  have up := (lastUp_iff (h.turns name) p).mp last
  refine ⟨?_, ?_, ?_⟩
  · simp [PluginRun.step, PluginRun.after, Engine.freePlugin_eq, up]
  · simp [PluginRun.step, PluginRun.after, Engine.stopCalls, up]
  · rw [Engine.isLoaded_eq (h.free name).backed]
    simp [PluginRun.step, PluginRun.after, Engine.up?_freePlugin]

theorem shut (h : Tracked s before c) :
    (c.step .shutdown).engine.loadedPlugins = [] ∧
      ∃ stops, (c.step .shutdown).calls = c.calls ++ stops ∧
        (stops.map fun x => x.plugin.name) = c.engine.loadedPlugins ∧
        ∀ x ∈ stops, x.act = .stop ∧ LastUp c.calls x.plugin.name x.plugin := by
  rw [c.step_shutdown]
  constructor
  · rw [Engine.loadedPlugins, h.running_freeAll, List.map_eq_nil_iff, List.filter_eq_nil_iff]
    intro r hr
    have listed : r.1 ∈ c.engine.loadedPlugins := List.mem_map_of_mem hr
    simpa using listed
  · have loaded : ∀ name ∈ c.engine.loadedPlugins, c.engine.isLoaded name = true :=
      fun name => c.engine.isLoaded_iff_mem.mpr
    obtain ⟨stops, calls, names, each⟩ := h.calls_freeAll h.distinct loaded
    refine ⟨stops, calls, names, fun x hx => ?_⟩
    obtain ⟨act, up⟩ := each x hx
    exact ⟨act, (lastUp_iff (h.turns _) _).mpr up⟩

end Tracked

/-- **The lifecycle of plugins.**  Whatever is registered, loaded, resolved, freed and shut down, in any
order, and whatever fails of it, starts and stops of every plugin alternate, and a plugin is loaded
between the two. -/
theorem plugin_lifecycle (config : Config) (files : String → PluginFile σ) (before : Nat) (s : σ)
    (ops : List (PluginOp σ)) :
    Lifecycle s before ((PluginRun.begin config files before s).run ops) := by
  have tracked := (Tracked.begin config files before s).run ops
  exact {
    went := tracked.went
    written := fun log entry => tracked.went.written log entry
    alternate := fun p => by
      rw [← actsOf_callsUnder]
      exact ((tracked.turns p.name).alternate p).2 nofun
    turns := fun name => ⟨_, tracked.turns name⟩
    loaded_iff := tracked.loaded_iff
    refused := fun op name err => PluginRun.step_refused
    freed := fun name p => tracked.freed
    counted := tracked.counted
    again := fun name => PluginRun.step_again
    shutdown := ⟨tracked.shut.1, tracked.distinct, tracked.shut.2⟩ }

end RuntimeBridge
