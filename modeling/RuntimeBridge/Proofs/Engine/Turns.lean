/-
# Turns of plugins

A plugin is started and stopped by calls.  Among the calls of the plugins of one name, those that count
are the starts that succeed and all stops.  They take turns if a plugin is started only when none runs,
and only the plugin that runs is stopped.  Then the calls say which plugin runs: the one that was
started last, unless it was stopped since.

The calls are no invention of whoever lists them: a process that went from one state to another by some
calls bears their marks, if plugins leave any (`Went.written`).

Main statements: `Turns.alternate`, that starts and stops alternate for every plugin, and `lastUp_iff`.
-/
import RuntimeBridge.Engine.Plugin
namespace RuntimeBridge

variable {σ : Type}

/-! ## 1. Calls of plugins -/

inductive PluginAct where
  | start
  | stop
  deriving DecidableEq, Repr

def PluginAct.other : PluginAct → PluginAct
  | .start => .stop
  | .stop => .start

/-- A plugin was started or stopped. -/
structure PluginCall (σ : Type) where
  plugin : Plugin σ
  act : PluginAct
  succeeded : Bool

namespace PluginCall

def starts (x : PluginCall σ) : Bool := x.act == .start && x.succeeded

/-- A start counts if it succeeds, a stop always. -/
def counts (x : PluginCall σ) : Bool := x.starts || x.act == .stop

end PluginCall

namespace Plugin

/-- The call that starts a plugin in a state. -/
def startCall (p : Plugin σ) (s : σ) : PluginCall σ := ⟨p, .start, (p.start s).1.isOk⟩

/-- The call that stops a plugin in a state. -/
def stopCall (p : Plugin σ) (s : σ) : PluginCall σ := ⟨p, .stop, (p.stop s).1.isOk⟩

end Plugin

/-- A plugin was asked for an entity or a call point. -/
inductive Asked (p : Plugin σ) : σ → σ → Prop
  | entity (module path : String) (params retvals : List TypeInfo) (s : σ) :
    Asked p s (p.loadEntity module path params retvals s).2
  | callable (context : Nat) (params retvals : List TypeInfo) (s : σ) :
    Asked p s (p.makeCallable context params retvals s).2

/-- A plugin is the last that was started under a name, and was not stopped since. -/
def LastUp (calls : List (PluginCall σ)) (name : String) (p : Plugin σ) : Prop :=
  p.name = name ∧ ∃ before since, calls = before ++ ⟨p, .start, true⟩ :: since ∧
    (∀ x ∈ since, x.starts → x.plugin.name ≠ name) ∧ ∀ x ∈ since, x.act = .stop → x.plugin ≠ p

/-- The process goes from one state to another while plugins are started and stopped by some calls, in
their order and with the success they had, and plugins that run are asked for things in between.
Nothing else happens to it. -/
inductive Went (s : σ) : List (PluginCall σ) → σ → Prop
  | still : Went s [] s
  | start {calls : List (PluginCall σ)} {t : σ} (h : Went s calls t) (p : Plugin σ) :
    Went s (calls ++ [p.startCall t]) (p.start t).2
  | stop {calls : List (PluginCall σ)} {t : σ} (h : Went s calls t) (p : Plugin σ) :
    Went s (calls ++ [p.stopCall t]) (p.stop t).2
  | ask {calls : List (PluginCall σ)} {t u : σ} (h : Went s calls t) (p : Plugin σ)
    (runs : LastUp calls p.name p) (asked : Asked p t u) : Went s calls u

/-- Acts alternate, one of the two first. -/
def Alternate : PluginAct → List PluginAct → Prop
  | _, [] => True
  | first, act :: acts => act = first ∧ Alternate first.other acts

open Classical in
/-- The starts that succeeded and the stops of one plugin, among some calls. -/
noncomputable def actsOf (p : Plugin σ) (calls : List (PluginCall σ)) : List PluginAct :=
  (calls.filter fun x => x.counts && decide (x.plugin = p)).map PluginCall.act

/-- The starts that succeeded and the stops of the plugins of one name, among some calls. -/
def callsUnder (name : String) (calls : List (PluginCall σ)) : List (PluginCall σ) :=
  calls.filter fun x => x.counts && x.plugin.name == name

/-- Calls that take turns, from the plugin that runs before them to the one that runs after them: a
plugin is started only when none runs, and only the plugin that runs is stopped. -/
inductive Turns : Option (Plugin σ) → List (PluginCall σ) → Option (Plugin σ) → Prop
  | none (up : Option (Plugin σ)) : Turns up [] up
  | start (p : Plugin σ) {calls : List (PluginCall σ)} {up : Option (Plugin σ)}
    (rest : Turns (some p) calls up) : Turns .none (⟨p, .start, true⟩ :: calls) up
  | stop (p : Plugin σ) (succeeded : Bool) {calls : List (PluginCall σ)} {up : Option (Plugin σ)}
    (rest : Turns .none calls up) : Turns (some p) (⟨p, .stop, succeeded⟩ :: calls) up

/-! ## 2. Turns -/

namespace Turns

variable {up mid last : Option (Plugin σ)} {xs ys calls : List (PluginCall σ)} {p : Plugin σ}

theorem append (h : Turns up xs mid) (h' : Turns mid ys last) : Turns up (xs ++ ys) last := by
  induction h with
  | none => exact h'
  | start p rest ih => exact .start p (ih h')
  | stop p succeeded rest ih => exact .stop p succeeded (ih h')

theorem split (h : Turns up (xs ++ ys) last) : ∃ mid, Turns up xs mid ∧ Turns mid ys last := by
  induction xs generalizing up with
  | nil => exact ⟨up, .none up, h⟩
  | cons x xs ih =>
    cases h with
    | start p rest =>
      obtain ⟨mid, before, behind⟩ := ih rest
      exact ⟨mid, .start p before, behind⟩
    | stop p succeeded rest =>
      obtain ⟨mid, before, behind⟩ := ih rest
      exact ⟨mid, .stop p succeeded before, behind⟩

/-- The plugin that runs after some turns ran before them, or was started last. -/
theorem ends (h : Turns up calls last) (running : last = some p) :
    (calls = [] ∧ up = some p) ∨ ∃ before, calls = before ++ [⟨p, .start, true⟩] := by
  induction h with
  | none up => exact .inl ⟨rfl, running⟩
  | @start q rest last h ih =>
    refine .inr ?_
    rcases ih running with ⟨rfl, same⟩ | ⟨before, rfl⟩
    · cases same
      exact ⟨[], rfl⟩
    · exact ⟨⟨q, .start, true⟩ :: before, rfl⟩
  | @stop q succeeded rest last h ih =>
    refine .inr ?_
    rcases ih running with ⟨-, absent⟩ | ⟨before, rfl⟩
    · cases absent
    · exact ⟨⟨q, .stop, succeeded⟩ :: before, rfl⟩

/-- A plugin that was started and not stopped since runs on. -/
theorem runs_on (h : Turns up (xs ++ ⟨p, .start, true⟩ :: ys) last)
    (unstopped : ∀ x ∈ ys, x.act = .stop → x.plugin ≠ p) : last = some p := by
  obtain ⟨mid, -, behind⟩ := h.split
  cases behind with
  | start _ rest =>
    cases rest with
    | none => rfl
    | stop _ succeeded rest => exact absurd rfl (unstopped _ List.mem_cons_self rfl)

/-- **Turns alternate for every plugin**: the one that runs has to be stopped next, any other has to be
started. -/
theorem alternate (h : Turns up calls last) (p : Plugin σ) :
    (up = some p → Alternate .stop (actsOf p calls)) ∧
      (up ≠ some p → Alternate .start (actsOf p calls)) := by
  classical
  induction h with
  | none up => simp [actsOf, Alternate]
  | @start q rest last h ih =>
    by_cases same : q = p
    · subst same
      simpa [actsOf, PluginCall.counts, PluginCall.starts, Alternate, PluginAct.other] using ih.1
    · simpa [actsOf, PluginCall.counts, PluginCall.starts, same] using ih
  | @stop q succeeded rest last h ih =>
    by_cases same : q = p
    · subst same
      simpa [actsOf, PluginCall.counts, PluginCall.starts, Alternate, PluginAct.other] using ih
    · simpa [actsOf, PluginCall.counts, PluginCall.starts, same] using ih

end Turns

theorem actsOf_callsUnder (p : Plugin σ) (calls : List (PluginCall σ)) :
    actsOf p (callsUnder p.name calls) = actsOf p calls := by
  simp only [actsOf, callsUnder, List.filter_filter]
  congr 2
  funext x
  by_cases same : x.plugin = p <;> simp [same]

theorem callsUnder_concat (name : String) (calls : List (PluginCall σ)) (x : PluginCall σ) :
    callsUnder name (calls ++ [x]) =
      if x.counts ∧ x.plugin.name = name then callsUnder name calls ++ [x]
      else callsUnder name calls := by
  by_cases counted : x.counts = true ∧ x.plugin.name = name
  · simp [callsUnder, counted]
  · simp [callsUnder, counted]

/-- **The plugin that runs under a name is the one that was started last and not stopped since.** -/
theorem lastUp_iff {calls : List (PluginCall σ)} {name : String} {up : Option (Plugin σ)}
    (h : Turns none (callsUnder name calls) up) (p : Plugin σ) :
    LastUp calls name p ↔ up = some p := by
  constructor
  · rintro ⟨rfl, before, since, rfl, -, unstopped⟩
    have at_start : callsUnder p.name (before ++ ⟨p, .start, true⟩ :: since) =
        callsUnder p.name before ++ ⟨p, .start, true⟩ :: callsUnder p.name since := by
      simp [callsUnder, PluginCall.counts, PluginCall.starts]
    rw [at_start] at h
    exact h.runs_on fun x hx => unstopped x (List.mem_filter.mp hx).1
  · intro running
    rcases h.ends running with ⟨-, absent⟩ | ⟨before, ends⟩
    · cases absent
    obtain ⟨front, back, rfl, -, started⟩ := List.filter_eq_append_iff.mp ends
    obtain ⟨skipped, since, rfl, -, counted, rest⟩ := List.filter_eq_cons_iff.mp started
    have named : p.name = name := by simpa [PluginCall.counts, PluginCall.starts] using counted
    have uncounted : ∀ x ∈ since, x.counts = true → x.plugin.name ≠ name := by
      simpa using List.filter_eq_nil_iff.mp rest
    refine ⟨named, front ++ skipped, since, by simp, ?_, ?_⟩
    · intro x hx starts
      exact uncounted x hx (by simp [PluginCall.counts, starts])
    · rintro x hx stopped rfl
      exact uncounted x hx (by simp [PluginCall.counts, stopped]) named

/-! ## 3. Plugins that write down their calls -/

namespace Plugin

/-- A plugin writes an entry into a log of the process whenever it is started or stopped, and nothing
when it is asked for something. -/
structure WritesCalls {α : Type} (p : Plugin σ) (log : σ → List α) (entry : PluginCall σ → α) :
    Prop where
  start : ∀ s, log (p.start s).2 = log s ++ [entry (p.startCall s)]
  stop : ∀ s, log (p.stop s).2 = log s ++ [entry (p.stopCall s)]
  asked : ∀ {s t}, Asked p s t → log t = log s

/-- The plugin that does the same and writes down each start and stop, by name and with its success. -/
def writing (p : Plugin σ) : Plugin (σ × List (String × PluginAct × Bool)) where
  name := p.name
  bindsThread := p.bindsThread
  start s := ((p.start s.1).1, (p.start s.1).2, s.2 ++ [(p.name, .start, (p.start s.1).1.isOk)])
  stop s := ((p.stop s.1).1, (p.stop s.1).2, s.2 ++ [(p.name, .stop, (p.stop s.1).1.isOk)])
  loadEntity module path params retvals s :=
    let r := p.loadEntity module path params retvals s.1
    (r.1, r.2, s.2)
  release point s :=
    let r := p.release point s.1
    (r.1, r.2, s.2)
  makeCallable context params retvals s :=
    let r := p.makeCallable context params retvals s.1
    (r.1, r.2, s.2)

theorem writesCalls_writing (p : Plugin σ) :
    p.writing.WritesCalls Prod.snd fun x => (x.plugin.name, x.act, x.succeeded) where
  start _ := rfl
  stop _ := rfl
  asked := by
    intro s t asked
    cases asked <;> rfl

end Plugin

/-- **What plugins wrote down are the calls**, if all that were called write. -/
theorem Went.written {s t : σ} {calls : List (PluginCall σ)} (h : Went s calls t) {α : Type}
    (log : σ → List α) (entry : PluginCall σ → α)
    (writes : ∀ x ∈ calls, x.plugin.WritesCalls log entry) :
    log t = log s ++ calls.map entry := by
  induction h with
  | still => simp
  | @start calls t h p ih =>
    have here : p.WritesCalls log entry :=
      writes (p.startCall t) (List.mem_append_right _ List.mem_cons_self)
    rw [here.start, ih fun x hx => writes x (List.mem_append_left _ hx)]
    simp
  | @stop calls t h p ih =>
    have here : p.WritesCalls log entry :=
      writes (p.stopCall t) (List.mem_append_right _ List.mem_cons_self)
    rw [here.stop, ih fun x hx => writes x (List.mem_append_left _ hx)]
    simp
  | ask h p runs asked ih =>
    -- a plugin that runs was started by one of the calls
    obtain ⟨-, before, since, rfl, -, -⟩ := runs
    rw [(writes _ (List.mem_append_right _ List.mem_cons_self)).asked asked]
    exact ih writes

end RuntimeBridge
