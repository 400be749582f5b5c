/-
# Resolving through C functions

An entity of this process is resolved in the process itself, or through a C function: of the host, with
the name of the runtime, or of the plugin that the process is for others.  The C functions get the names
as C strings, and the requested signature as descriptors with a count of 8 bits.  Names without NUL
arrive as they were, and so do tags; aliases do not count.  The number of dimensions arrives as it was
unless it is negative and the type is no array: such a type arrives with none.

So the C functions resolve what the process resolves for the request in that normal form
(`hostFunction_loads_iff`, `pluginFunction_loads_iff`).  The registered signature has no such form: it
is compared as it was declared.

Main statement: `resolution_agrees_iff`.  Both ways agree just when the function that is named has
neither the requested signature nor that of the normal form, or when the request is in normal form.
-/
import RuntimeBridge.Proofs.Cell.Payload
import RuntimeBridge.Proofs.Host.Serving
import RuntimeBridge.Abi.PluginFunction
namespace RuntimeBridge

/-! ## 1. Names -/

namespace Abi

/-- The C string of a text. -/
def textArgument (s : String) : TextArgument :=
  some (Utf8.encode s)

theorem readText_textArgument (what : String) {s : String} (plain : holdsNul s = false) :
    readText what (textArgument s) = .ok s := by
  have nonzero : ∀ octet ∈ Utf8.encode s, octet ≠ 0 := by
    intro octet listed
    obtain ⟨c, hc, encoded⟩ := List.mem_flatMap.mp listed
    exact Utf8.ne_zero_of_mem_encodeChar ((holdsNul_eq_false_iff s).mp plain c hc) octet encoded
  have whole : (Utf8.encode s).takeWhile (· != 0) = Utf8.encode s :=
    List.takeWhile_eq_self_iff.mpr fun octet listed => by simpa using nonzero octet listed
  simp only [textArgument, readText, whole, Utf8.decode?_encode]

theorem readEntityName_textArgument {module path : String} (plainModule : holdsNul module = false)
    (plainPath : holdsNul path = false) :
    readEntityName (textArgument module) (textArgument path) = .ok (module, path) := by
  simp only [readEntityName, readText_textArgument _ plainModule, readText_textArgument _ plainPath]
  rfl

/-- The names that an entity of this runtime is asked for by. -/
theorem readNames_textArgument {module path : String} (plainModule : holdsNul module = false)
    (plainPath : holdsNul path = false) :
    (do
      let plugin ← readPluginName (textArgument localRuntimeName)
      let (module, entity) ← readEntityName (textArgument module) (textArgument path)
      return (plugin, module, entity) : Except BridgeError (String × String × String)) =
      .ok (localRuntimeName, module, path) := by
  rw [readPluginName, readText_textArgument _ (by decide),
    readEntityName_textArgument plainModule plainPath]
  rfl

end Abi

/-! ## 2. Signatures -/

namespace TypeInfo

/-- What agreement looks at. -/
def form (t : TypeInfo) : TypeTag × Int := (t.tag, t.dimensions)

/-- The type with no dimensions if it is no array and has a negative number of them. -/
def normal (t : TypeInfo) : TypeInfo :=
  { t with dimensions := if !t.tag.isArray && t.dimensions < 0 then 0 else t.dimensions }

/-- Arrays may have any number of dimensions, other types no negative one. -/
def IsNormal (t : TypeInfo) : Prop := t.normal = t

instance (t : TypeInfo) : Decidable t.IsNormal :=
  inferInstanceAs (Decidable (t.normal = t))

theorem isNormal_iff_form {t : TypeInfo} : t.IsNormal ↔ t.normal.form = t.form := by
  cases t
  simp [IsNormal, form, normal]

/-- A type arrives in normal form, up to its alias. -/
theorem form_toInfo_ofInfo (t : TypeInfo) : (TypeDescriptor.ofInfo t).toInfo.form = t.normal.form := rfl

end TypeInfo

/-- Signatures agree if they look the same. -/
theorem signaturesAgree_iff {expected requested : List TypeInfo} :
    signaturesAgree expected requested = true ↔
      expected.map TypeInfo.form = requested.map TypeInfo.form := by
  induction expected generalizing requested with
  | nil => cases requested <;> simp [signaturesAgree]
  | cons t expected ih =>
    cases requested with
    | nil => simp [signaturesAgree]
    | cons u requested =>
      have rest := @ih requested
      simp only [signaturesAgree, Bool.and_eq_true, beq_iff_eq] at rest
      simp only [signaturesAgree, TypeInfo.agrees, TypeInfo.form, List.length_cons, List.zip_cons_cons,
        List.all_cons, List.map_cons, Bool.and_eq_true, beq_iff_eq, List.cons.injEq, Prod.mk.injEq,
        Nat.add_right_cancel_iff, ← rest]
      exact and_left_comm

/-- **A signature arrives** in normal form, up to its aliases. -/
theorem Abi.SignatureArgument.types_ofTypes {types : List TypeInfo}
    (short : types.length ≤ signatureLimit) :
    ∃ s, ofTypes types = .ok s ∧
      s.types.map TypeInfo.form = (types.map TypeInfo.normal).map TypeInfo.form := by
  have packed : TypeDescriptor.pack types = .ok (types.map TypeDescriptor.ofInfo) := by
    simp only [TypeDescriptor.pack, signatureCount?, if_pos short]
  have arrived : (types.map TypeDescriptor.ofInfo |>.map TypeDescriptor.toInfo).map TypeInfo.form =
      (types.map TypeInfo.normal).map TypeInfo.form := by
    simp only [List.map_map]
    exact List.map_congr_left fun t _ => t.form_toInfo_ofInfo
  cases types with
  | nil => exact ⟨_, rfl, rfl⟩
  | cons t rest =>
    refine ⟨_, by rw [ofTypes, packed], ?_⟩
    simp only [SignatureArgument.types, TypeDescriptor.unpack, List.map_cons, List.isEmpty_cons,
      Bool.false_eq_true, if_false, Int.toNat_natCast, List.take_length]
    exact arrived

/-! ## 3. What a request resolves to -/

/-- The function has the requested signature. -/
def NativeFunction.Fits (f : NativeFunction) (params retvals : List TypeInfo) : Prop :=
  f.params.map TypeInfo.form = params.map TypeInfo.form ∧
    f.retvals.map TypeInfo.form = retvals.map TypeInfo.form

instance (f : NativeFunction) (params retvals : List TypeInfo) : Decidable (f.Fits params retvals) :=
  inferInstanceAs (Decidable (_ ∧ _))

theorem NativeFunction.checkSignature_eq_ok_iff (f g : NativeFunction) (params retvals : List TypeInfo) :
    g.checkSignature params retvals = .ok f ↔ g = f ∧ g.Fits params retvals := by
  have fits_iff : (signaturesAgree g.params params && signaturesAgree g.retvals retvals) = true ↔
      g.Fits params retvals := by
    rw [Bool.and_eq_true, signaturesAgree_iff, signaturesAgree_iff]
    rfl
  rw [checkSignature]
  by_cases fits : g.Fits params retvals
  · simp [fits_iff.mpr fits, fits]
  · simp [Bool.eq_false_iff.mpr (mt fits_iff.mp fits), fits]

/-- A function that fits a request and its normal form has a normal signature. -/
theorem NativeFunction.Fits.isNormal {f : NativeFunction} {params retvals : List TypeInfo}
    (fits : f.Fits params retvals)
    (normal : f.Fits (params.map TypeInfo.normal) (retvals.map TypeInfo.normal)) :
    ∀ t ∈ params ++ retvals, t.IsNormal := by
  have alike : ∀ ts : List TypeInfo,
      ts.map TypeInfo.form = (ts.map TypeInfo.normal).map TypeInfo.form → ∀ t ∈ ts, t.IsNormal := by
    intro ts same t listed
    rw [List.map_map] at same
    exact TypeInfo.isNormal_iff_form.mpr (List.map_inj_left.mp same t listed).symm
  intro t listed
  rcases List.mem_append.mp listed with listed | listed
  · exact alike params (fits.1.symm.trans normal.1) t listed
  · exact alike retvals (fits.2.symm.trans normal.2) t listed

/-- A normal request is its own normal form. -/
theorem map_normal_of_isNormal {params retvals : List TypeInfo}
    (normal : ∀ t ∈ params ++ retvals, t.IsNormal) :
    params.map TypeInfo.normal = params ∧ retvals.map TypeInfo.normal = retvals :=
  ⟨(List.map_congr_left fun t listed => normal t (List.mem_append_left _ listed)).trans (List.map_id _),
    (List.map_congr_left fun t listed => normal t (List.mem_append_right _ listed)).trans
      (List.map_id _)⟩

namespace LocalRuntime

/-- The function that a path names in a module. -/
def named? (r : LocalRuntime) (env : Environment) (module path : String) : Option NativeFunction :=
  match EntityPath.parse env path with
  | .error _ => none
  | .ok parsed => parsed.entityName?.bind (r.function? module)

/-- **Resolution** finds the named function if it fits. -/
theorem resolve_eq_ok_iff (r : LocalRuntime) (env : Environment) (module path : String)
    (params retvals : List TypeInfo) (f : NativeFunction) :
    r.resolve env module path params retvals = .ok f ↔
      r.named? env module path = some f ∧ f.Fits params retvals := by
  rw [resolve, named?]
  cases EntityPath.parse env path with
  | error e => simp
  | ok parsed =>
    simp only
    cases parsed.entityName? with
    | none => simp
    | some name =>
      simp only [Option.bind_some]
      cases r.function? module name with
      | none => simp
      | some g =>
        simp only [Option.some.injEq]
        rw [NativeFunction.checkSignature_eq_ok_iff]
        exact and_congr_right fun same => by rw [same]

/-- The request resolves in the process itself. -/
def Resolves (r : LocalRuntime) (env : Environment) (module path : String)
    (params retvals : List TypeInfo) : Prop :=
  ∃ f, r.resolve env module path params retvals = .ok f

theorem resolves_iff {r : LocalRuntime} {env : Environment} {module path : String}
    {params retvals : List TypeInfo} :
    r.Resolves env module path params retvals ↔
      ∃ f, r.named? env module path = some f ∧ f.Fits params retvals :=
  exists_congr (r.resolve_eq_ok_iff env module path params retvals)

/-- Requests that look the same resolve alike. -/
theorem resolves_congr (r : LocalRuntime) (env : Environment) (module path : String)
    {params retvals params' retvals' : List TypeInfo}
    (sameParams : params.map TypeInfo.form = params'.map TypeInfo.form)
    (sameRetvals : retvals.map TypeInfo.form = retvals'.map TypeInfo.form) :
    r.Resolves env module path params retvals ↔ r.Resolves env module path params' retvals' := by
  simp only [resolves_iff, NativeFunction.Fits, sameParams, sameRetvals]

end LocalRuntime

/-! ## 4. The C functions -/

/-- Everything that was found is exported. -/
theorem Host.exportFound_ok_iff (h : Host) (found : Except BridgeError NativeFunction) :
    (∃ p, (h.exportFound found).1 = .ok (some p)) ↔ ∃ f, found = .ok f := by
  cases found <;> simp [exportFound]

/-- The engine of a process resolves through the name of its runtime what the process resolves. -/
theorem Engine.ServesRuntime.loadCallPoint_ok_iff {e : Engine Host} (served : e.ServesRuntime) (h : Host)
    (module path : String) (params retvals : List TypeInfo) :
    (∃ p, (e.loadCallPoint localRuntimeName module path params retvals h).outcome = .ok p) ↔
      h.runtime.Resolves h.environment module path params retvals := by
  obtain ⟨k, i, loaded, outcome, started, plugin, state⟩ := served.started h
  have same : ({ h.runtime with loaded } : LocalRuntime).resolve h.environment module path params
      retvals = h.runtime.resolve h.environment module path params retvals := rfl
  simp only [Engine.loadCallPoint, Engine.resolveEntity, outcome, started, plugin, state,
    Host.runtimePlugin, Host.loadEntity, same, LocalRuntime.Resolves]
  cases h.runtime.resolve h.environment module path params retvals with
  | error e => simp [Host.exportFound, Except.map]
  | ok f => simp [Host.exportFound, Except.map]

namespace Abi

/-- The host function answers with a call point. -/
def HostFunction.Loads (b : Bridge) (plugin module path : String) (params retvals : SignatureArgument)
    (slot : SlotArgument) : Prop :=
  ∃ p, (loadEntity (textArgument plugin) (textArgument module) (textArgument path) params retvals slot
    b).result = some p

/-- The plugin function answers with a call point. -/
def PluginFunction.Loads (b : Bridge) (module path : String) (params retvals : SignatureArgument)
    (slot : SlotArgument) : Prop :=
  ∃ p, (loadEntity (textArgument module) (textArgument path) params retvals slot b).result =
    some (some p)

/-- A report has a result if the operation succeeded. -/
theorem result_ofOutcome {α : Type} (slot : SlotArgument) (r : Except BridgeError α × Bridge) (x : α) :
    (Answer.ofOutcome slot r).result = some x ↔ r.1 = .ok x := by
  rcases r with ⟨_ | _, b⟩ <;> simp [Answer.ofOutcome, report]

variable {b : Bridge} {module path : String}

/-- **The plugin function** resolves what the process resolves for the types that arrive. -/
theorem pluginFunction_loads_iff (plainModule : holdsNul module = false)
    (plainPath : holdsNul path = false) (params retvals : SignatureArgument) (slot : SlotArgument) :
    PluginFunction.Loads b module path params retvals slot ↔
      b.host.runtime.Resolves b.host.environment module path params.types retvals.types := by
  simp only [PluginFunction.Loads, PluginFunction.loadEntity, result_ofOutcome,
    readEntityName_textArgument plainModule plainPath]
  exact b.host.exportFound_ok_iff _

/-- **The host function**, asked for the runtime of this process, does as much. -/
theorem hostFunction_loads_iff (served : b.engine.ServesRuntime) (plainModule : holdsNul module = false)
    (plainPath : holdsNul path = false) (params retvals : SignatureArgument) (slot : SlotArgument) :
    HostFunction.Loads b localRuntimeName module path params retvals slot ↔
      b.host.runtime.Resolves b.host.environment module path params.types retvals.types := by
  simp only [HostFunction.Loads, HostFunction.loadEntity, result_ofOutcome,
    readNames_textArgument plainModule plainPath, withArguments, Bridge.step]
  exact served.loadCallPoint_ok_iff b.host module path params.types retvals.types

end Abi

/-! ## 5. Agreement -/

section Agreement
open Abi

/-- A request packed as descriptors loads, by both C functions, if its normal form resolves. -/
theorem loads_iff_normal {b : Bridge} (served : b.engine.ServesRuntime) {module path : String}
    (plainModule : holdsNul module = false) (plainPath : holdsNul path = false)
    {params retvals : List TypeInfo} (shortParams : params.length ≤ signatureLimit)
    (shortRetvals : retvals.length ≤ signatureLimit) (slot : SlotArgument) :
    ∃ ps rs, SignatureArgument.ofTypes params = .ok ps ∧ SignatureArgument.ofTypes retvals = .ok rs ∧
      (HostFunction.Loads b localRuntimeName module path ps rs slot ↔
        b.host.runtime.Resolves b.host.environment module path (params.map TypeInfo.normal)
          (retvals.map TypeInfo.normal)) ∧
      (PluginFunction.Loads b module path ps rs slot ↔
        b.host.runtime.Resolves b.host.environment module path (params.map TypeInfo.normal)
          (retvals.map TypeInfo.normal)) := by
  obtain ⟨ps, packedParams, arrivedParams⟩ := SignatureArgument.types_ofTypes shortParams
  obtain ⟨rs, packedRetvals, arrivedRetvals⟩ := SignatureArgument.types_ofTypes shortRetvals
  have arrived := b.host.runtime.resolves_congr b.host.environment module path arrivedParams
    arrivedRetvals
  exact ⟨ps, rs, packedParams, packedRetvals,
    (hostFunction_loads_iff served plainModule plainPath ps rs slot).trans arrived,
    (pluginFunction_loads_iff plainModule plainPath ps rs slot).trans arrived⟩

/-- **When resolution agrees**: in every state that a process can reach, for every module, path and
signature that C strings and 8-bit counts can carry, both C functions agree with each other, and they
agree with the process if and only if the function that is named, if any, fits neither the request nor
its normal form, or the request is in normal form.  In particular the signature that a function was
registered with resolves in the process, and by the C functions if and only if it is in normal form. -/
theorem resolution_agrees_iff {b : Bridge} (reached : b.Reached) {module path : String}
    (plainModule : holdsNul module = false) (plainPath : holdsNul path = false)
    {params retvals : List TypeInfo} (shortParams : params.length ≤ signatureLimit)
    (shortRetvals : retvals.length ≤ signatureLimit) (slot : SlotArgument) :
    ∃ ps rs, SignatureArgument.ofTypes params = .ok ps ∧ SignatureArgument.ofTypes retvals = .ok rs ∧
      let byHost := HostFunction.Loads b localRuntimeName module path ps rs slot
      let byPlugin := PluginFunction.Loads b module path ps rs slot
      let inProcess := b.host.runtime.Resolves b.host.environment module path params retvals
      let named? := b.host.runtime.named? b.host.environment module path
      let isNormal := ∀ t ∈ params ++ retvals, t.IsNormal
      (byHost ↔ byPlugin) ∧
      ((byHost ↔ inProcess) ↔
        ∀ f, named? = some f → isNormal ∨ ¬ f.Fits params retvals ∧
          ¬ f.Fits (params.map TypeInfo.normal) (retvals.map TypeInfo.normal)) ∧
      ∀ f, named? = some f → f.Fits params retvals → inProcess ∧ (byHost ↔ isNormal) := by
  obtain ⟨ps, rs, packedParams, packedRetvals, host, plugin⟩ :=
    loads_iff_normal reached.serves plainModule plainPath shortParams shortRetvals slot
  refine ⟨ps, rs, packedParams, packedRetvals, host.trans plugin.symm, ?_⟩
  simp only [host, LocalRuntime.resolves_iff]
  cases b.host.runtime.named? b.host.environment module path with
  | none => simp
  | some f =>
    simp only [Option.some.injEq, forall_eq', exists_eq_left']
    have both : f.Fits params retvals →
        f.Fits (params.map TypeInfo.normal) (retvals.map TypeInfo.normal) →
        ∀ t ∈ params ++ retvals, t.IsNormal := NativeFunction.Fits.isNormal
    by_cases normal : ∀ t ∈ params ++ retvals, t.IsNormal
    · obtain ⟨sameParams, sameRetvals⟩ := map_normal_of_isNormal normal
      simp only [sameParams, sameRetvals]
      exact ⟨iff_of_true trivial (.inl normal), fun fits => ⟨fits, iff_of_true fits normal⟩⟩
    · refine ⟨⟨fun same => .inr ?_, fun either => ?_⟩, fun fits => ⟨fits, ?_⟩⟩
      · exact ⟨fun fits => normal (both fits (same.mpr fits)),
          fun fits => normal (both (same.mp fits) fits)⟩
      · obtain ⟨unfit, unfit_normal⟩ := either.resolve_left normal
        exact iff_of_false unfit_normal unfit
      · exact iff_of_false (fun fits_normal => normal (both fits fits_normal)) normal

/-- A function of a list of numbers, of which nobody knows how deep it is, and a number. -/
def scale : NativeFunction :=
  ⟨0, "scale", [⟨(TypeTag.ofKind (.int .int64)).withArray, some "rows", mixedDimensions⟩,
    .ofTag (.ofKind (.int .int64))], []⟩

/-- A function of a number that was declared with the dimensions of a mixed array. -/
def rescale : NativeFunction :=
  ⟨1, "rescale", [⟨.ofKind (.int .int64), none, mixedDimensions⟩], []⟩

/-- A process in which both are registered. -/
def scaleBridge : Bridge :=
  .ofEnvironment (fun _ => none) (fun _ => .absent)
    { runtime := (LocalRuntime.register {} "math" scale).register "math" rescale }

theorem resolution_agrees_scale :
    scaleBridge.Reached ∧ holdsNul "math" = false ∧ holdsNul "callable=scale" = false ∧
      scale.params.length ≤ signatureLimit ∧ scale.retvals.length ≤ signatureLimit ∧
      ∃ ps rs, SignatureArgument.ofTypes scale.params = .ok ps ∧
        SignatureArgument.ofTypes scale.retvals = .ok rs ∧
        HostFunction.Loads scaleBridge localRuntimeName "math" "callable=scale" ps rs (some none) ∧
        PluginFunction.Loads scaleBridge "math" "callable=scale" ps rs (some none) ∧
        scaleBridge.host.runtime.Resolves scaleBridge.host.environment "math" "callable=scale"
          scale.params scale.retvals := by
  have reached : scaleBridge.Reached := .start _ _ _
  have plainModule : holdsNul "math" = false := by decide
  have plainPath : holdsNul "callable=scale" = false := by decide
  have shortParams : scale.params.length ≤ signatureLimit := by decide
  have shortRetvals : scale.retvals.length ≤ signatureLimit := by decide
  obtain ⟨ps, rs, packedParams, packedRetvals, alike, -, registered⟩ :=
    resolution_agrees_iff reached plainModule plainPath shortParams shortRetvals (some none)
  have named : scaleBridge.host.runtime.named? scaleBridge.host.environment "math" "callable=scale" =
      some scale := by decide +kernel
  obtain ⟨inProcess, loads⟩ := registered scale named ⟨rfl, rfl⟩
  have byHost := loads.mpr (by decide)
  exact ⟨reached, plainModule, plainPath, shortParams, shortRetvals, ps, rs, packedParams,
    packedRetvals, byHost, alike.mp byHost, inProcess⟩

/-- The number that was declared like a mixed array is lost: its own signature resolves in the process,
and by no C function. -/
theorem resolution_not_agreeing :
    scaleBridge.host.runtime.Resolves scaleBridge.host.environment "math" "rescale" rescale.params
        rescale.retvals ∧
      ∃ ps rs, SignatureArgument.ofTypes rescale.params = .ok ps ∧
        SignatureArgument.ofTypes rescale.retvals = .ok rs ∧
        ¬ HostFunction.Loads scaleBridge localRuntimeName "math" "rescale" ps rs (some none) ∧
        ¬ PluginFunction.Loads scaleBridge "math" "rescale" ps rs (some none) := by
  have named : scaleBridge.host.runtime.named? scaleBridge.host.environment "math" "rescale" =
      some rescale := by decide +kernel
  refine ⟨LocalRuntime.resolves_iff.mpr ⟨rescale, named, rfl, rfl⟩, ?_⟩
  have reached : scaleBridge.Reached := .start _ _ _
  have plainModule : holdsNul "math" = false := by decide
  have plainPath : holdsNul "rescale" = false := by decide
  have shortParams : rescale.params.length ≤ signatureLimit := by decide
  have shortRetvals : rescale.retvals.length ≤ signatureLimit := by decide
  obtain ⟨ps, rs, packedParams, packedRetvals, host, plugin⟩ :=
    loads_iff_normal reached.serves plainModule plainPath shortParams shortRetvals (some none)
  have unresolved : ¬ scaleBridge.host.runtime.Resolves scaleBridge.host.environment "math" "rescale"
      (rescale.params.map TypeInfo.normal) (rescale.retvals.map TypeInfo.normal) := by
    rw [LocalRuntime.resolves_iff, named]
    rintro ⟨f, ⟨⟩, fits⟩
    exact absurd fits (by decide)
  exact ⟨ps, rs, packedParams, packedRetvals, mt host.mp unresolved, mt plugin.mp unresolved⟩

end Agreement

end RuntimeBridge
