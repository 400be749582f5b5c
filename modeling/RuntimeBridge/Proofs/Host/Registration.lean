/-
# Which function a request resolves to

Functions come and go under a module and a name.  What stands under a name after any number of
registrations is the function that was registered last, unless its name was cleared since (`Stands`):
the runtime finds it and nothing else (`function?_run_iff`).

A path names a function by the value of `callable`, or else of `entity`, or by its only key
(`EntityPath.Names`).  So resolution succeeds just when the path can be read and names what stands in
the module, and the request looks like its signature position by position; otherwise the first of these
that fails is what the error tells.

Main statement: `resolution_exact`.
-/
import Mathlib.Data.List.Forall2
import RuntimeBridge.Proofs.Entity.Canonical
import RuntimeBridge.Proofs.Host.Resolution
namespace RuntimeBridge

/-! ## 1. Registration -/

inductive Registration where
  | enter (module : String) (f : NativeFunction)
  | clear (module name : String)

/-- The module and the name under which something changes. -/
def Registration.key : Registration → String × String
  | enter module f => (module, f.name)
  | clear module name => (module, name)

namespace LocalRuntime

def step (r : LocalRuntime) : Registration → LocalRuntime
  | .enter module f => r.register module f
  | .clear module name => (r.unregister module name).2

def run (r : LocalRuntime) (changes : List Registration) : LocalRuntime := changes.foldl step r

variable {module name : String} {f : NativeFunction}

theorem function?_erase (r : LocalRuntime) (key : String × String) :
    (r.erase key.1 key.2).function? module name =
      if (module, name) = key then none else r.function? module name := by
  obtain ⟨functions, loaded⟩ := r
  simp only [erase, function?]
  induction functions with
  | nil => simp
  | cons entry rest ih =>
    rw [List.filter_cons, List.lookup_cons]
    split <;> grind

/-- One change puts a function under its key or clears the key, and leaves the others alone. -/
theorem function?_step (r : LocalRuntime) (change : Registration) :
    (r.step change).function? module name =
      if (module, name) = change.key then
        match change with
        | .enter _ f => some f
        | .clear _ _ => none
      else r.function? module name := by
  cases change with
  | enter m f =>
    have others : (r.erase m f.name).function? module name =
        if (module, name) = (m, f.name) then none else r.function? module name :=
      r.function?_erase (m, f.name)
    simp only [function?] at others
    simp only [step, register, function?, List.lookup_cons, Registration.key]
    split <;> grind
  | clear m n => exact r.function?_erase (m, n)

end LocalRuntime

/-- The function was registered under a module and a name, and nothing was done under them since. -/
def Stands (changes : List Registration) (module name : String) (f : NativeFunction) : Prop :=
  ∃ before since, changes = before ++ .enter module f :: since ∧ f.name = name ∧
    ∀ change ∈ since, change.key ≠ (module, name)

section

variable {changes : List Registration} {change : Registration} {module name : String}
  {f : NativeFunction}

theorem not_stands_nil : ¬ Stands [] module name f := by
  rintro ⟨before, since, parts, -⟩
  cases before <;> cases parts

/-- The last change decides, if it is about the name. -/
theorem stands_concat_of_eq (same : change.key = (module, name)) :
    Stands (changes ++ [change]) module name f ↔ change = .enter module f := by
  constructor
  · rintro ⟨before, since, parts, -, untouched⟩
    cases since using List.reverseRecOn with
    | nil => exact List.singleton_inj.mp (List.append_inj' parts rfl).2
    | append_singleton since last =>
      rw [← List.cons_append, ← List.append_assoc] at parts
      obtain rfl := List.singleton_inj.mp (List.append_inj' parts rfl).2
      exact absurd same (untouched change (by simp))
  · rintro rfl
    exact ⟨changes, [], rfl, (Prod.mk.inj same).2, by simp⟩

/-- A change about something else makes no difference. -/
theorem stands_concat_of_ne (other : change.key ≠ (module, name)) :
    Stands (changes ++ [change]) module name f ↔ Stands changes module name f := by
  constructor
  · rintro ⟨before, since, parts, rfl, untouched⟩
    cases since using List.reverseRecOn with
    | nil =>
      obtain rfl := List.singleton_inj.mp (List.append_inj' parts rfl).2
      exact absurd rfl other
    | append_singleton since last =>
      rw [← List.cons_append, ← List.append_assoc] at parts
      obtain ⟨rfl, -⟩ := List.append_inj' parts rfl
      exact ⟨before, since, rfl, rfl, fun change mem => untouched change (by simp [mem])⟩
  · rintro ⟨before, since, rfl, here, untouched⟩
    refine ⟨before, since ++ [change], by simp, here, fun later mem => ?_⟩
    rcases List.mem_append.mp mem with mem | mem
    · exact untouched later mem
    · rw [List.mem_singleton.mp mem]
      exact other

/-- **The runtime finds what stands under a name**, and nothing else. -/
theorem LocalRuntime.function?_run_iff :
    (LocalRuntime.run {} changes).function? module name = some f ↔ Stands changes module name f := by
  induction changes using List.reverseRecOn with
  | nil => exact iff_of_false (by simp [run, function?]) not_stands_nil
  | append_singleton changes change ih =>
    have last : run {} (changes ++ [change]) = (run {} changes).step change := by
      simp [run, List.foldl_append]
    rw [last, function?_step]
    by_cases same : change.key = (module, name)
    · rw [if_pos same.symm, stands_concat_of_eq same]
      cases change with
      | enter m g =>
        obtain ⟨rfl, -⟩ := Prod.mk.inj same
        simp
      | clear m n => simp
    · rw [if_neg (Ne.symm same), stands_concat_of_ne same]
      exact ih

end

/-! ## 2. Names -/

namespace EntityPath

/-- A path names a function: by the value of `callable`, or else of `entity`, unless it is empty; or
by its only key, if that has no value. -/
inductive Names (p : EntityPath) (name : String) : Prop
  | callable : p.get? "callable" = some name → name ≠ "" → Names p name
  | entity : p.get? "callable" = none → p.get? "entity" = some name → name ≠ "" → Names p name
  | lone : p.get? "callable" = none → p.get? "entity" = none → p.items = [(name, "")] → Names p name

theorem entityName?_eq_some_iff {p : EntityPath} {name : String} :
    p.entityName? = some name ↔ p.Names name := by
  constructor
  · intro found
    rw [entityName?] at found
    split at found
    next x value =>
      obtain ⟨filled, rfl⟩ : ¬ x.isEmpty = true ∧ x = name := by simpa using found
      rw [String.isEmpty_iff] at filled
      rcases Option.or_eq_some_iff.mp value with first | ⟨absent, second⟩
      · exact .callable first filled
      · exact .entity absent second filled
    next absent =>
      obtain ⟨first, second⟩ := Option.or_eq_none_iff.mp absent
      split at found
      next key value items =>
        obtain ⟨empty, rfl⟩ : value.isEmpty = true ∧ key = name := by simpa using found
        rw [String.isEmpty_iff] at empty
        exact .lone first second (empty ▸ items)
      next => cases found
  · rintro (⟨first, filled⟩ | ⟨absent, second, filled⟩ | ⟨first, second, items⟩)
    · simp [entityName?, first, filled]
    · simp [entityName?, absent, second, filled]
    · simp [entityName?, first, second, items]

/-- A path names one thing at most. -/
theorem Names.unique {p : EntityPath} {x y : String} (first : p.Names x) (second : p.Names y) :
    x = y := by
  rw [← entityName?_eq_some_iff] at first second
  exact Option.some.inj (first.symm.trans second)

/-- The texts that name `name` with nothing else in them. -/
def textsFor (name : String) : List String :=
  ["callable=" ++ name, "entity=" ++ name] ++
    if name = "callable" ∨ name = "entity" then [] else [name]

/-- A name that can stand in a path as it is: not empty, without blanks around it, separators and
references. -/
structure IsPlainName (name : String) : Prop where
  filled : name ≠ ""
  trimmed : IsTrimmed name.toList
  plain : ∀ c ∈ name.toList, c ∉ [',', '=', '%', '$']

section

variable {env : Environment} {name : String}

theorem IsPlainName.isPlain (plain : IsPlainName name) : IsPlain name.toList where
  trimmed := plain.trimmed
  comma mem := plain.plain _ mem (by simp)
  equals mem := plain.plain _ mem (by simp)

theorem IsPlainName.stable (plain : IsPlainName name) : env.expand name = name := by
  refine expand_plain env.lookup fun c mem => ?_
  have := plain.plain c mem
  simp only [List.mem_cons, not_or] at this
  exact ⟨this.2.2.1, this.2.2.2.1⟩

theorem parse_pair (plain : IsPlainName name) {key : String} (plainKey : IsPlainName key) :
    parse env (key ++ "=" ++ name) = .ok ⟨[(key, name)]⟩ := by
  have text : toText ⟨[(key, name)]⟩ = key ++ "=" ++ name := by
    simp [toText, itemText, plain.filled]
  have settled : IsSettled env (key, name) :=
    ⟨plainKey.isPlain, by simpa using plainKey.filled, plain.isPlain, plain.stable⟩
  rw [← text]
  exact parse_toText (List.pairwise_singleton _ _) (by simpa using settled)

theorem parse_lone (plain : IsPlainName name) : parse env name = .ok ⟨[(name, "")]⟩ := by
  have text : toText ⟨[(name, "")]⟩ = name := by simp [toText, itemText]
  have empty : env.expand "" = "" := expand_plain env.lookup (by simp)
  have settled : IsSettled env (name, "") :=
    ⟨plain.isPlain, by simpa using plain.filled, ⟨⟨rfl, rfl⟩, by simp, by simp⟩, empty⟩
  have read : parse env (toText ⟨[(name, "")]⟩) = .ok ⟨[(name, "")]⟩ :=
    parse_toText (List.pairwise_singleton _ _) (by simpa using settled)
  rw [text] at read
  exact read

/-- **Each of these texts names `name`.** -/
theorem names_of_mem_textsFor (plain : IsPlainName name) {text : String} (mem : text ∈ textsFor name) :
    ∃ p, parse env text = .ok p ∧ p.Names name := by
  have keyCallable : IsPlainName "callable" := ⟨by decide, by decide, by simp⟩
  have keyEntity : IsPlainName "entity" := ⟨by decide, by decide, by simp⟩
  have callable : "callable=" = "callable" ++ "=" := by decide
  have entity : "entity=" = "entity" ++ "=" := by decide
  rw [textsFor, List.cons_append, List.cons_append, List.nil_append, List.mem_cons, List.mem_cons] at mem
  rcases mem with rfl | rfl | lone
  · rw [callable]
    exact ⟨_, parse_pair plain keyCallable, .callable (by simp [get?]) plain.filled⟩
  · rw [entity]
    exact ⟨_, parse_pair plain keyEntity, .entity (by simp [get?]) (by simp [get?]) plain.filled⟩
  · split at lone
    next => cases lone
    next free =>
      obtain rfl := List.mem_singleton.mp lone
      obtain ⟨notCallable, notEntity⟩ := not_or.mp free
      refine ⟨_, parse_lone plain, .lone ?_ ?_ rfl⟩
      · rw [get?_cons, if_neg (Ne.symm notCallable), get?_nil]
      · rw [get?_cons, if_neg (Ne.symm notEntity), get?_nil]

end

end EntityPath

/-! ## 3. Signatures -/

/-- Tag and dimensions are the same position by position, whatever the aliases. -/
def SameTypes (expected requested : List TypeInfo) : Prop :=
  List.Forall₂ (fun t u => t.tag = u.tag ∧ t.dimensions = u.dimensions) expected requested

/-- The function has the signature that is requested. -/
def NativeFunction.Takes (f : NativeFunction) (params retvals : List TypeInfo) : Prop :=
  SameTypes f.params params ∧ SameTypes f.retvals retvals

theorem sameTypes_iff {expected requested : List TypeInfo} :
    SameTypes expected requested ↔ expected.map TypeInfo.form = requested.map TypeInfo.form := by
  rw [SameTypes, ← List.forall₂_eq_eq_eq, List.forall₂_map_left_iff, List.forall₂_map_right_iff]
  simp only [TypeInfo.form, Prod.mk.injEq]

theorem NativeFunction.takes_iff_fits {f : NativeFunction} {params retvals : List TypeInfo} :
    f.Takes params retvals ↔ f.Fits params retvals :=
  and_congr sameTypes_iff sameTypes_iff

/-- The two texts of signatures that do not match. -/
def NativeFunction.mismatch (f : NativeFunction) (params retvals : List TypeInfo) : BridgeError :=
  .signatureMismatch f.name (signaturePairText f.params f.retvals) (signaturePairText params retvals)

theorem NativeFunction.checkSignature_eq_error_iff {f : NativeFunction} {params retvals : List TypeInfo}
    {e : BridgeError} :
    f.checkSignature params retvals = .error e ↔
      ¬ f.Takes params retvals ∧ e = f.mismatch params retvals := by
  have agreed := checkSignature_eq_ok_iff f f params retvals
  rw [← takes_iff_fits, and_iff_right rfl] at agreed
  by_cases takes : f.Takes params retvals
  · rw [agreed.mpr takes]
    exact iff_of_false nofun fun mismatched => mismatched.1 takes
  · have refused : f.checkSignature params retvals = .error (f.mismatch params retvals) := by
      rw [checkSignature] at agreed ⊢
      split
      next fits => exact absurd (agreed.mp (if_pos fits)) takes
      next => rfl
    rw [refused, Except.error.injEq, and_iff_right takes]
    exact eq_comm

/-! ## 4. Resolution -/

namespace LocalRuntime

section

variable {env : Environment} {r : LocalRuntime} {module path : String} {params retvals : List TypeInfo}
  {f : NativeFunction} {e : BridgeError}

theorem named?_eq_some_iff :
    r.named? env module path = some f ↔
      ∃ p name, EntityPath.parse env path = .ok p ∧ p.Names name ∧ r.function? module name = some f := by
  rw [named?]
  cases EntityPath.parse env path with
  | error e => simp
  | ok p => simp [Option.bind_eq_some_iff, EntityPath.entityName?_eq_some_iff]

/-- What is wrong with a request, in the order in which it is looked for. -/
theorem resolve_eq_error_iff :
    r.resolve env module path params retvals = .error e ↔
      EntityPath.parse env path = .error e ∨
      ∃ p, EntityPath.parse env path = .ok p ∧
        ((∀ name, ¬ p.Names name) ∧
            e = .invalidEntityPath ("'" ++ path ++ "' does not name a callable") ∨
          ∃ name, p.Names name ∧
            (r.function? module name = none ∧ e = .entityNotFound module path ∨
              ∃ f, r.function? module name = some f ∧ ¬ f.Takes params retvals ∧
                e = f.mismatch params retvals)) := by
  rw [resolve]
  cases EntityPath.parse env path with
  | error e' => simp
  | ok p =>
    simp only [← EntityPath.entityName?_eq_some_iff, reduceCtorEq, false_or, Except.ok.injEq,
      exists_eq_left']
    cases p.entityName? with
    | none => simp [eq_comm]
    | some name =>
      simp only [Option.some.injEq, exists_eq_left', forall_eq', false_and, false_or]
      cases r.function? module name with
      | none => simp [eq_comm]
      | some f => simp [NativeFunction.checkSignature_eq_error_iff]

/-- Paths with the same name are answered alike if something stands under it. -/
theorem resolve_of_names {p : EntityPath} {name : String} (read : EntityPath.parse env path = .ok p)
    (names : p.Names name) (found : r.function? module name = some f) :
    r.resolve env module path params retvals = f.checkSignature params retvals := by
  simp only [resolve, read, EntityPath.entityName?_eq_some_iff.mpr names, found]

end

end LocalRuntime

open EntityPath in
/-- **Resolution is exact**, after any registrations.  It succeeds with a function just when the path can
be read and names something, the function stands under that name, and tags and dimensions of the request
are those of its signature position by position.  Otherwise the error is that the path is not valid if it
cannot be read or names nothing, or else that there is no such function, or else that its signature does
not match.  The texts with a key and a name, and the name alone, name the same. -/
theorem resolution_exact (env : Environment) (changes : List Registration) (module : String) :
    let r := LocalRuntime.run {} changes
    (∀ path params retvals f, r.resolve env module path params retvals = .ok f ↔
      ∃ p name, parse env path = .ok p ∧ p.Names name ∧ Stands changes module name f ∧
        f.Takes params retvals) ∧
    (∀ path params retvals e, r.resolve env module path params retvals = .error e ↔
      parse env path = .error e ∨
      ∃ p, parse env path = .ok p ∧
        ((∀ name, ¬ p.Names name) ∧
            e = .invalidEntityPath ("'" ++ path ++ "' does not name a callable") ∨
          ∃ name, p.Names name ∧
            ((∀ f, ¬ Stands changes module name f) ∧ e = .entityNotFound module path ∨
              ∃ f, Stands changes module name f ∧ ¬ f.Takes params retvals ∧
                e = f.mismatch params retvals))) ∧
    (∀ path e, parse env path = .error e → ∃ text, e = .invalidEntityPath text) ∧
    ∀ name, IsPlainName name →
      (∀ text ∈ textsFor name, ∃ p, parse env text = .ok p ∧ p.Names name) ∧
      ∀ f, Stands changes module name f → ∀ text ∈ textsFor name, ∀ other ∈ textsFor name,
        ∀ params retvals, r.resolve env module text params retvals =
          r.resolve env module other params retvals := by
  intro r
  have found : ∀ name f, r.function? module name = some f ↔ Stands changes module name f :=
    fun name f => LocalRuntime.function?_run_iff
  refine ⟨fun path params retvals f => ?_, fun path params retvals e => ?_, fun path e refused => ?_,
    fun name plain => ⟨fun text mem => names_of_mem_textsFor plain mem, ?_⟩⟩
  · rw [LocalRuntime.resolve_eq_ok_iff, LocalRuntime.named?_eq_some_iff,
      ← NativeFunction.takes_iff_fits]
    simp only [found, ← exists_and_right, and_assoc]
  · simp only [LocalRuntime.resolve_eq_error_iff, Option.eq_none_iff_forall_ne_some, ne_eq, found]
  · obtain ⟨front, item, rest, -, -, -, rfl⟩ := (parse_eq_error_iff env).mp refused
    exact ⟨_, rfl⟩
  · intro f stands text mem other mem' params retvals
    obtain ⟨p, read, names⟩ := names_of_mem_textsFor plain mem
    obtain ⟨p', read', names'⟩ := names_of_mem_textsFor plain mem'
    have here := (found name f).mpr stands
    rw [LocalRuntime.resolve_of_names read names here, LocalRuntime.resolve_of_names read' names' here]

/-- A function of no parameters takes the name of one of two, a third one goes, and the newer one is
found by its bare name as by a key. -/
theorem resolution_exact_replaced :
    let env : Environment := {}
    let newer : NativeFunction := { scale with identity := 2, params := [] }
    let changes := [.enter "math" scale, .enter "math" rescale, .enter "math" newer,
      .clear "math" "rescale"]
    EntityPath.parse env "=1" = .error (.invalidEntityPath "'=1' has an empty key") ∧
      EntityPath.IsPlainName "scale" ∧ Stands changes "math" "scale" newer ∧
      "scale" ∈ EntityPath.textsFor "scale" ∧ "entity=scale" ∈ EntityPath.textsFor "scale" ∧
      (∃ text, BridgeError.invalidEntityPath "'=1' has an empty key" = .invalidEntityPath text) ∧
      (LocalRuntime.run {} changes).resolve env "math" "scale" [] [] = .ok newer ∧
      (LocalRuntime.run {} changes).resolve env "math" "scale" [] [] =
        (LocalRuntime.run {} changes).resolve env "math" "entity=scale" [] [] := by
  intro env newer changes
  have plain : EntityPath.IsPlainName "scale" := ⟨by decide, by decide, by simp⟩
  have stands : Stands changes "math" "scale" newer :=
    ⟨[.enter "math" scale, .enter "math" rescale], [.clear "math" "rescale"], rfl, rfl, by decide⟩
  have bare : "scale" ∈ EntityPath.textsFor "scale" := by decide
  have keyed : "entity=scale" ∈ EntityPath.textsFor "scale" := by decide
  have unreadable :
      EntityPath.parse env "=1" = .error (.invalidEntityPath "'=1' has an empty key") := by
    decide +kernel
  obtain ⟨found, -, invalid, texts⟩ := resolution_exact env changes "math"
  obtain ⟨p, read, names⟩ := (texts "scale" plain).1 "scale" bare
  exact ⟨unreadable, plain, stands, bare, keyed, invalid _ _ unreadable,
    (found "scale" [] [] newer).mpr ⟨p, "scale", read, names, stands, .nil, .nil⟩,
    (texts "scale" plain).2 newer stands "scale" bare "entity=scale" keyed [] []⟩

end RuntimeBridge
