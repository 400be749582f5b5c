/-
# What construction asks and what it raises

A source is given a path with each question, and it may refuse to answer.  Who listens hears the path and
the refusal (`Source.overheard`); listening changes nothing.

A run from a path is disciplined if no path leads out from under that one, neither those that were heard
nor the one that is left behind, and if whoever reads an error can tell from where it comes: a refusal
ends the run as it is and leaves the stack at the path that was asked about, and everything else that
ends a run names the path that the stack is left at, or no place at all.

Discipline is put together along the run: an element of an array is a disciplined run from the path one
index longer, and what comes behind it starts from the path itself again.

Main statements: `Source.unheard_constructCell`, listening changes nothing, and
`Source.hears_constructCell`, what is heard is disciplined.
-/
import RuntimeBridge.Proofs.Wire.Announced
import RuntimeBridge.Proofs.Wire.PathStack
namespace RuntimeBridge

/-! ## 1. Discipline -/

/-- A call to a source or a sink: the path that it was given, and the halt that it answered with. -/
structure Call where
  path : IndexPath
  refusal : Option Halt

/-- A refusal among answers. -/
def refusalOf {α : Type} : Outcome α → Option Halt
  | .ok _ => none
  | .error halt => some halt

/-- What a run raises by itself at a path.  Whatever names a place names the path. -/
inductive RaisedAt (path : IndexPath) : Halt → Prop
  | violation {e : MarshalError} (place : e.place? = some (.path path)) :
    RaisedAt path (.error (.marshal e))
  | signature (length : Nat) : RaisedAt path (.error (.marshal (.signatureTooLong length)))
  | dangling (id : Nat) : RaisedAt path (.error (.handle (.notFound id)))
  | tooDeep : RaisedAt path .tooDeep

/-- A violation with a place has the text of the place in its own. -/
theorem MarshalError.message_of_place {e : MarshalError} {place : Place} (named : e.place? = some place) :
    ∃ front behind, e.message = front ++ place.toText ++ behind := by
  cases e <;> cases named
  case unknownType | nullArray | nullCallable | typeMismatch | invalidChar | invalidString =>
    exact ⟨_, "", String.append_empty.symm⟩
  case outOfRange => exact ⟨_, _, String.append_assoc⟩
  all_goals exact ⟨_, _, rfl⟩

/-- **What is raised at a path tells the text of the path**, if of any place. -/
theorem RaisedAt.message {path : IndexPath} {e : MarshalError} {place : Place}
    (raised : RaisedAt path (.error (.marshal e))) (named : e.place? = some place) :
    place.toText = path.toText ∧ ∃ front behind, e.message = front ++ path.toText ++ behind := by
  cases raised with
  | violation here =>
    obtain rfl := Option.some.inj (named.symm.trans here)
    exact ⟨rfl, MarshalError.message_of_place here⟩
  | signature length => cases named

/-- What a run that starts with a path on the stack does with paths. -/
structure Disciplined (path : IndexPath) (calls : List Call) (e : Ending) : Prop where
  /-- A success gives the stack back. -/
  restored : e.outcome = .ok () → e.stack = path
  /-- A failure takes nothing off that was there before. -/
  below : path <+: e.stack
  asked : ∀ call ∈ calls, path <+: call.path
  /-- A refusal is passed on, from where it was given. -/
  passedOn : ∀ call ∈ calls, ∀ halt, call.refusal = some halt → e = ⟨.error halt, call.path⟩
  /-- Without a refusal it was the run itself that stopped, and it tells where. -/
  raised : (∀ call ∈ calls, call.refusal = none) → ∀ halt, e.outcome = .error halt →
    RaisedAt e.stack halt

namespace Disciplined

variable {path : IndexPath} {calls later : List Call} {e first : Ending} {halt : Halt} {i : Nat}

theorem done (path : IndexPath) : Disciplined path [] ⟨.ok (), path⟩ where
  restored _ := rfl
  below := List.prefix_refl path
  asked := nofun
  passedOn := nofun
  raised _ _ failed := nomatch failed

theorem stopped (raised : RaisedAt path halt) : Disciplined path [] ⟨.error halt, path⟩ where
  restored ok := nomatch ok
  below := List.prefix_refl path
  asked := nofun
  passedOn := nofun
  raised _ _ failed := Except.error.inj failed ▸ raised

theorem refused (path : IndexPath) (halt : Halt) :
    Disciplined path [⟨path, some halt⟩] ⟨.error halt, path⟩ where
  restored ok := nomatch ok
  below := List.prefix_refl path
  asked call mem := by
    obtain rfl := List.mem_singleton.mp mem
    exact List.prefix_refl path
  passedOn call mem halt refusal := by
    obtain rfl := List.mem_singleton.mp mem
    obtain rfl := Option.some.inj refusal
    rfl
  raised clear := nomatch clear _ (List.mem_singleton_self _)

/-- A call that was answered, ahead of a run. -/
theorem answered (d : Disciplined path calls e) : Disciplined path (⟨path, none⟩ :: calls) e where
  restored := d.restored
  below := d.below
  asked call mem := by
    rcases List.mem_cons.mp mem with rfl | mem
    · exact List.prefix_refl path
    · exact d.asked call mem
  passedOn call mem halt refusal := by
    rcases List.mem_cons.mp mem with rfl | mem
    · cases refusal
    · exact d.passedOn call mem halt refusal
  raised clear := d.raised fun call mem => clear call (List.mem_cons_of_mem _ mem)

/-- A run that succeeded has met no refusal. -/
theorem clear (d : Disciplined path calls e) (ok : e.outcome = .ok ()) :
    ∀ call ∈ calls, call.refusal = none := by
  refine fun call mem => Option.eq_none_iff_forall_ne_some.mpr fun halt refusal => ?_
  rw [d.passedOn call mem halt refusal] at ok
  cases ok

/-- What succeeded may be stopped where it is all the same. -/
theorem overruled (d : Disciplined path calls ⟨.ok (), path⟩) (raised : RaisedAt path halt) :
    Disciplined path calls ⟨.error halt, path⟩ where
  restored ok := nomatch ok
  below := List.prefix_refl path
  asked := d.asked
  passedOn call mem _ refusal := nomatch (d.clear rfl call mem).symm.trans refusal
  raised _ _ failed := Except.error.inj failed ▸ raised

/-- An element that fails is the failure of its array. -/
theorem within (d : Disciplined (path ++ [i]) calls e) (failed : e.outcome = .error halt) :
    Disciplined path calls e where
  restored ok := nomatch failed.symm.trans ok
  below := (List.prefix_append path [i]).trans d.below
  asked call mem := (List.prefix_append path [i]).trans (d.asked call mem)
  passedOn := d.passedOn
  raised := d.raised

/-- Behind an element that succeeds the run goes on from the path. -/
theorem next (element : Disciplined (path ++ [i]) calls first) (ok : first.outcome = .ok ())
    (d : Disciplined path later e) : Disciplined path (calls ++ later) e where
  restored := d.restored
  below := d.below
  asked call mem := by
    rcases List.mem_append.mp mem with mem | mem
    · exact (List.prefix_append path [i]).trans (element.asked call mem)
    · exact d.asked call mem
  passedOn call mem halt refusal := by
    rcases List.mem_append.mp mem with mem | mem
    · exact nomatch (element.clear ok call mem).symm.trans refusal
    · exact d.passedOn call mem halt refusal
  raised clear := d.raised fun call mem => clear call (List.mem_append_right _ mem)

end Disciplined

/-! ## 2. Listening to a source -/

variable {σ α β : Type}

/-- The halt of a refusal to answer. -/
def haltOf : Except BridgeError α → Option Halt
  | .ok _ => none
  | .error e => some (.error e)

/-- An answer that somebody hears, behind those heard before. -/
def hear (path : IndexPath) (answer : Except BridgeError α × σ) (calls : List Call) :
    Except BridgeError α × σ × List Call :=
  (answer.1, answer.2, calls ++ [⟨path, haltOf answer.1⟩])

/-- A step of construction without what was heard. -/
def Built.unheard (r : Built (σ × List Call) β) : Built σ β :=
  ⟨r.outcome, r.built, r.world, r.state.1⟩

theorem Built.unheard_eq {r : Built (σ × List Call) β} {r' : Built σ β}
    (alike : r.Alike Eq (fun s s' => s.1 = s') r') : r.unheard = r' := by
  obtain ⟨outcome, built, w, s⟩ := r
  obtain ⟨outcome', built', w', s'⟩ := r'
  obtain ⟨rfl, rfl, rfl, rfl⟩ := alike
  rfl

namespace Source

/-- The source, with somebody listening. -/
def overheard (src : Source σ) : Source (σ × List Call) where
  typeInfo path s := hear path (src.typeInfo path s.1) s.2
  arrayMetadata path info s := hear path (src.arrayMetadata path info s.1) s.2
  scalar path tag s := hear path (src.scalar path tag s.1) s.2
  text path tag s := hear path (src.text path tag s.1) s.2
  handle path s := hear path (src.handle path s.1) s.2
  callable path s := hear path (src.callable path s.1) s.2
  fill path a w s :=
    let f := src.fill path a w s.1
    ⟨f.outcome, f.array, f.world, f.state, s.2 ++ [⟨path, refusalOf f.outcome⟩]⟩

variable (src : Source σ)

theorem alike_overheard : Alike Eq (fun s s' => s.1 = s') src.overheard src where
  scalar _ _ := by rintro rfl; exact ⟨rfl, rfl⟩
  text _ _ := by rintro rfl; exact ⟨rfl, rfl⟩
  handle _ := by rintro rfl; exact ⟨rfl, rfl⟩
  callable _ := by rintro rfl; exact ⟨rfl, rfl⟩
  typeInfo _ := by rintro rfl; exact ⟨rfl, rfl⟩
  arrayMetadata _ _ := by rintro rfl; exact ⟨rfl, rfl⟩
  fill _ _ := by rintro rfl rfl; exact ⟨rfl, rfl, rfl, rfl⟩

/-- **Listening changes nothing** of a construction. -/
theorem unheard_constructCell (depth : Nat) (path : IndexPath) (declared : Option TypeInfo)
    (cell : Cell) (w : World) (s : σ × List Call) :
    (src.overheard.constructCell depth path declared cell w s).unheard =
      src.constructCell depth path declared cell w s.1 :=
  Built.unheard_eq
    (src.alike_overheard.constructCell World.unseen_eq depth path declared cell rfl rfl)

/-! ## 3. Discipline of construction -/

/-- A step from a path was heard to be disciplined. -/
def Hears (path : IndexPath) (before : List Call) (r : Built (σ × List Call) β) : Prop :=
  ∃ calls, r.state.2 = before ++ calls ∧ Disciplined path calls (.ofNamed path r.outcome)

variable {path : IndexPath} {before : List Call} {cell : Cell} {w : World}

theorem hears_filled (result : Cell × World) (s : σ × List Call) :
    Hears path s.2 (filled result s) :=
  ⟨[], (List.append_nil _).symm, .done path⟩

theorem hears_raised {e : BridgeError} (raised : RaisedAt path (.error e)) (cell : Cell) (w : World)
    (s : σ × List Call) : Hears path s.2 (refuse path e cell w s) :=
  ⟨[], (List.append_nil _).symm, .stopped raised⟩

/-- A question that was answered, ahead of a step. -/
theorem Hears.answered {r : Built (σ × List Call) β} (step : Hears path (before ++ [⟨path, none⟩]) r) :
    Hears path before r := by
  obtain ⟨calls, heard, d⟩ := step
  exact ⟨⟨path, none⟩ :: calls, heard.trans (List.append_assoc _ _ _), d.answered⟩

theorem hears_refused (e : BridgeError) (cell : Cell) (w : World) (s : σ) (before : List Call) :
    Hears path before (refuse path e cell w (s, before ++ [⟨path, some (.error e)⟩])) :=
  ⟨_, rfl, .refused path (.error e)⟩

/-- A callable without a wire record has a signature that is too long. -/
theorem raised_toRecord {c : Callable} {e : BridgeError} (refused : (c.toRecord w).1 = .error e) :
    RaisedAt path (.error e) := by
  have tooLong : ∀ {n m}, signatureCount? n = .error m → RaisedAt path (.error (.marshal m)) := by
    intro n m counted
    rw [signatureCount?] at counted
    split at counted <;> cases counted
    exact .signature n
  simp only [Callable.toRecord] at refused
  split at refused
  · cases refused
    exact tooLong ‹_›
  · cases refused
    exact tooLong ‹_›
  · cases c <;> cases refused

/-- **A leaf** asks once at most, and stops where it is. -/
theorem hears_constructLeaf (path : IndexPath) (kind : BaseKind) (cell : Cell) (w : World)
    (s : σ × List Call) : Hears path s.2 (src.overheard.constructLeaf path kind cell w s) := by
  cases kind with
  | null => exact hears_filled _ s
  | any => exact hears_raised (.violation (by rfl)) cell w s
  | string width =>
    simp only [constructLeaf, overheard, hear]
    rcases src.text path _ s.1 with ⟨e | text, s'⟩
    · exact hears_refused e cell w s' s.2
    refine .answered ?_
    simp only
    cases cell.setText? width text w with
    | none => exact hears_raised (.violation (by rfl)) cell w (s', _)
    | some result => exact hears_filled result (s', _)
  | handle =>
    simp only [constructLeaf, overheard, hear]
    rcases src.handle path s.1 with ⟨e | offer, s'⟩
    · exact hears_refused e cell w s' s.2
    · exact .answered (hears_filled _ (s', _))
  | callable =>
    simp only [constructLeaf, overheard, hear]
    rcases src.callable path s.1 with ⟨e | callable, s'⟩
    · exact hears_refused e cell w s' s.2
    refine .answered ?_
    rcases sent : callable.toRecord w with ⟨e | record, w'⟩
    · simp only [sent]
      exact hears_raised (raised_toRecord (congrArg Prod.fst sent)) cell w' (s', _)
    · simp only [sent]
      exact hears_filled _ (s', _)
  | int | float64 | float32 | bool | char =>
    simp only [constructLeaf, overheard, hear]
    rcases src.scalar path _ s.1 with ⟨e | scalar, s'⟩
    · exact hears_refused e cell w s' s.2
    refine .answered ?_
    simp only
    split
    · exact hears_filled _ (s', _)
    · exact hears_raised (.violation (by rfl)) cell w (s', _)

theorem hears_constructManual (path : IndexPath) (layout : ArrayMetadata) (leaf : TypeTag)
    (w : World) (s : σ × List Call) :
    Hears path s.2 (src.overheard.constructManual path layout leaf w s) := by
  simp only [constructManual, overheard]
  cases (src.fill path { cells := List.replicate layout.length Cell.null } w s.1).outcome with
  | error halt => exact ⟨_, rfl, .refused path halt⟩
  | ok => exact .answered (hears_filled _ (_, _))

theorem Hears.checkElement {r : Built (σ × List Call) Cell} (step : Hears path before r) (is1D : Bool) :
    Hears path before (checkElement path is1D r) := by
  obtain ⟨calls, heard, d⟩ := step
  obtain ⟨stop | ⟨⟩, built, w, s⟩ := r
  · exact ⟨calls, heard, d⟩
  · simp only [Source.checkElement]
    split
    · exact ⟨calls, heard, d.overruled (.violation (by rfl))⟩
    · exact ⟨calls, heard, d⟩

/-- **A row** of elements, each from the path with its index. -/
theorem hears_buildRow {step : Nat → Cell → World → σ × List Call → Built (σ × List Call) Cell}
    (steps : ∀ i c w s, Hears (path ++ [i]) s.2 (step i c w s)) (i : Nat) (cells : List Cell)
    (w : World) (s : σ × List Call) : Hears path s.2 (buildRow step i cells w s) := by
  induction cells generalizing i w s with
  | nil => exact ⟨[], (List.append_nil _).symm, .done path⟩
  | cons c cs ih =>
    have element := steps i c w s
    simp only [buildRow]
    generalize step i c w s = r at element ⊢
    obtain ⟨stop | ⟨⟩, built, w', s'⟩ := r
    · obtain ⟨calls, heard, d⟩ := element
      exact ⟨calls, heard, d.within rfl⟩
    · obtain ⟨calls, heard, d⟩ := element
      obtain ⟨later, heard', d'⟩ := ih (i + 1) w' s'
      refine ⟨calls ++ later, ?_, d.next rfl d'⟩
      rw [← List.append_assoc, ← heard]
      exact heard'

/-- A type is declared, or asked for. -/
theorem overheard_resolveType (path : IndexPath) (declared : Option TypeInfo) (s : σ × List Call) :
    (∃ info, src.overheard.resolveType path declared s = (.ok info, s)) ∨
      ∃ answer, src.overheard.resolveType path declared s = hear path answer s.2 := by
  cases declared with
  | none => exact .inr ⟨_, rfl⟩
  | some info =>
    simp only [resolveType]
    cases info.isAny with
    | true => exact .inr ⟨_, rfl⟩
    | false => exact .inl ⟨info, rfl⟩

/-- What comes behind the type of a position. -/
theorem hears_typed {depth : Nat} {declared : Option TypeInfo}
    (elements : ∀ i c w s,
      Hears (path ++ [i]) s.2 (src.overheard.constructCell depth (path ++ [i]) none c w s))
    {s s' : σ × List Call} {info : TypeInfo}
    (resolved : src.overheard.resolveType path declared s = (.ok info, s')) (cell : Cell) (w : World) :
    Hears path s'.2 (src.overheard.constructCell (depth + 1) path declared cell w s) := by
  simp only [constructCell, resolved]
  split
  case isTrue => exact hears_raised (.violation (by rfl)) cell w s'
  split
  case isTrue => exact hears_raised (.violation (by rfl)) cell w s'
  split
  case isFalse =>
    cases info.wireTag.kind? with
    | none => exact hears_raised (.violation (by rfl)) cell w s'
    | some kind => exact src.hears_constructLeaf path kind cell w s'
  rw [show ∀ info, src.overheard.arrayMetadata path info s' =
    hear path (src.arrayMetadata path info s'.1) s'.2 from fun _ => rfl]
  rcases src.arrayMetadata path { info with tag := info.wireTag } s'.1 with ⟨e | layout, t⟩
  · exact hears_refused e cell w t s'.2
  refine .answered ?_
  simp only [hear, haltOf]
  split
  case isTrue => exact src.hears_constructManual path layout _ _ (t, _)
  have row := hears_buildRow (fun i c w s => (elements i c w s).checkElement layout.is1D) 0
    (List.replicate layout.length Cell.null) (w.freeCell cell) (t, s'.2 ++ [⟨path, none⟩])
  generalize buildRow _ 0 _ (w.freeCell cell) _ = r at row ⊢
  obtain ⟨stop | ⟨⟩, built, w, t⟩ := r
  · exact row
  · exact row

/-- **Construction is disciplined**, whatever the source answers. -/
theorem hears_constructCell (depth : Nat) (path : IndexPath) (declared : Option TypeInfo)
    (cell : Cell) (w : World) (s : σ × List Call) :
    Hears path s.2 (src.overheard.constructCell depth path declared cell w s) := by
  induction depth generalizing path declared cell w s with
  | zero => exact ⟨[], (List.append_nil _).symm, .stopped .tooDeep⟩
  | succ depth ih =>
    have elements := fun i c w s => ih (path ++ [i]) none c w s
    rcases src.overheard_resolveType path declared s with ⟨info, declared⟩ | ⟨⟨e | info, t⟩, asked⟩
    · exact src.hears_typed elements declared cell w
    · simp only [constructCell, asked, hear]
      exact hears_refused e cell w t s.2
    · exact .answered (src.hears_typed elements asked cell w)

/-! ## 4. Construction with one stack -/

end Source

/-- A step with a stack without what was heard. -/
def BuiltOn.unheard (r : BuiltOn (σ × List Call) β) : BuiltOn σ β :=
  ⟨r.ending, r.built, r.world, r.state.1⟩

namespace Source

/-- What construction with one stack of indices does from a path. -/
structure PathDiscipline (src : Source σ) (depth : Nat) (path : IndexPath) (declared : Option TypeInfo)
    (cell : Cell) (w : World) (s : σ) : Prop where
  /-- It is the construction with a path for each call. -/
  construction : (src.constructOn depth declared cell path w s).named =
    src.constructCell depth path declared cell w s
  /-- Listening changes nothing. -/
  unheard : (src.overheard.constructOn depth declared cell path w (s, [])).unheard =
    src.constructOn depth declared cell path w s
  /-- What is heard is disciplined. -/
  disciplined : Disciplined path (src.overheard.constructOn depth declared cell path w (s, [])).state.2
    (src.constructOn depth declared cell path w s).ending

/-- **Construction with one stack keeps to its paths.** -/
theorem pathDiscipline (src : Source σ) (depth : Nat) (path : IndexPath) (declared : Option TypeInfo)
    (cell : Cell) (w : World) (s : σ) : src.PathDiscipline depth path declared cell w s := by
  have unheard := src.unheard_constructCell depth path declared cell w (s, [])
  obtain ⟨calls, heard, d⟩ := src.hears_constructCell depth path declared cell w (s, [])
  constructor
  · rw [constructOn_eq, BuiltOn.named_onStack]
  · rw [constructOn_eq, constructOn_eq, ← unheard]
    rfl
  · rw [constructOn_eq, constructOn_eq, ← unheard]
    rw [List.nil_append] at heard
    rw [← heard] at d
    exact d

end Source

end RuntimeBridge
