/-
# What traversal makes of cells

Cells come from anywhere, so anything may lie in them.  This file says case by case what a cell means
(`Cell.Means`) and what is wrong with one that means nothing (`Cell.Fault`), and in which order traversal
comes by the cells (`Cell.visits`): depth first, an array ahead of its elements.

Decoding is a recursion on the cell (`World.decode_eq`), so what remains is a case analysis of that
recursion: it gives what the cell means if none of the cells it comes by is at fault, and the fault of
the first one otherwise.  The builder looks up a place for each value by its path; that this never
fails is part of it, because no fault says so.

Main statement: `traversal_structural`.
-/
import RuntimeBridge.Proofs.Wire.Decoding
import RuntimeBridge.Proofs.Wire.Form
namespace RuntimeBridge

/-! ## 1. Meanings and faults -/

namespace Cell

/-- What a cell means in a process. -/
inductive Means (w : World) : Cell → Value → Prop
  | null {c : Cell} (kind : c.tag.kind? = some .null) : Means w c .null
  | noRecord {c : Cell} (kind : c.tag.kind? = some .handle) (absent : c.handle? = none) :
    Means w c .null
  | nullHandle {c : Cell} {r : HandleRecord} (found : c.handle? = some r) (null : r.isNull = true) :
    Means w c .null
  | object {c : Cell} {r : HandleRecord} {o : Object} (found : c.handle? = some r)
    (nonnull : r.isNull = false) (here : r.isLocal = true)
    (registered : w.objects.resolve? r.handle = some o) : Means w c (.object o)
  | foreign {c : Cell} {r : HandleRecord} (token : Nat) (found : c.handle? = some r)
    (nonnull : r.isNull = false) (elsewhere : r.isLocal = false) : Means w c (.foreign ⟨token, r⟩)
  | scalar {c : Cell} {s : Scalar} (kind : c.tag.kind? = some s.kind) (found : c.scalar? = some s) :
    Means w c (.scalar s)
  | text {c : Cell} {width : Width} {t : String} (kind : c.tag.kind? = some (.string width))
    (found : c.text? = some t) : Means w c (.string width t)
  | callable {c : Cell} {r : CallableRecord} {f : Callable} (found : c.callable? = some r)
    (function : r.callable? w = some f) : Means w c (.callable f)
  | array {c : Cell} {items : List Cell} {dimensions : Int} {vs : List Value}
    (found : c.array? = some (items, dimensions)) (length : vs.length = items.length)
    (each : ∀ (i : Nat) d v, items[i]? = some d → vs[i]? = some v → Means w d v) :
    Means w c (.array vs)

/-- What is wrong with a cell at a path, apart from its elements. -/
inductive Fault (w : World) (path : IndexPath) (c : Cell) : Halt → Prop
  | unresolved (tag : c.tag.isAny = true) :
    Fault w path c (.error (.marshal (.unresolvedAny (.path path))))
  | nullArray (tag : c.tag.isArray = true) (absent : c.array? = none) :
    Fault w path c (.error (.marshal (.nullArray (.path path))))
  | nullCallable (kind : c.tag.kind? = some .callable)
    (absent : ∀ r, c.callable? = some r → r.point = none) :
    Fault w path c (.error (.marshal (.nullCallable (.path path))))
  | invalidChar {width : Width} (kind : c.tag.kind? = some (.char width))
    (unreadable : c.scalar? = none) : Fault w path c (.error (.marshal (.invalidChar (.path path))))
  | invalidString {width : Width} (kind : c.tag.kind? = some (.string width))
    (unreadable : c.text? = none) :
    Fault w path c (.error (.marshal (.invalidString (.path path) c.tag)))
  | dangling {r : HandleRecord} (found : c.handle? = some r) (nonnull : r.isNull = false)
    (here : r.isLocal = true) (gone : w.objects.resolve? r.handle = none) :
    Fault w path c (.error (.handle (.notFound r.handle)))
  | unknown (flat : c.tag.isArray = false) (kind : c.tag.kind? = none) :
    Fault w path c (.error (.marshal (.unknownType c.tag (.path path))))

/-- A fault is told with an error. -/
theorem Fault.error {w : World} {path : IndexPath} {c : Cell} {halt : Halt}
    (fault : c.Fault w path halt) : ∃ e, halt = .error e := by
  cases fault <;> exact ⟨_, rfl⟩

def Faultless (w : World) (path : IndexPath) (c : Cell) : Prop :=
  ∀ halt, ¬ c.Fault w path halt

mutual

/-- The cells that are in a cell, itself included, with their paths, depth first. -/
def visits : Cell → IndexPath → List (IndexPath × Cell)
  | .plain tag payload owned, path => [(path, .plain tag payload owned)]
  | .array tag items dimensions owned, path =>
    (path, .array tag items dimensions owned) ::
      if tag.isArray then visitsOf items path 0 else []

/-- The cells that are in the elements from index `i` on. -/
def visitsOf : List Cell → IndexPath → Nat → List (IndexPath × Cell)
  | [], _, _ => []
  | c :: cs, path, i => visits c (path ++ [i]) ++ visitsOf cs path (i + 1)

end

/-- The shape that a builder notes for a cell. -/
def shape? (w : World) (c : Cell) : Option ArrayShape :=
  c.array?.map fun (items, dimensions) => shape w items dimensions

end Cell

/-- Which ones the handles to objects of other runtimes in a value are, from left to right. -/
def Value.tokens (v : Value) : List Nat :=
  v.leaves.filterMap fun u =>
    match u with
    | .foreign h => some h.token
    | _ => none

/-- The fault of the first cell that is at fault. -/
def FirstFault (w : World) (visits : List (IndexPath × Cell)) (stop : Stop) : Prop :=
  ∃ before c behind, visits = before ++ (stop.path, c) :: behind ∧
    (∀ x ∈ before, x.2.Faultless w x.1) ∧ c.Fault w stop.path stop.reason

/-- What decoding cells into slots leaves if it succeeds. -/
structure DecodedTo (w : World) (cells : List Cell) (slots : Nat) (b : ValueBuilder) (after : World) :
    Prop where
  /-- No cell is at fault. -/
  faultless : ∀ x ∈ Cell.visitsOf cells [] 0, x.2.Faultless w x.1
  /-- The slots hold what the cells mean, and nulls behind that.  Handles to objects of other runtimes
  are new ones. -/
  slots : ∃ vs, b.slots = vs ++ List.replicate (slots - cells.length) .null ∧
    vs.length = cells.length ∧
    (∀ (i : Nat) c v, cells[i]? = some c → vs[i]? = some v → c.Means w v) ∧
    vs.flatMap Value.tokens = List.range' w.supply (after.supply - w.supply)
  /-- A shape is noted for the paths of array cells and for no others. -/
  shape : ∀ path, b.shape? path = (Cell.at? cells path).bind (Cell.shape? w)
  world : after = { w with supply := after.supply }

/-- Why decoding cells stops if it fails: for the first fault, and never because a place for a value
could not be found. -/
structure StoppedAt (w : World) (cells : List Cell) (stop : Stop) (after : World) : Prop where
  fault : FirstFault w (Cell.visitsOf cells [] 0) stop
  cell : ∃ c, Cell.at? cells stop.path = some c ∧ c.Fault w stop.path stop.reason
  place : ∀ path, stop.reason ≠ .error (.marshal (.typeMismatch (.path path) "value" "nothing"))
  world : after = { w with supply := after.supply }

/-! ## 2. Leaves -/

variable {w : World} {path : IndexPath}

namespace Cell

/-- Decoding a cell made something of it, using up some tokens, or stopped at the first fault in it. -/
def Told (w : World) (c : Cell) (path : IndexPath) (supply : Nat) :
    Except Stop Value × Nat → Prop
  | (.ok v, supply') => c.Means w v ∧ (∀ x ∈ c.visits path, x.2.Faultless w x.1) ∧
      ∃ n, supply' = supply + n ∧ v.tokens = List.range' supply n
  | (.error stop, _) => FirstFault w (c.visits path) stop

theorem isArray_of_kind? {c : Cell} {kind : BaseKind} (h : c.tag.kind? = some kind) :
    c.tag.isArray = false := by
  rw [TypeTag.eq_ofKind_of_kind? h]
  exact TypeTag.isArray_ofKind kind

theorem kind?_of_handle? {c : Cell} {r : HandleRecord} (h : c.handle? = some r) :
    c.tag.kind? = some .handle := by
  cases c with
  | plain tag payload owned =>
    cases payload <;> simp_all [handle?, Cell.tag, TypeTag.handle, TypeTag.kind?_ofKind]
  | array => simp [handle?] at h

theorem told_value {c : Cell} (single : c.visits path = [(path, c)]) {v : Value} {supply n : Nat}
    (means : c.Means w v) (faultless : c.Faultless w path) (tokens : v.tokens = List.range' supply n) :
    c.Told w path supply (.ok v, supply + n) := by
  refine ⟨means, ?_, n, rfl, tokens⟩
  rw [single]
  rintro x hx
  rw [List.mem_singleton.mp hx]
  exact faultless

theorem told_fault {c : Cell} (first : ∃ behind, c.visits path = (path, c) :: behind) {halt : Halt}
    (fault : c.Fault w path halt) (supply : Nat) :
    c.Told w path supply (.error ⟨halt, path⟩, supply) := by
  obtain ⟨behind, first⟩ := first
  exact ⟨[], c, behind, first, nofun, fault⟩

/-- What can be wrong with a cell that is no array, by its kind. -/
theorem faultless_of_kind {c : Cell} {kind : BaseKind} (concrete : c.tag.isAny = false)
    (is : c.tag.kind? = some kind)
    (callable : kind = .callable → ∃ r, c.callable? = some r ∧ r.point ≠ none)
    (char : ∀ width, kind = .char width → c.scalar? ≠ none)
    (text : ∀ width, kind = .string width → c.text? ≠ none)
    (handle : ∀ r, c.handle? = some r → r.isNull = false → r.isLocal = true →
      w.objects.resolve? r.handle ≠ none) : c.Faultless w path := by
  intro halt fault
  cases fault with
  | unresolved tag => simp [concrete] at tag
  | nullArray tag => simp [isArray_of_kind? is] at tag
  | nullCallable same absent =>
    obtain ⟨r, found, present⟩ := callable (Option.some.inj (is.symm.trans same))
    exact present (absent r found)
  | invalidChar same unreadable =>
    exact char _ (Option.some.inj (is.symm.trans same)) unreadable
  | invalidString same unreadable =>
    exact text _ (Option.some.inj (is.symm.trans same)) unreadable
  | dangling found nonnull here gone => exact handle _ found nonnull here gone
  | unknown flat none => cases is.symm.trans none

/-- An array is not at fault itself. -/
theorem faultless_of_array {c : Cell} {items : List Cell} {dimensions : Int}
    (found : c.array? = some (items, dimensions)) : c.Faultless w path := by
  have isArray : c.tag.isArray = true := by
    cases c with
    | plain => simp [array?] at found
    | array tag items dimensions owned =>
      rw [array?] at found
      split at found
      · assumption
      · cases found
  intro halt fault
  cases fault with
  | unresolved tag =>
    rw [show c.tag = .any from beq_iff_eq.mp tag] at isArray
    exact absurd isArray (by decide)
  | nullArray tag absent => simp [absent] at found
  | nullCallable kind _ | invalidChar kind _ | invalidString kind _ =>
    simp [isArray_of_kind? kind] at isArray
  | dangling record _ _ _ => simp [isArray_of_kind? (kind?_of_handle? record)] at isArray
  | unknown flat _ => simp [flat] at isArray

theorem kind_of_scalar? {c : Cell} {s : Scalar} (found : c.scalar? = some s) :
    c.tag.kind? = some s.kind := by
  obtain ⟨kind, is, read⟩ := Option.bind_eq_some_iff.mp found
  rw [is]
  cases kind with
  | char width =>
    obtain ⟨ch, -, rfl⟩ := Option.map_eq_some_iff.mp read
    rfl
  | _ =>
    cases read
    try rfl

/-- Only a character cannot be read from its word. -/
theorem scalar?_eq_none {c : Cell} {kind : BaseKind} (is : c.tag.kind? = some kind)
    (scalar : kind.isScalar = true) (unreadable : c.scalar? = none) : ∃ width, kind = .char width := by
  cases kind with
  | char width => exact ⟨width, rfl⟩
  | int | float64 | float32 | bool => simp [scalar?, is, Scalar.ofWord?] at unreadable
  | string | handle | callable | null | any => cases scalar

/-- Only a cell of the handle kind can name an object that is gone. -/
theorem not_dangling {c : Cell} {kind : BaseKind} (is : c.tag.kind? = some kind)
    (other : kind ≠ .handle) : ∀ r, c.handle? = some r → r.isNull = false → r.isLocal = true →
      w.objects.resolve? r.handle ≠ none := by
  intro r found
  exact absurd (Option.some.inj (is.symm.trans (kind?_of_handle? found))) other

section

variable {c : Cell} (single : c.visits path = [(path, c)]) (supply : Nat)

include single

theorem told_one {v : Value} (means : c.Means w v) (faultless : c.Faultless w path)
    (tokens : v.tokens = []) : c.Told w path supply (.ok v, supply) :=
  told_value (n := 0) single means faultless (by simpa using tokens)

theorem told_scalar {kind : BaseKind} (concrete : c.tag.isAny = false)
    (is : c.tag.kind? = some kind) (scalar : kind.isScalar = true) :
    c.Told w path supply
      (match c.scalar? with
      | some s => (.ok (.scalar s), supply)
      | none => (.error ⟨.marshal (.invalidChar (.path path)), path⟩, supply)) := by
  cases found : c.scalar? with
  | none =>
    obtain ⟨width, rfl⟩ := scalar?_eq_none is scalar found
    exact told_fault ⟨[], single⟩ (.invalidChar is found) supply
  | some s =>
    refine told_one single supply (.scalar (kind_of_scalar? found) found) ?_ rfl
    refine faultless_of_kind concrete is ?_ (fun _ _ => by simp [found]) ?_ (not_dangling is ?_)
    · rintro rfl
      exact absurd scalar Bool.false_ne_true
    · rintro width rfl
      exact absurd scalar Bool.false_ne_true
    · rintro rfl
      exact absurd scalar Bool.false_ne_true

theorem told_handle (concrete : c.tag.isAny = false) (is : c.tag.kind? = some .handle) :
    c.Told w path supply
      (match c.handle? with
      | none => (.ok .null, supply)
      | some r =>
        if r.isNull then (.ok .null, supply)
        else if r.isLocal then
          match w.resolveLocal r with
          | .ok o => (.ok (.object o), supply)
          | .error e => (.error ⟨.error (.handle e), path⟩, supply)
        else (.ok (.foreign ⟨supply, r⟩), supply + 1)) := by
  have faultless : (∀ r, c.handle? = some r → r.isNull = false → r.isLocal = true →
      w.objects.resolve? r.handle ≠ none) → c.Faultless w path :=
    faultless_of_kind concrete is (by simp) (by simp) (by simp)
  cases found : c.handle? with
  | none =>
    exact told_one single supply (.noRecord is found)
      (faultless fun r found' => by simp [found] at found') rfl
  | some r =>
    simp only
    cases null : r.isNull with
    | true =>
      refine told_one single supply (.nullHandle found null)
        (faultless fun r' found' nonnull => ?_) rfl
      cases found.symm.trans found'
      simp [null] at nonnull
    | false =>
      simp only [Bool.false_eq_true, if_false]
      cases here : r.isLocal with
      | true =>
        simp only [if_true, World.resolveLocal]
        cases object : w.objects.resolve? r.handle with
        | none => exact told_fault ⟨[], single⟩ (.dangling found null here object) supply
        | some o =>
          refine told_one single supply (.object found null here object)
            (faultless fun r' found' _ _ => ?_) rfl
          cases found.symm.trans found'
          simp [object]
      | false =>
        refine told_value (n := 1) single (.foreign supply found null here)
          (faultless fun r' found' _ here' => ?_) rfl
        cases found.symm.trans found'
        simp [here] at here'

/-- A cell that is no array is decoded to what it means, or is at fault. -/
theorem decodeLeaf_told (concrete : c.tag.isAny = false) (flat : c.tag.isArray = false) :
    c.Told w path supply (c.decodeLeaf w path supply) := by
  unfold decodeLeaf
  cases kind : c.tag.kind? with
  | none => exact told_fault ⟨[], single⟩ (.unknown flat kind) supply
  | some k =>
    cases k with
    | null =>
      exact told_one single supply (.null kind) (faultless_of_kind concrete kind (by simp) (by simp)
        (by simp) (not_dangling kind (by simp))) rfl
    | string width =>
      cases found : c.text? with
      | none => exact told_fault ⟨[], single⟩ (.invalidString kind found) supply
      | some text =>
        exact told_one single supply (.text kind found) (faultless_of_kind concrete kind (by simp)
          (by simp) (fun _ _ => by simp [found]) (not_dangling kind (by simp))) rfl
    | handle => exact told_handle single supply concrete kind
    | callable =>
      simp only
      cases found : c.callable?.bind fun r => r.callable? w with
      | none =>
        refine told_fault ⟨[], single⟩ (.nullCallable kind fun r record => ?_) supply
        simpa [record, CallableRecord.callable?] using found
      | some f =>
        obtain ⟨r, record, function⟩ := Option.bind_eq_some_iff.mp found
        refine told_one single supply (.callable record function)
          (faultless_of_kind concrete kind (fun _ => ?_) (by simp) (by simp)
            (not_dangling kind (by simp))) rfl
        refine ⟨r, record, fun absent => ?_⟩
        simp [CallableRecord.callable?, absent] at function
    | any =>
      have tag := TypeTag.eq_ofKind_of_kind? kind
      simp [TypeTag.isAny, TypeTag.any, tag] at concrete
    | int | float64 | float32 | bool | char => exact told_scalar single supply concrete kind rfl

end

/-! ## 3. Cells and their elements -/

end Cell

theorem FirstFault.append {xs : List (IndexPath × Cell)} {stop : Stop} (h : FirstFault w xs stop)
    (ys : List (IndexPath × Cell)) : FirstFault w (xs ++ ys) stop := by
  obtain ⟨before, c, behind, rfl, faultless, fault⟩ := h
  exact ⟨before, c, behind ++ ys, by simp, faultless, fault⟩

theorem FirstFault.behind {xs ys : List (IndexPath × Cell)} {stop : Stop}
    (faultless : ∀ x ∈ xs, x.2.Faultless w x.1) (h : FirstFault w ys stop) :
    FirstFault w (xs ++ ys) stop := by
  obtain ⟨before, c, behind, rfl, here, fault⟩ := h
  refine ⟨xs ++ before, c, behind, by simp, fun x hx => ?_, fault⟩
  rcases List.mem_append.mp hx with hx | hx
  · exact faultless x hx
  · exact here x hx

theorem Value.tokens_array (vs : List Value) : (array vs).tokens = vs.flatMap tokens := by
  rw [tokens, leaves_array, leavesOf_eq_flatMap, List.filterMap_flatMap]
  rfl

namespace Cell

/-- As `Told`, for the elements from index `i` on. -/
def RowTold (w : World) (cells : List Cell) (path : IndexPath) (i supply : Nat) :
    Except Stop (List Value) × Nat → Prop
  | (.ok vs, supply') => vs.length = cells.length ∧
      (∀ (j : Nat) c v, cells[j]? = some c → vs[j]? = some v → c.Means w v) ∧
      (∀ x ∈ visitsOf cells path i, x.2.Faultless w x.1) ∧
      ∃ n, supply' = supply + n ∧ vs.flatMap Value.tokens = List.range' supply n
  | (.error stop, _) => FirstFault w (visitsOf cells path i) stop

theorem decodeRow_told {cells : List Cell}
    (each : ∀ c ∈ cells, ∀ path supply, c.Told w path supply (c.decode w path supply))
    (path : IndexPath) (i supply : Nat) :
    RowTold w cells path i supply (decodeRow w cells path i supply) := by
  induction cells generalizing i supply with
  | nil =>
    rw [decodeRow]
    exact ⟨rfl, by simp, by simp [visitsOf], 0, rfl, rfl⟩
  | cons c cs ih =>
    have here := each c List.mem_cons_self (path ++ [i]) supply
    rw [decodeRow]
    rcases decoded : c.decode w (path ++ [i]) supply with ⟨stop | v, supply₁⟩
    · rw [decoded] at here
      exact FirstFault.append here _
    · rw [decoded] at here
      obtain ⟨means, faultless, n, rfl, tokens⟩ := here
      have rest := ih (fun d mem => each d (List.mem_cons_of_mem _ mem)) (i + 1) (supply + n)
      simp only
      rcases row : decodeRow w cs path (i + 1) (supply + n) with ⟨stop | vs, supply₂⟩
      · rw [row] at rest
        exact FirstFault.behind faultless rest
      · rw [row] at rest
        obtain ⟨length, meanings, later, m, rfl, more⟩ := rest
        refine ⟨by simp [length], ?_, ?_, n + m, by omega, ?_⟩
        · intro j d u atCell atValue
          cases j with
          | zero =>
            cases atCell
            cases atValue
            exact means
          | succ j => exact meanings j d u atCell atValue
        · intro x hx
          rcases List.mem_append.mp hx with hx | hx
          · exact faultless x hx
          · exact later x hx
        · rw [List.flatMap_cons, tokens, more, List.range'_append_1]

/-- **A cell is decoded to what it means**, or decoding stops at the first fault in it. -/
theorem decode_told (c : Cell) (path : IndexPath) (supply : Nat) :
    c.Told w path supply (c.decode w path supply) := by
  induction c using Cell.induct generalizing path supply with
  | plain tag payload owned =>
    rw [decode]
    split
    case isTrue isAny =>
      exact told_fault (c := plain tag payload owned) ⟨[], rfl⟩ (.unresolved isAny) supply
    case isFalse concrete =>
      split
      case isTrue isArray =>
        exact told_fault (c := plain tag payload owned) ⟨[], rfl⟩ (.nullArray isArray rfl) supply
      case isFalse flat =>
        exact decodeLeaf_told rfl supply (Bool.not_eq_true _ ▸ concrete) (Bool.not_eq_true _ ▸ flat)
  | array tag items dimensions owned ih =>
    rw [decode]
    split
    case isTrue isAny =>
      exact told_fault (c := array tag items dimensions owned) ⟨_, rfl⟩ (.unresolved isAny) supply
    case isFalse concrete =>
      split
      case isFalse flat =>
        exact decodeLeaf_told (by simp [visits, flat]) supply (Bool.not_eq_true _ ▸ concrete)
          (Bool.not_eq_true _ ▸ flat)
      case isTrue isArray =>
        have found : (array tag items dimensions owned).array? = some (items, dimensions) := by
          simp [array?, isArray]
        have itself : (array tag items dimensions owned).Faultless w path := faultless_of_array found
        have visits_eq : (array tag items dimensions owned).visits path =
            [(path, array tag items dimensions owned)] ++ visitsOf items path 0 := by
          simp [visits, isArray]
        have row := decodeRow_told ih path 0 supply
        rcases decoded : decodeRow w items path 0 supply with ⟨stop | vs, supply'⟩
        · rw [decoded] at row
          have stopped : FirstFault w ((array tag items dimensions owned).visits path) stop := by
            rw [visits_eq]
            exact FirstFault.behind (by simpa using itself) row
          exact stopped
        · rw [decoded] at row
          obtain ⟨length, meanings, faultless, n, rfl, tokens⟩ := row
          refine ⟨.array found length meanings, ?_, n, rfl, ?_⟩
          · rw [visits_eq]
            intro x hx
            rcases List.mem_append.mp hx with hx | hx
            · rw [List.mem_singleton.mp hx]
              exact itself
            · exact faultless x hx
          · rw [Value.tokens_array, tokens]

/-! ## 4. Paths and shapes -/

mutual

theorem shapes_eq_visits (w : World) : ∀ (c : Cell) (path : IndexPath),
    c.shapes w path = (c.visits path).filterMap fun x => (x.2.shape? w).map (x.1, ·)
  | .plain tag payload owned, path => by simp [shapes, visits, shape?, array?]
  | .array tag items dimensions owned, path => by
    rw [shapes, visits]
    by_cases isArray : tag.isArray = true
    · simp [isArray, shape?, array?, shapesOf_eq_visits w items path 0]
    · simp [isArray, shape?, array?]

/-- The shapes are those of the array cells that traversal comes by. -/
theorem shapesOf_eq_visits (w : World) : ∀ (cs : List Cell) (path : IndexPath) (i : Nat),
    shapesOf w cs path i = (visitsOf cs path i).filterMap fun x => (x.2.shape? w).map (x.1, ·)
  | [], path, i => by simp [shapesOf, visitsOf]
  | c :: cs, path, i => by
    rw [shapesOf, visitsOf, List.filterMap_append, shapes_eq_visits w c, shapesOf_eq_visits w cs]

end

theorem mem_visitsOf_of {cs : List Cell}
    (each : ∀ c ∈ cs, ∀ path p d,
      (p, d) ∈ c.visits path ↔ ∃ rest, p = path ++ rest ∧ c.descend? rest = some d)
    (path p : IndexPath) (i : Nat) (d : Cell) :
    (p, d) ∈ visitsOf cs path i ↔
      ∃ j rest c, p = path ++ (i + j) :: rest ∧ cs[j]? = some c ∧ c.descend? rest = some d := by
  induction cs generalizing i with
  | nil => simp [visitsOf]
  | cons c cs ih =>
    rw [visitsOf, List.mem_append, each c List.mem_cons_self,
      ih fun d mem => each d (List.mem_cons_of_mem _ mem)]
    constructor
    · rintro (⟨rest, rfl, found⟩ | ⟨j, rest, c', rfl, atCell, found⟩)
      · exact ⟨0, rest, c, by simp, rfl, found⟩
      · exact ⟨j + 1, rest, c', by rw [Nat.add_right_comm, Nat.add_assoc], atCell, found⟩
    · rintro ⟨j, rest, c', rfl, atCell, found⟩
      cases j with
      | zero =>
        cases atCell
        exact .inl ⟨rest, by simp, found⟩
      | succ j =>
        exact .inr ⟨j, rest, c', by rw [Nat.add_right_comm, Nat.add_assoc], atCell, found⟩

/-- Traversal comes by every cell that indices lead to, and by no other. -/
theorem mem_visits (c : Cell) (path p : IndexPath) (d : Cell) :
    (p, d) ∈ c.visits path ↔ ∃ rest, p = path ++ rest ∧ c.descend? rest = some d := by
  induction c using Cell.induct generalizing path p d with
  | plain tag payload owned =>
    rw [visits, List.mem_singleton]
    constructor
    · intro same
      cases same
      exact ⟨[], by simp, rfl⟩
    · rintro ⟨rest, rfl, found⟩
      cases rest with
      | nil =>
        cases found
        simp
      | cons i rest => simp [descend?, items?, array?] at found
  | array tag items dimensions owned ih =>
    rw [visits, List.mem_cons]
    by_cases isArray : tag.isArray = true
    · rw [if_pos isArray, mem_visitsOf_of ih]
      constructor
      · rintro (same | ⟨j, rest, c, rfl, atCell, found⟩)
        · cases same
          exact ⟨[], by simp, rfl⟩
        · exact ⟨j :: rest, by simp, by simp [descend?, items?, array?, isArray, atCell, found]⟩
      · rintro ⟨rest, rfl, found⟩
        cases rest with
        | nil =>
          cases found
          exact .inl (by simp)
        | cons j rest =>
          obtain ⟨c, atCell, found⟩ := Option.bind_eq_some_iff.mp found
          refine .inr ⟨j, rest, c, by simp, ?_, found⟩
          simpa [items?, array?, isArray] using atCell
    · rw [if_neg isArray]
      constructor
      · rintro (same | absent)
        · cases same
          exact ⟨[], by simp, rfl⟩
        · cases absent
      · rintro ⟨rest, rfl, found⟩
        cases rest with
        | nil =>
          cases found
          exact .inl (by simp)
        | cons j rest => simp [descend?, items?, array?, isArray] at found

theorem mem_visitsOf (cells : List Cell) (p : IndexPath) (d : Cell) :
    (p, d) ∈ visitsOf cells [] 0 ↔ at? cells p = some d := by
  rw [mem_visitsOf_of fun c _ => mem_visits c]
  cases p with
  | nil => simp [at?]
  | cons i rest =>
    rw [at?, Option.bind_eq_some_iff]
    constructor
    · rintro ⟨j, rest', c, same, atCell, found⟩
      simp only [List.nil_append, Nat.zero_add, List.cons.injEq] at same
      obtain ⟨rfl, rfl⟩ := same
      exact ⟨c, atCell, found⟩
    · rintro ⟨c, atCell, found⟩
      exact ⟨i, rest, c, by simp, atCell, found⟩

/-- Looking up a path among the shapes finds what lies at the path. -/
theorem find?_shapesOf (w : World) (cells : List Cell) (p : IndexPath) :
    ((shapesOf w cells [] 0).find? fun e => e.1 == p).map Prod.snd =
      (at? cells p).bind (shape? w) := by
  have noted : ∀ e, e ∈ shapesOf w cells [] 0 ↔
      ∃ c, at? cells e.1 = some c ∧ c.shape? w = some e.2 := by
    rintro ⟨q, shape⟩
    rw [shapesOf_eq_visits, List.mem_filterMap]
    constructor
    · rintro ⟨⟨q', c⟩, visited, here⟩
      obtain ⟨shape', found, same⟩ := Option.map_eq_some_iff.mp here
      cases same
      exact ⟨c, (mem_visitsOf cells q' c).mp visited, found⟩
    · rintro ⟨c, visited, found⟩
      exact ⟨(q, c), (mem_visitsOf cells q c).mpr visited, by simp [found]⟩
  cases looked : (shapesOf w cells [] 0).find? fun e => e.1 == p with
  | some e =>
    obtain ⟨c, here, found⟩ := (noted e).mp (List.mem_of_find?_eq_some looked)
    have same : e.1 = p := by simpa using List.find?_some looked
    rw [same] at here
    rw [here, Option.map_some, Option.bind_some, found]
  | none =>
    symm
    rw [Option.map_none, Option.bind_eq_none_iff]
    intro c here
    refine Option.eq_none_iff_forall_ne_some.mpr fun shape found => ?_
    have absent := List.find?_eq_none.mp looked (p, shape) ((noted _).mpr ⟨c, here, found⟩)
    exact absent (beq_self_eq_true p)

end Cell

/-! ## 5. Traversal -/

/-- **Traversal decodes structurally.**  Cells of any tags and payloads are decoded to what they mean,
each in its slot, with nulls behind them; or decoding stops at the first cell at fault, depth first in
the order of the indices, with that cell's fault. -/
theorem traversal_structural (w : World) (cells : List Cell) (slots : Nat) :
    match w.decode cells slots with
    | (.ok b, after) => DecodedTo w cells slots b after
    | (.error stop, after) => StoppedAt w cells stop after := by
  have told := Cell.decodeRow_told (w := w) (fun c (_ : c ∈ cells) => Cell.decode_told c) [] 0 w.supply
  have decoded := w.decode_eq cells slots
  rcases row : Cell.decodeRow w cells [] 0 w.supply with ⟨stop | vs, supply⟩
  · rw [row] at told decoded
    simp only at decoded
    rw [decoded]
    have first : FirstFault w (Cell.visitsOf cells [] 0) stop := told
    obtain ⟨before, c, behind, visits, -, fault⟩ := told
    refine ⟨first, ⟨c, ?_, fault⟩, fun path same => ?_, rfl⟩
    · rw [← Cell.mem_visitsOf, visits]
      simp
    · rw [same] at fault
      cases fault
  · rw [row] at told decoded
    simp only at decoded
    rw [decoded]
    obtain ⟨length, meanings, faultless, n, rfl, tokens⟩ := told
    exact {
      faultless
      slots := ⟨vs, rfl, length, meanings, by simpa using tokens⟩
      shape := Cell.find?_shapesOf w cells
      world := rfl }

end RuntimeBridge
