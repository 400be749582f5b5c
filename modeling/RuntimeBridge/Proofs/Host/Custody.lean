/-
# Handles of other runtimes on their way back

An object of another runtime comes in as a handle record and goes back through the record's callback.
Each decoding of the record makes a handle with a release state of its own: clones of the handle share
that state, handles from other decodings do not, although they stand for the same object.  So the
owner's callback runs once for every decoding whose handle, or a clone of it, was released.

Main statements: `Held.step`, the account that every step keeps, and `released_once_iff`, the object is
given back once just when all releases go to clones of one handle.
-/
import RuntimeBridge.Proofs.Wire.Carry
import RuntimeBridge.Proofs.Wire.Structure
import Mathlib.Data.Finset.Card
import Mathlib.Data.Finset.Dedup
namespace RuntimeBridge

/-! ## 1. Decoding a record -/

/-- A cell that holds a handle record is a leaf. -/
theorem Cell.eq_plain_of_handle? {c : Cell} {r : HandleRecord} (held : c.handle? = some r) :
    ∃ owned, c = .plain .handle (.handle r) owned := by
  cases c with
  | array => simp [handle?] at held
  | plain tag payload owned =>
    cases payload with
    | handle record =>
      simp only [handle?, Option.ite_none_right_eq_some, beq_iff_eq, Option.some.injEq] at held
      obtain ⟨rfl, rfl⟩ := held
      exact ⟨owned, rfl⟩
    | _ => simp [handle?] at held

theorem World.decode_single {w : World} {c : Cell} {v : Value} {supply : Nat}
    (decoded : c.decode w [0] w.supply = (.ok v, supply)) :
    w.decode [c] 1 = (.ok ⟨[v], Cell.shapesOf w [c] [] 0, supply⟩, { w with supply }) := by
  have whole := w.decode_eq [c] 1
  simpa only [Cell.decodeRow, List.nil_append, decoded, List.length_singleton, Nat.sub_self,
    List.replicate_zero, List.append_nil] using whole

/-- **Decoding makes a handle of its own** for the record of another runtime. -/
theorem World.decode_foreign {c : Cell} {r : HandleRecord} (held : c.handle? = some r)
    (notNull : r.isNull = false) (notLocal : r.isLocal = false) (w : World) :
    w.decode [c] 1 =
      (.ok ⟨[.foreign ⟨w.supply, r⟩], [], w.supply + 1⟩, { w with supply := w.supply + 1 }) := by
  obtain ⟨owned, rfl⟩ := Cell.eq_plain_of_handle? held
  have known : BaseKind.handle ≠ .any := nofun
  refine World.decode_single ((Cell.decode_plain known w _ owned [0] w.supply).trans ?_)
  have kind : (Cell.plain (.ofKind .handle) (.handle r) owned).tag.kind? = some .handle :=
    TypeTag.kind?_ofKind .handle
  have read : (Cell.plain (.ofKind .handle) (.handle r) owned).handle? = some r := held
  rw [Cell.decodeLeaf, kind]
  simp only [read, notNull, notLocal, Bool.false_eq_true, if_false]

theorem World.decode_null (w : World) : w.decode [.null] 1 = (.ok ⟨[.null], [], w.supply⟩, w) :=
  World.decode_single rfl

/-! ## 2. Sending a handle -/

/-- Filled as one of a kind, a handle of another runtime leaves its record or nothing. -/
theorem fill_foreign (h : ForeignHandle) (path : IndexPath) (kind : BaseKind) (w : World) :
    let r := (Value.foreign h).fill path kind .null w
    r.world = w ∧ (r.outcome = .ok () → r.built = .null ∨ r.built = .ofHandle h.record) := by
  have refused : ∀ e, (Source.refuse path e .null w ()).world = w ∧
      ((Source.refuse path e .null w ()).outcome = .ok () →
        (Source.refuse path e .null w ()).built = .null ∨
          (Source.refuse path e .null w ()).built = .ofHandle h.record) := fun e =>
    ⟨rfl, fun _ => .inl rfl⟩
  cases kind with
  | null => exact ⟨rfl, fun _ => .inl rfl⟩
  | handle => exact ⟨rfl, fun _ => .inr rfl⟩
  | _ => exact refused _

/-- **Sending a handle** of another runtime changes nothing in the process: under any declared type the
cell holds its record, or nothing, if it is filled at all. -/
theorem construct_foreign (h : ForeignHandle) (declared : List TypeInfo) (w : World) :
    let r := ValueSource.construct ⟨[.foreign h], declared⟩ { cells := [.null] } w
    r.2.2 = w ∧
      (r.1 = .ok () → r.2.1.cells = [.null] ∨ r.2.1.cells = [.ofHandle h.record]) := by
  let src : ValueSource := ⟨[.foreign h], declared⟩
  have deeper : (Value.foreign h).depth < src.depth :=
    ValueSource.depth_lt (List.mem_singleton_self _)
  have top : src.source.constructCell src.depth [0] src.declared[0]? .null w () =
      (Value.foreign h).buildTop 0 src.declared[0]? .null w :=
    constructCell_eq_buildTop rfl deeper .null w
  have built : ((Value.foreign h).buildTop 0 src.declared[0]? .null w).world = w ∧
      (((Value.foreign h).buildTop 0 src.declared[0]? .null w).outcome = .ok () →
        ((Value.foreign h).buildTop 0 src.declared[0]? .null w).built = .null ∨
          ((Value.foreign h).buildTop 0 src.declared[0]? .null w).built = .ofHandle h.record) := by
    simp only [Value.buildTop, Value.items?]
    repeat' split
    all_goals first
      | exact ⟨rfl, fun _ => .inl rfl⟩
      | exact fill_foreign h [0] _ w
  rw [← top] at built
  simp only [ValueSource.construct, Source.constructArray, buildRow]
  cases outcome : (src.source.constructCell src.depth [0] src.declared[0]? .null w ()).outcome with
  | error stop => exact ⟨built.1, fun ok => by simp at ok⟩
  | ok =>
    have cell := built.2 outcome
    simp only [src] at outcome built cell ⊢
    simpa [outcome, built.1] using cell

/-! ## 3. Handles in custody -/

/-- A handle with the number of its family: a handle that a decoding made, and its clones. -/
structure Obtained where
  handle : ForeignHandle
  family : Nat

/-- The process with the handles that were obtained in it. -/
structure Custody where
  world : World
  obtained : List Obtained := []
  /-- What each `release` was called on, by family, and what it answered. -/
  calls : List (Nat × Except HandleError Unit) := []

inductive CustodyOp where
  /-- Traverse the cell that holds the record. -/
  | traverse
  /-- Clone handle `i`. -/
  | clone (i : Nat)
  /-- Construct handle `i` under declared types, and traverse what was constructed. -/
  | send (i : Nat) (declared : List TypeInfo)
  /-- Release handle `i`. -/
  | release (i : Nat)

namespace Custody

/-- Traverse some cells, and keep the handle that comes out. -/
def receive (s : Custody) (cells : List Cell) : Custody :=
  match s.world.decode cells 1 with
  | (.ok b, world) =>
    match b.slots with
    | [.foreign handle] =>
      { s with world, obtained := s.obtained ++ [⟨handle, s.obtained.length⟩] }
    | _ => { s with world }
  | (.error _, world) => { s with world }

def step (c : Cell) (s : Custody) : CustodyOp → Custody
  | .traverse => s.receive [c]
  | .clone i =>
    match s.obtained[i]? with
    | some o => { s with obtained := s.obtained ++ [o] }
    | none => s
  | .send i declared =>
    match s.obtained[i]? with
    | some o =>
      match ValueSource.construct ⟨[.foreign o.handle], declared⟩ { cells := [.null] } s.world with
      | (.ok (), a, world) => { s with world }.receive a.cells
      | (.error _, _, world) => { s with world }
    | none => s
  | .release i =>
    match s.obtained[i]? with
    | some o =>
      let (answer, world) := s.world.releaseForeign o.handle
      { s with world, calls := s.calls ++ [(o.family, answer)] }
    | none => s

/-- What happens while a cell holds the record. -/
def run (c : Cell) (s : Custody) (ops : List CustodyOp) : Custody :=
  ops.foldl (step c) s

/-- The families that `release` was called on, call by call. -/
def families (s : Custody) : List Nat :=
  s.calls.map Prod.fst

/-- The account of a record in custody; `before` are the callbacks of earlier times. -/
structure Held (r : HandleRecord) (before : List HandleRecord) (s : Custody) : Prop where
  records : ∀ o ∈ s.obtained, o.handle.record = r
  minted : ∀ o ∈ s.obtained, o.handle.token < s.world.supply
  numbered : ∀ o ∈ s.obtained, o.family < s.obtained.length
  /-- Release state is shared within a family, and not beyond. -/
  shared : ∀ o ∈ s.obtained, ∀ p ∈ s.obtained,
    o.handle.token = p.handle.token ↔ o.family = p.family
  known : ∀ t ∈ s.world.released, t < s.world.supply
  called : ∀ f ∈ s.families, f < s.obtained.length
  released : ∀ o ∈ s.obtained, o.handle.token ∈ s.world.released ↔ o.family ∈ s.families
  /-- The first call on a family succeeds, and no other. -/
  answered : ∀ (k : Nat) f answer, s.calls[k]? = some (f, answer) →
    answer = if f ∈ s.families.take k then .error .alreadyReleased else .ok ()
  /-- The owner was called back once for each family. -/
  callbacks : s.world.callbacks = before ++ List.replicate s.families.toFinset.card r

namespace Held

variable {r : HandleRecord} {before : List HandleRecord} {s : Custody}

theorem start {w : World} (known : ∀ t ∈ w.released, t < w.supply) :
    Held r w.callbacks { world := w } where
  records := by simp
  minted := by simp
  numbered := by simp
  shared := by simp
  known := known
  called := by simp [families]
  released := by simp
  answered := by simp
  callbacks := by simp [families]

/-- **A decoding** makes a family of its own, which was not released. -/
theorem receive (held : Held r before s) {c : Cell} (holds : c.handle? = some r)
    (notNull : r.isNull = false) (notLocal : r.isLocal = false) : Held r before (s.receive [c]) := by
  have decoded := World.decode_foreign holds notNull notLocal s.world
  simp only [Custody.receive, decoded]
  have older : ∀ o ∈ s.obtained, s.world.supply ≠ o.handle.token ∧ s.obtained.length ≠ o.family :=
    fun o mem => ⟨Nat.ne_of_gt (held.minted o mem), Nat.ne_of_gt (held.numbered o mem)⟩
  have unreleased : s.world.supply ∉ s.world.released := fun mem =>
    Nat.lt_irrefl _ (held.known _ mem)
  have uncalled : s.obtained.length ∉ s.families := fun mem =>
    Nat.lt_irrefl _ (held.called _ mem)
  constructor
  · simpa [or_imp, forall_and] using held.records
  · simp only [List.mem_append, List.mem_singleton]
    rintro o (mem | rfl)
    · exact Nat.lt_succ_of_lt (held.minted o mem)
    · exact Nat.lt_succ_self _
  · simp only [List.mem_append, List.mem_singleton, List.length_append, List.length_singleton]
    rintro o (mem | rfl)
    · exact Nat.lt_succ_of_lt (held.numbered o mem)
    · exact Nat.lt_succ_self _
  · simp only [List.mem_append, List.mem_singleton]
    rintro o (mem | rfl) p (mem' | rfl)
    · exact held.shared o mem p mem'
    · simp [(older o mem).1.symm, (older o mem).2.symm]
    · simp [(older p mem').1, (older p mem').2]
    · simp
  · exact fun t mem => Nat.lt_succ_of_lt (held.known t mem)
  · intro f mem
    simp only [List.length_append, List.length_singleton]
    exact Nat.lt_succ_of_lt (held.called f mem)
  · simp only [List.mem_append, List.mem_singleton]
    rintro o (mem | rfl)
    · exact held.released o mem
    · exact iff_of_false unreleased uncalled
  · exact held.answered
  · exact held.callbacks

/-- **A clone** belongs to the family of its original. -/
theorem clone (held : Held r before s) {o : Obtained} (mem : o ∈ s.obtained) :
    Held r before { s with obtained := s.obtained ++ [o] } := by
  have same : ∀ p, p ∈ s.obtained ++ [o] ↔ p ∈ s.obtained := by
    intro p
    simp only [List.mem_append, List.mem_singleton, or_iff_left_iff_imp]
    rintro rfl
    exact mem
  have longer : s.obtained.length ≤ (s.obtained ++ [o]).length := by simp
  constructor
  · exact fun p inAll => held.records p ((same p).mp inAll)
  · exact fun p inAll => held.minted p ((same p).mp inAll)
  · exact fun p inAll => Nat.lt_of_lt_of_le (held.numbered p ((same p).mp inAll)) longer
  · exact fun p inAll q inAll' => held.shared p ((same p).mp inAll) q ((same q).mp inAll')
  · exact held.known
  · exact fun f called => Nat.lt_of_lt_of_le (held.called f called) longer
  · exact fun p inAll => held.released p ((same p).mp inAll)
  · exact held.answered
  · exact held.callbacks

end Held

end Custody

/-- Releasing a handle of another runtime calls its owner back, unless its state says that this was
done; then it is done. -/
theorem World.releaseForeign_owner {h : ForeignHandle} (hook : h.record.release = some .owner)
    (w : World) :
    let a := w.releaseForeign h
    a.1 = (if h.token ∈ w.released then .error .alreadyReleased else .ok ()) ∧
      a.2.supply = w.supply ∧ (∀ t, t ∈ a.2.released ↔ t = h.token ∨ t ∈ w.released) ∧
      a.2.callbacks = if h.token ∈ w.released then w.callbacks else w.callbacks ++ [h.record] := by
  simp only [releaseForeign, hook, isReleased, List.contains_eq_mem, decide_eq_true_eq]
  split
  next again =>
    refine ⟨rfl, rfl, fun t => ⟨.inr, fun either => either.elim ?_ id⟩, rfl⟩
    rintro rfl
    exact again
  next => exact ⟨rfl, rfl, fun t => List.mem_cons, rfl⟩

namespace Custody.Held

variable {r : HandleRecord} {before : List HandleRecord} {s : Custody}

/-- **A call of `release`** succeeds if it is the first one on its family, and then calls the owner
back. -/
theorem release (held : Held r before s) (hook : r.release = some .owner) {o : Obtained}
    (mem : o ∈ s.obtained) :
    let a := s.world.releaseForeign o.handle
    Held r before { s with world := a.2, calls := s.calls ++ [(o.family, a.1)] } := by
  intro a
  obtain ⟨answer, supply, released, callbacks⟩ :=
    World.releaseForeign_owner (held.records o mem ▸ hook) s.world
  simp only [held.released o mem] at answer callbacks
  have families : Custody.families { s with world := a.2, calls := s.calls ++ [(o.family, a.1)] } =
      s.families ++ [o.family] := by
    simp [Custody.families]
  have count : s.families.length = s.calls.length := by simp [Custody.families]
  constructor
  · exact held.records
  · exact fun p mem' => supply.symm ▸ held.minted p mem'
  · exact held.numbered
  · exact held.shared
  · intro t mem'
    show t < a.2.supply
    rw [supply]
    rcases (released t).mp mem' with rfl | mem'
    · exact held.minted o mem
    · exact held.known t mem'
  · rw [families]
    simp only [List.mem_append, List.mem_singleton]
    rintro f (called | rfl)
    · exact held.called f called
    · exact held.numbered o mem
  · intro p mem'
    rw [families, List.mem_append, List.mem_singleton, ← held.released p mem',
      ← held.shared p mem' o mem, or_comm]
    exact released p.handle.token
  · intro k f given here
    rw [families]
    rcases Nat.lt_or_ge k s.calls.length with earlier | last
    · rw [List.getElem?_append_left earlier] at here
      rw [List.take_append_of_le_length (by omega)]
      exact held.answered k f given here
    · rw [List.getElem?_append_right last, List.getElem?_singleton] at here
      split at here
      next zero =>
        obtain ⟨rfl, rfl⟩ := Prod.mk.inj (Option.some.inj here)
        rw [List.take_append_of_le_length (by omega), List.take_of_length_le (by omega)]
        exact answer
      next => cases here
  · rw [families, List.toFinset_append, List.toFinset_cons, List.toFinset_nil]
    show a.2.callbacks = _
    rw [callbacks, held.callbacks, held.records o mem]
    split
    next again =>
      rw [Finset.union_eq_left.mpr (by simpa using again)]
    next first =>
      rw [Finset.card_union_of_disjoint (by simpa using first)]
      simp [List.replicate_succ']

/-- **Every step keeps the account.** -/
theorem step (held : Held r before s) {c : Cell} (holds : c.handle? = some r)
    (notNull : r.isNull = false) (notLocal : r.isLocal = false) (hook : r.release = some .owner)
    (op : CustodyOp) : Held r before (s.step c op) := by
  cases op with
  | traverse => exact held.receive holds notNull notLocal
  | clone i =>
    simp only [Custody.step]
    split
    next o here => exact held.clone (List.mem_of_getElem? here)
    next => exact held
  | release i =>
    simp only [Custody.step]
    split
    next o here => exact held.release hook (List.mem_of_getElem? here)
    next => exact held
  | send i declared =>
    simp only [Custody.step]
    split
    next o here =>
      obtain ⟨same, sent⟩ := construct_foreign o.handle declared s.world
      have record := held.records o (List.mem_of_getElem? here)
      split
      next a world built =>
        rw [built] at same sent
        obtain rfl : world = s.world := same
        rcases sent rfl with nothing | passedOn
        · simp only at nothing
          rw [nothing, Custody.receive, World.decode_null]
          exact held
        · simp only at passedOn
          rw [passedOn]
          exact held.receive (record ▸ handle?_ofHandle o.handle.record) notNull notLocal
      next stop a world refused =>
        rw [refused] at same
        obtain rfl : world = s.world := same
        exact held
    next => exact held

theorem run (held : Held r before s) {c : Cell} (holds : c.handle? = some r)
    (notNull : r.isNull = false) (notLocal : r.isLocal = false) (hook : r.release = some .owner)
    (ops : List CustodyOp) : Held r before (s.run c ops) := by
  induction ops generalizing s with
  | nil => exact held
  | cons op ops ih => exact ih (held.step holds notNull notLocal hook op)

end Custody.Held

/-! ## 4. Once for each object -/

namespace Custody

/-- The object was given back at most once: by the first call of `release`, and later calls were told
so. -/
structure Once (r : HandleRecord) (before : List HandleRecord) (s : Custody) : Prop where
  callbacks : s.world.callbacks = if s.calls = [] then before else before ++ [r]
  answers : ∀ (k : Nat) f answer, s.calls[k]? = some (f, answer) →
    answer = if k = 0 then .ok () else .error .alreadyReleased

theorem families_eq_nil {s : Custody} : s.families = [] ↔ s.calls = [] := by
  simp [families]

namespace Held

variable {r : HandleRecord} {before : List HandleRecord} {s : Custody}

theorem once_iff_card (held : Held r before s) :
    s.Once r before ↔ s.families.toFinset.card ≤ 1 := by
  have allSame : s.families.toFinset.card ≤ 1 ↔ ∀ f ∈ s.families, ∀ g ∈ s.families, f = g := by
    rw [Finset.card_le_one]
    simp
  constructor
  · intro once
    have callbacks := held.callbacks.symm.trans once.callbacks
    split at callbacks
    next none => simp [families_eq_nil.mpr none]
    next =>
      rw [List.append_cancel_left_eq] at callbacks
      exact Nat.le_of_eq (by simpa using congrArg List.length callbacks)
  · intro few
    refine ⟨?_, fun k f answer here => ?_⟩
    · rw [held.callbacks]
      split
      next none => simp [families_eq_nil.mpr none]
      next called =>
        have one : s.families.toFinset.card = 1 := by
          have some_call := mt families_eq_nil.mp called
          have := Finset.card_pos.mpr ((List.toFinset_nonempty_iff _).mpr some_call)
          omega
        rw [one]
        rfl
    · rw [held.answered k f answer here]
      cases k with
      | zero => rfl
      | succ k =>
        have inside := (List.getElem?_eq_some_iff.mp here).1
        have member : f ∈ s.families :=
          List.mem_map.mpr ⟨_, List.mem_of_getElem? here, rfl⟩
        cases calls : s.families with
        | nil => simp [calls] at member
        | cons g rest =>
          have first := allSame.mp few f member g (calls ▸ List.mem_cons_self)
          rw [if_pos (by simp [first]), if_neg (Nat.succ_ne_zero k)]

end Held

/-- **Given back once**: whatever is decoded, cloned, sent on and released, the owner of an object is
called back once for each family with a call of `release`; so the object is given back at most once
just when all calls are on the handle of one decoding and its clones. -/
theorem released_once_iff {r : HandleRecord} {c : Cell} (holds : c.handle? = some r)
    (notNull : r.isNull = false) (notLocal : r.isLocal = false) (hook : r.release = some .owner)
    {w : World} (known : ∀ t ∈ w.released, t < w.supply) (ops : List CustodyOp) :
    let s := run c { world := w } ops
    s.world.callbacks = w.callbacks ++ List.replicate s.families.toFinset.card r ∧
      (s.Once r w.callbacks ↔ ∀ f ∈ s.families, ∀ g ∈ s.families, f = g) := by
  have held := (Held.start (r := r) known).run holds notNull notLocal hook ops
  refine ⟨held.callbacks, held.once_iff_card.trans ?_⟩
  rw [Finset.card_le_one]
  simp

/-- The record of an object of runtime 2. -/
def awayRecord : HandleRecord := ⟨7, 2, some .owner⟩

/-- A handle, its clone, and one that was sent on; the clone is told that the first was released, and
the third gives the object back again. -/
def sentOn : List CustodyOp :=
  [.traverse, .clone 0, .send 0 [], .release 0, .release 1, .release 2]

theorem released_once_iff_sentOn :
    let s := run (.ofHandle awayRecord) { world := {} } sentOn
    s.world.callbacks = [awayRecord, awayRecord] ∧ ¬ s.Once awayRecord [] := by
  obtain ⟨callbacks, once_iff⟩ := released_once_iff (r := awayRecord) (c := .ofHandle awayRecord)
    (w := {}) rfl rfl rfl rfl (by simp) sentOn
  have families : (run (.ofHandle awayRecord) { world := {} } sentOn).families = [0, 0, 2] := by
    decide
  refine ⟨by rw [callbacks, families]; rfl, fun once => ?_⟩
  have same := once_iff.mp once
  rw [families] at same
  exact absurd (same 0 (by simp) 2 (by simp)) (by decide)

/-- **An object can be given back twice**: two decodings of one record, each released. -/
theorem not_released_once :
    ¬ ∀ ops, (run (.ofHandle awayRecord) { world := {} } ops).Once awayRecord [] := by
  intro always
  have callbacks := (always [.traverse, .traverse, .release 0, .release 1]).callbacks
  revert callbacks
  decide

end Custody

end RuntimeBridge
