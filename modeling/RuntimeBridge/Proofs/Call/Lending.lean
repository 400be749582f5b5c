/-
# Lending on one thread

A thread borrows from its cell cache in two ways: blocks, taken and returned one by one, and call
buffers, whose arrays take a block each.  It may return them in any order, fill the cells of its
buffers in between, and set another capacity.  `Borrower` is such a thread with what it has not
returned yet; its memory is what the cells of the cache hold, shared by all blocks.

The relation between the cache and the blocks on loan is carried through every step (`Good.step`).
For nested activity a second fact is carried: giving back what is on loan beyond the start would lead
to the start again (`Level.step`), and what was on loan there keeps the capacity (`Level.busy`).

Main statement: `fair_run`, what holds after every run.
-/
import RuntimeBridge.Proofs.World.Lent
import RuntimeBridge.Cell.Change
import Mathlib.Data.List.Perm.Basic
namespace RuntimeBridge

/-! ## 1. Changes of cells -/

theorem World.cache_freeCell (w : World) (c : Cell) : (w.freeCell c).cache = w.cache := by
  show (w.releaseRecords c.ownedRecords).cache = w.cache
  rw [World.releaseRecords_frame]

theorem Callable.cache_toRecord (f : Callable) (w : World) : (f.toRecord w).2.cache = w.cache := by
  simp only [toRecord]
  repeat' split
  all_goals rfl

/-- What is done to a cell, to any depth, takes no cells of the cache. -/
theorem CellChange.cache_apply (change : CellChange) (c : Cell) (w : World) :
    (change.apply c w).world.cache = w.cache := by
  induction change generalizing c w with
  | setText width s =>
    simp only [apply, Cell.setText?]
    split
    next filled =>
      split at filled
      · cases filled
      · rw [← Option.some.inj filled]
        exact w.cache_freeCell c
    next => rfl
  | setCallable f =>
    have exported := f.cache_toRecord w
    simp only [apply]
    split <;> rename_i made <;> rw [made] at exported
    · exact (World.cache_freeCell _ c).trans exported
    · exact exported
  | item k change ih =>
    simp only [apply]
    split
    · rfl
    · exact ih _ _
  | setObject o => exact World.cache_freeCell _ c
  | free | setScalar | setHandle | setArray | put => exact w.cache_freeCell c

/-- Change a cell of an array; an index out of range changes nothing. -/
def CellArray.change (a : CellArray) (k : Nat) (change : CellChange) (w : World) :
    CellArray × World :=
  match a.cells[k]? with
  | some c => (a.setCell k (change.apply c w).cell, (change.apply c w).world)
  | none => (a, w)

namespace CellArray

variable (a : CellArray) (k : Nat) (change : CellChange) (w : World)

theorem block_change : (a.change k change w).1.block = a.block := by
  rw [CellArray.change]
  split <;> rfl

theorem length_change : (a.change k change w).1.cells.length = a.cells.length := by
  rw [CellArray.change]
  split
  · simp [setCell]
  · rfl

theorem cache_change : (a.change k change w).2.cache = w.cache := by
  rw [CellArray.change]
  split
  · exact change.cache_apply _ w
  · rfl

end CellArray

/-! ## 2. Loans -/

namespace CallBuffer

/-- The blocks of a buffer, in the order in which they come back. -/
def blocks (b : CallBuffer) : List CacheBlock :=
  b.retvals.block.toList ++ b.params.block.toList

theorem giveBack_eq (b : CallBuffer) (c : CellCache) : b.giveBack c = c.releaseAll b.blocks := by
  rw [giveBack, blocks]
  cases b.retvals.block <;> cases b.params.block <;> rfl

theorem cache_free (b : CallBuffer) (w : World) : (b.free w).cache = w.cache.releaseAll b.blocks := by
  rw [free_eq, giveBack_eq]

/-- The array of the return values, or that of the parameters. -/
def array (b : CallBuffer) (results : Bool) : CellArray :=
  if results then b.retvals else b.params

/-- The buffer with another such array. -/
def withArray (b : CallBuffer) (results : Bool) (a : CellArray) : CallBuffer :=
  if results then { b with retvals := a } else { b with params := a }

theorem blocks_withArray {b : CallBuffer} {results : Bool} {a : CellArray}
    (same : a.block = (b.array results).block) : (b.withArray results a).blocks = b.blocks := by
  cases results <;> simp_all [array, withArray, blocks]

end CallBuffer

/-- Something borrowed: a block, or a buffer. -/
inductive Loan where
  | block (b : CacheBlock)
  | buffer (b : CallBuffer)

namespace Loan

/-- The blocks of a loan, in the order in which they come back. -/
def blocks : Loan → List CacheBlock
  | block b => [b]
  | buffer b => b.blocks

/-- Return a loan. -/
def giveBack (w : World) : Loan → World
  | block b => { w with cache := w.cache.release b }
  | buffer b => b.free w

/-- The cells of a buffer are those that lie in its blocks. -/
def KeptIn (memory : Nat → Cell) : Loan → Prop
  | block _ => True
  | buffer b => b.retvals.KeptIn memory ∧ b.params.KeptIn memory

theorem cache_giveBack (l : Loan) (w : World) :
    (l.giveBack w).cache = w.cache.releaseAll l.blocks := by
  cases l with
  | block b => rfl
  | buffer b => exact b.cache_free w

/-- Storing an array elsewhere keeps a loan. -/
theorem KeptIn.store {l : Loan} {memory : Nat → Cell} (kept : l.KeptIn memory) {a : CellArray}
    (apart : ∀ b ∈ a.block, ∀ b' ∈ l.blocks, b.Apart b') : l.KeptIn (a.store memory) := by
  cases l with
  | block b => trivial
  | buffer b =>
    refine ⟨CellArray.KeptIn.store kept.1 fun x inA y inRetvals => apart x inA y ?_,
      CellArray.KeptIn.store kept.2 fun x inA y inParams => apart x inA y ?_⟩
    · exact List.mem_append_left _ (Option.mem_toList.mpr inRetvals)
    · exact List.mem_append_right _ (Option.mem_toList.mpr inParams)

/-- The loan at an index, in front of the others. -/
theorem perm_front {loans : List Loan} {i : Nat} {l : Loan} (here : loans[i]? = some l) :
    loans.Perm (l :: loans.eraseIdx i) := by
  obtain ⟨inside, rfl⟩ := List.getElem?_eq_some_iff.mp here
  exact (List.getElem_cons_eraseIdx_perm inside).symm

/-- The loans with another one at an index, that one in front. -/
theorem set_perm_front {loans : List Loan} {i : Nat} {l : Loan} (here : loans[i]? = some l)
    (new : Loan) : (loans.set i new).Perm (new :: loans.eraseIdx i) := by
  have inside := (List.getElem?_eq_some_iff.mp here).1
  have there : (loans.set i new)[i]? = some new := by simp [inside]
  have perm := perm_front there
  rwa [List.eraseIdx_set_eq] at perm

/-- A loan with the same blocks in place of another one. -/
theorem map_blocks_set {loans : List Loan} {i : Nat} {l : Loan} (new : Loan)
    (here : loans[i]? = some l) (same : new.blocks = l.blocks) :
    (loans.set i new).map Loan.blocks = loans.map Loan.blocks := by
  refine List.ext_getElem? fun j => ?_
  rw [List.getElem?_map, List.getElem?_map, List.getElem?_set]
  by_cases at_i : i = j
  · subst at_i
    have inside := (List.getElem?_eq_some_iff.mp here).1
    rw [if_pos rfl, if_pos inside, here, Option.map_some, Option.map_some, same]
  · rw [if_neg at_i]

end Loan

/-! ## 3. A thread that borrows -/

/-- A thread with what it borrowed and did not return, the last loan first. -/
structure Borrower where
  world : World
  /-- What the cells of the cache hold. -/
  memory : Nat → Cell
  loans : List Loan

inductive CacheOp where
  /-- Borrow a block of so many cells. -/
  | borrow (count : Nat)
  /-- Allocate a buffer. -/
  | allocate (params retvals : Nat)
  /-- Change cell `k` of an array of the buffer that is loan `i`. -/
  | change (i : Nat) (results : Bool) (k : Nat) (change : CellChange)
  /-- Write anything into cells of the cache that belong to no buffer. -/
  | scribble (cells : Nat → Cell)
  /-- Return loan `i`. -/
  | giveBack (i : Nat)
  | setCapacity (cells : Nat)

namespace Borrower

/-- A thread with a new cache, which holds anything. -/
def start (w : World) (capacity : Nat) (memory : Nat → Cell) : Borrower where
  world := { w with cache := { capacity } }
  memory
  loans := []

/-- All blocks on loan. -/
def blocks (u : Borrower) : List CacheBlock :=
  u.loans.flatMap Loan.blocks

/-- The cell belongs to a buffer on loan. -/
def inBuffer (u : Borrower) (i : Nat) : Bool :=
  u.loans.any fun l =>
    match l with
    | .buffer b => b.blocks.any fun block => decide (block.Holds i)
    | .block _ => false

def step (u : Borrower) : CacheOp → Borrower
  | .borrow count =>
    match u.world.cache.alloc? count with
    | some (b, cache) => { u with world := { u.world with cache }, loans := .block b :: u.loans }
    | none => u
  | .allocate params retvals =>
    let (b, world) := CallBuffer.alloc params retvals u.world
    { world, memory := b.retvals.store (b.params.store u.memory), loans := .buffer b :: u.loans }
  | .change i results k change =>
    match u.loans[i]? with
    | some (.buffer b) =>
      let (a, world) := (b.array results).change k change u.world
      { world
        memory := a.store u.memory
        loans := u.loans.set i (.buffer (b.withArray results a)) }
    | _ => u
  | .scribble cells =>
    { u with memory := fun i => if u.inBuffer i then u.memory i else cells i }
  | .giveBack i =>
    match u.loans[i]? with
    | some l => { u with world := l.giveBack u.world, loans := u.loans.eraseIdx i }
    | none => u
  | .setCapacity cells => { u with world := (u.world.setCacheCapacity cells).2 }

def run (u : Borrower) (ops : List CacheOp) : Borrower :=
  ops.foldl step u

/-! ## 4. One step -/

/-- The loans are what the cache lent, and each buffer has its cells for itself. -/
structure Good (u : Borrower) : Prop where
  lent : u.world.cache.Lent u.blocks
  kept : ∀ l ∈ u.loans, l.KeptIn u.memory

end Borrower

namespace Borrower.Good

variable {w : World} {memory : Nat → Cell} {loans : List Loan}

theorem start (w : World) (capacity : Nat) (memory : Nat → Cell) :
    (Borrower.start w capacity memory).Good where
  lent := CellCache.lent_new capacity
  kept := by simp [Borrower.start]

/-- The order of the loans does not matter. -/
theorem perm {others : List Loan} (good : (⟨w, memory, loans⟩ : Borrower).Good)
    (same : loans.Perm others) : (⟨w, memory, others⟩ : Borrower).Good where
  lent := good.lent.perm (same.flatMap_right _)
  kept := fun l mem => good.kept l (same.mem_iff.mpr mem)

/-- What is on loan besides an array of a buffer lies apart from the array. -/
theorem apart_of_array {b : CallBuffer}
    (good : (⟨w, memory, .buffer b :: loans⟩ : Borrower).Good) (results : Bool) :
    (∀ x ∈ (b.array results).block, ∀ y ∈ (b.array !results).block, x.Apart y) ∧
      ∀ x ∈ (b.array results).block, ∀ l ∈ loans, ∀ y ∈ l.blocks, x.Apart y := by
  have lent : w.cache.Lent (b.retvals.block.toList ++ (b.params.block.toList ++
      loans.flatMap Loan.blocks)) := by
    have := good.lent
    simpa only [blocks, List.flatMap_cons, Loan.blocks, CallBuffer.blocks, List.append_assoc]
      using this
  have inside : ∀ {o : Option CacheBlock} {l y}, l ∈ loans → y ∈ l.blocks →
      y ∈ o.toList ++ loans.flatMap Loan.blocks := fun mem inLoan =>
    List.mem_append_right _ (List.mem_flatMap.mpr ⟨_, mem, inLoan⟩)
  cases results with
  | true =>
    refine ⟨fun x inRetvals y inParams => lent.apart_top x inRetvals y ?_,
      fun x inRetvals l mem y inLoan => lent.apart_top x inRetvals y (inside mem inLoan)⟩
    exact List.mem_append_left _ (Option.mem_toList.mpr inParams)
  | false =>
    have swapped := lent.perm (List.perm_append_comm_assoc _ _ _)
    refine ⟨fun x inParams y inRetvals => swapped.apart_top x inParams y ?_,
      fun x inParams l mem y inLoan => swapped.apart_top x inParams y (inside mem inLoan)⟩
    exact List.mem_append_left _ (Option.mem_toList.mpr inRetvals)

/-- **Storing an array of a buffer** disturbs neither the other one nor other loans. -/
theorem store {b : CallBuffer} {later : World} {results : Bool} {a : CellArray}
    (good : (⟨w, memory, .buffer b :: loans⟩ : Borrower).Good) (cache : later.cache = w.cache)
    (block : a.block = (b.array results).block)
    (length : a.cells.length = (b.array results).cells.length) :
    (⟨later, a.store memory, .buffer (b.withArray results a) :: loans⟩ : Borrower).Good := by
  obtain ⟨fromOther, fromLoans⟩ := good.apart_of_array results
  obtain ⟨first, rest⟩ := List.forall_mem_cons.mp good.kept
  have here : (b.array results).KeptIn memory ∧ (b.array !results).KeptIn memory := by
    cases results
    · exact ⟨first.2, first.1⟩
    · exact first
  have fits : a.Fits := by
    intro x inCache
    rw [length]
    exact here.1.fits x (block ▸ inCache)
  have stored := fits.keptIn_store memory
  have other : (b.array !results).KeptIn (a.store memory) := by
    refine here.2.store ?_
    rw [block]
    exact fromOther
  refine ⟨?_, List.forall_mem_cons.mpr ⟨?_, fun l mem => (rest l mem).store ?_⟩⟩
  · rw [cache, Borrower.blocks, List.flatMap_cons, Loan.blocks, CallBuffer.blocks_withArray block]
    exact good.lent
  · cases results
    · exact ⟨other, stored⟩
    · exact ⟨stored, other⟩
  · intro x inCache
    rw [block] at inCache
    exact fromLoans x inCache l mem

/-- **A new buffer** disturbs no loan. -/
theorem allocate (good : (⟨w, memory, loans⟩ : Borrower).Good) (params retvals : Nat) :
    ((⟨w, memory, loans⟩ : Borrower).step (.allocate params retvals)).Good := by
  have lentFirst := CellArray.lent_init good.lent params 1 true
  have lentBoth := CellArray.lent_init lentFirst retvals 1 true
  have fitsFirst := CellArray.fits_init params 1 true w
  have fitsSecond := CellArray.fits_init retvals 1 true (CellArray.init params 1 true w).2
  have inLoans : ∀ l ∈ loans, ∀ y ∈ l.blocks, y ∈ loans.flatMap Loan.blocks := fun l mem y inLoan =>
    List.mem_flatMap.mpr ⟨l, mem, inLoan⟩
  refine ⟨?_, List.forall_mem_cons.mpr ⟨⟨fitsSecond.keptIn_store _, ?_⟩, fun l mem => ?_⟩⟩
  · simpa only [step, CallBuffer.alloc, Borrower.blocks, List.flatMap_cons, Loan.blocks,
      CallBuffer.blocks, List.append_assoc] using lentBoth
  · refine (fitsFirst.keptIn_store memory).store fun x inRetvals y inParams => ?_
    exact lentBoth.apart_top x inRetvals y
      (List.mem_append_left _ (Option.mem_toList.mpr inParams))
  · refine ((good.kept l mem).store fun x inParams y inLoan => ?_).store
      fun x inRetvals y inLoan => ?_
    · exact lentFirst.apart_top x inParams y (inLoans l mem y inLoan)
    · exact lentBoth.apart_top x inRetvals y (List.mem_append_right _ (inLoans l mem y inLoan))

/-- Writing into cells of no buffer shows in no buffer. -/
theorem scribble {u : Borrower} (good : u.Good) (cells : Nat → Cell) :
    (u.step (.scribble cells)).Good := by
  refine ⟨good.lent, fun l mem => ?_⟩
  cases l with
  | block b => trivial
  | buffer b =>
    have inBuffer : ∀ x ∈ b.blocks, ∀ i, x.Holds i → u.inBuffer i = true := by
      intro x inBlocks i held
      refine List.any_eq_true.mpr ⟨_, mem, List.any_eq_true.mpr ⟨x, inBlocks, ?_⟩⟩
      exact decide_eq_true held
    have kept := good.kept _ mem
    refine ⟨fun x inCache => ?_, fun x inCache => ?_⟩
    · rw [← kept.1 x inCache]
      refine CacheBlock.read_congr fun i held => if_pos (inBuffer x ?_ i held)
      exact List.mem_append_left _ (Option.mem_toList.mpr inCache)
    · rw [← kept.2 x inCache]
      refine CacheBlock.read_congr fun i held => if_pos (inBuffer x ?_ i held)
      exact List.mem_append_right _ (Option.mem_toList.mpr inCache)

/-- **Every step** leaves the loans what the cache lent. -/
theorem step {u : Borrower} (good : u.Good) (op : CacheOp) : (u.step op).Good := by
  cases op with
  | borrow count =>
    simp only [Borrower.step]
    split
    next b cache borrowed =>
      exact ⟨good.lent.alloc? borrowed, List.forall_mem_cons.mpr ⟨trivial, good.kept⟩⟩
    next => exact good
  | allocate params retvals => exact good.allocate params retvals
  | change i results k change =>
    simp only [Borrower.step]
    split
    next b here =>
      have front := (good.perm (Loan.perm_front here)).store
        ((b.array results).cache_change k change u.world)
        ((b.array results).block_change k change u.world)
        ((b.array results).length_change k change u.world)
      exact front.perm (Loan.set_perm_front here _).symm
    next => exact good
  | scribble cells => exact good.scribble cells
  | giveBack i =>
    simp only [Borrower.step]
    split
    next l here =>
      have front := good.perm (Loan.perm_front here)
      refine ⟨?_, fun other mem => front.kept other (List.mem_cons_of_mem _ mem)⟩
      rw [l.cache_giveBack]
      exact CellCache.Lent.releaseAll front.lent
    next => exact good
  | setCapacity cells =>
    refine ⟨?_, good.kept⟩
    have cases := World.setCacheCapacity_cases good.lent cells
    by_cases nothing : u.blocks = []
    · show CellCache.Lent _ u.blocks
      rcases cases.2 nothing with ⟨-, new⟩ | ⟨halt, -, -, same⟩
      · rw [nothing]
        exact new ▸ CellCache.lent_new cells
      · exact same ▸ good.lent
    · exact (cases.1 nothing).2 ▸ good.lent

theorem run {u : Borrower} (good : u.Good) (ops : List CacheOp) : (u.run ops).Good := by
  induction ops generalizing u with
  | nil => exact good
  | cons op ops ih => exact ih (good.step op)

end Borrower.Good

/-! ## 5. Nested activity -/

namespace Borrower

/-- Operations that return what they borrow, the last loan first, and nothing that was on loan before:
`depth` loans were there at the start. -/
def Nested (depth : Nat) : Borrower → List CacheOp → Prop
  | u, [] => u.loans.length = depth
  | u, op :: ops =>
    (∀ i, op = .giveBack i → i = 0 ∧ depth < u.loans.length) ∧ Nested depth (u.step op) ops

/-- The blocks borrowed since there were `depth` loans. -/
def blocksAbove (u : Borrower) (depth : Nat) : List CacheBlock :=
  (u.loans.take (u.loans.length - depth)).flatMap Loan.blocks

theorem blocksAbove_self (u : Borrower) : u.blocksAbove u.loans.length = [] := by
  simp [blocksAbove]

/-- Only the blocks of the loans count. -/
theorem blocksAbove_congr {u v : Borrower} (same : v.loans.map Loan.blocks = u.loans.map Loan.blocks)
    (depth : Nat) : v.blocksAbove depth = u.blocksAbove depth := by
  have length : v.loans.length = u.loans.length := by
    simpa using congrArg List.length same
  simp only [blocksAbove, length, List.flatMap_def, List.map_take, same]

theorem blocksAbove_cons (w : World) (memory : Nat → Cell) {w' : World} {memory' : Nat → Cell}
    {l : Loan} {loans : List Loan} {depth : Nat} (above : depth ≤ loans.length) :
    (⟨w', memory', l :: loans⟩ : Borrower).blocksAbove depth =
      l.blocks ++ (⟨w, memory, loans⟩ : Borrower).blocksAbove depth := by
  have more : loans.length + 1 - depth = loans.length - depth + 1 := by omega
  simp only [blocksAbove, List.length_cons, more, List.take_succ_cons, List.flatMap_cons]

/-- The cache once everything borrowed since is back. -/
def unwound (u : Borrower) (depth : Nat) : CellCache :=
  u.world.cache.releaseAll (u.blocksAbove depth)

theorem unwound_of_idle {u : Borrower} (nothing : u.blocks = []) (depth : Nat) :
    u.unwound depth = u.world.cache := by
  have noneAbove : u.blocksAbove depth = [] :=
    List.flatMap_eq_nil_iff.mpr fun l mem =>
      List.flatMap_eq_nil_iff.mp nothing l (List.mem_of_mem_take mem)
  rw [unwound, noneAbove]
  rfl

theorem unwound_cons {w w' : World} {memory memory' : Nat → Cell} {l : Loan} {loans : List Loan}
    {depth : Nat} (above : depth ≤ loans.length) (back : w'.cache.releaseAll l.blocks = w.cache) :
    (⟨w', memory', l :: loans⟩ : Borrower).unwound depth =
      (⟨w, memory, loans⟩ : Borrower).unwound depth := by
  rw [unwound, blocksAbove_cons w memory above, CellCache.releaseAll_append, back]
  rfl

end Borrower

/-- **A new buffer is on top**: the cache without it is as it was. -/
theorem CallBuffer.releaseAll_alloc {w : World} {blocks : List CacheBlock}
    (lent : w.cache.Lent blocks) (params retvals : Nat) :
    (alloc params retvals w).2.cache.releaseAll (alloc params retvals w).1.blocks = w.cache := by
  have middle := CellArray.lent_init lent params 1 true
  rw [← giveBack_eq]
  simp only [alloc, giveBack]
  rw [CellArray.giveBack_init middle.sound, CellArray.giveBack_init lent.sound]

namespace Borrower

/-- With everything borrowed since back, as many blocks would be on loan as at the start, and the top
where it was. -/
structure Level (depth : Nat) (c : CellCache) (u : Borrower) : Prop where
  above : depth ≤ u.loans.length
  next : (u.unwound depth).next = c.next
  live : (u.unwound depth).live = c.live

variable {depth : Nat} {c : CellCache} {u v : Borrower}

namespace Level

theorem start (u : Borrower) : Level u.loans.length u.world.cache u := by
  refine ⟨Nat.le_refl _, ?_, ?_⟩ <;> rw [unwound, blocksAbove_self] <;> rfl

theorem of_unwound (level : Level depth c u) (above : depth ≤ v.loans.length)
    (same : v.unwound depth = u.unwound depth) : Level depth c v :=
  ⟨above, same ▸ level.next, same ▸ level.live⟩

/-- Another capacity is set only where nothing is on loan, and then the top is at the first cell, before
and after. -/
theorem setCapacity (level : Level depth c u) (good : u.Good) (cells : Nat) :
    Level depth c (u.step (.setCapacity cells)) := by
  have cases := World.setCacheCapacity_cases good.lent cells
  have of_same : (u.world.setCacheCapacity cells).2.cache = u.world.cache →
      Level depth c (u.step (.setCapacity cells)) := fun same =>
    level.of_unwound level.above (congrArg (CellCache.releaseAll (u.blocksAbove depth)) same)
  by_cases nothing : u.blocks = []
  · rcases cases.2 nothing with ⟨-, new⟩ | ⟨halt, -, -, same⟩
    · have before : u.unwound depth = { capacity := u.world.cache.capacity } :=
        (unwound_of_idle nothing depth).trans (nothing ▸ good.lent : u.world.cache.Lent []).eq_new
      have after : (u.step (.setCapacity cells)).unwound depth = { capacity := cells } :=
        (unwound_of_idle (u := u.step (.setCapacity cells)) nothing depth).trans new
      have next := level.next
      have live := level.live
      rw [before] at next live
      exact ⟨level.above, by rw [after, ← next], by rw [after, ← live]⟩
    · exact of_same same
  · exact of_same (cases.1 nothing).2

/-- **Every step of a nested activity** stays level with its start. -/
theorem step (level : Level depth c u) (good : u.Good) {op : CacheOp}
    (nested : ∀ i, op = .giveBack i → i = 0 ∧ depth < u.loans.length) :
    Level depth c (u.step op) := by
  have above := level.above
  have taller : depth ≤ u.loans.length + 1 := Nat.le_succ_of_le above
  cases op with
  | borrow count =>
    simp only [Borrower.step]
    split
    next b cache borrowed =>
      exact level.of_unwound taller
        (unwound_cons above (CellCache.release_alloc? good.lent.sound borrowed))
    next => exact level
  | allocate params retvals =>
    exact level.of_unwound taller
      (unwound_cons above (CallBuffer.releaseAll_alloc good.lent params retvals))
  | change i results k change =>
    simp only [Borrower.step]
    split
    next b here =>
      have blocks := (b.array results).block_change k change u.world
      have cache := (b.array results).cache_change k change u.world
      refine level.of_unwound (by simpa using above) ?_
      simp only [unwound, cache]
      rw [blocksAbove_congr (Loan.map_blocks_set (.buffer _) here
        (CallBuffer.blocks_withArray blocks))]
    next => exact level
  | scribble cells => exact level.of_unwound above rfl
  | giveBack i =>
    obtain ⟨rfl, below⟩ := nested i rfl
    obtain ⟨w, memory, loans⟩ := u
    cases loans with
    | nil => simp at below
    | cons l loans =>
      have here : depth ≤ loans.length := Nat.le_of_lt_succ below
      exact level.of_unwound here (unwound_cons here (l.cache_giveBack w).symm).symm
  | setCapacity cells => exact level.setCapacity good cells

/-- **At its end** a nested activity is level with its start, and nothing is on loan beyond it. -/
theorem run (level : Level depth c u) (good : u.Good) {ops : List CacheOp}
    (nested : u.Nested depth ops) :
    (u.run ops).world.cache.next = c.next ∧ (u.run ops).world.cache.live = c.live := by
  induction ops generalizing u with
  | nil =>
    obtain ⟨-, next, live⟩ := level
    have depth : u.loans.length = depth := nested
    rw [← depth, unwound, blocksAbove_self] at next live
    exact ⟨next, live⟩
  | cons op ops ih => exact ih (level.step good nested.1) (good.step op) nested.2

end Level

/-- Only setting another capacity changes it, and that only where nothing is on loan. -/
theorem Good.capacity_step (good : u.Good) (op : CacheOp)
    (other : u.blocks = [] → ∀ cells, op ≠ .setCapacity cells) :
    (u.step op).world.cache.capacity = u.world.cache.capacity := by
  cases op with
  | borrow count =>
    simp only [Borrower.step]
    split
    next b cache borrowed => rw [(CellCache.alloc?_eq_some_iff.mp borrowed).2.2.2]
    next => rfl
  | allocate params retvals =>
    simp only [Borrower.step, CallBuffer.alloc, CellArray.capacity_init]
  | change i results k change =>
    simp only [Borrower.step]
    split
    next b here => exact congrArg CellCache.capacity ((b.array results).cache_change k change _)
    next => rfl
  | scribble cells => rfl
  | giveBack i =>
    simp only [Borrower.step]
    split
    next l here => rw [l.cache_giveBack, CellCache.capacity_releaseAll]
    next => rfl
  | setCapacity cells =>
    have busy : u.blocks ≠ [] := fun nothing => other nothing cells rfl
    exact congrArg CellCache.capacity ((World.setCacheCapacity_cases good.lent cells).1 busy).2

namespace Level

/-- What was on loan at the start is on loan all along. -/
theorem busy (level : Level depth c u) (good : u.Good) (held : 0 < c.live) : u.blocks ≠ [] := by
  intro nothing
  have live := level.live
  rw [unwound_of_idle nothing, good.lent.counted, nothing] at live
  exact absurd held (by simp [← live])

theorem capacity_run (level : Level depth c u) (good : u.Good) {ops : List CacheOp}
    (nested : u.Nested depth ops) (held : 0 < c.live ∨ ∀ cells, .setCapacity cells ∉ ops) :
    (u.run ops).world.cache.capacity = u.world.cache.capacity := by
  induction ops generalizing u with
  | nil => rfl
  | cons op ops ih =>
    have first := good.capacity_step op fun nothing cells same =>
      held.elim (fun held => level.busy good held nothing)
        fun others => others cells (same ▸ List.mem_cons_self)
    have later : 0 < c.live ∨ ∀ cells, .setCapacity cells ∉ ops :=
      held.imp_right fun others cells mem => others cells (List.mem_cons_of_mem _ mem)
    exact (ih (level.step good nested.1) (good.step op) nested.2 later).trans first

end Level

/-! ## 6. After any run -/

/-- What a thread may rely on. -/
structure Fair (u : Borrower) : Prop where
  /-- Blocks on loan are cells of the cache, -/
  inside : ∀ b ∈ u.blocks, 0 < b.count ∧ b.start + b.count ≤ u.world.cache.capacity
  /-- and no cell is in two of them. -/
  apart : u.blocks.Pairwise CacheBlock.Apart
  /-- The cache counts its loans, -/
  counted : u.world.cache.live = u.blocks.length
  /-- and all of it can be borrowed when there are none. -/
  whole : u.blocks = [] → u.world.cache.remaining = u.world.cache.capacity
  /-- A capacity is set if nothing is on loan, unless no memory holds the new cache, -/
  resizes : u.blocks = [] → ∀ cells,
    let r := u.world.setCacheCapacity cells
    r.1 = .ok () ∧ r.2.cache = { capacity := cells } ∨
      ∃ halt, reserve cells cellOctets = .error halt ∧ r.1 = .error halt ∧
        r.2.cache = u.world.cache
  /-- and else the cache stays what it is. -/
  stays : u.blocks ≠ [] → ∀ cells,
    let r := u.world.setCacheCapacity cells
    r.1 = .ok () ∧ r.2.cache = u.world.cache
  /-- Nested activity leaves as many blocks on loan as before, and as many cells to borrow unless a
  capacity was set with nothing on loan. -/
  nested : ∀ ops, u.Nested u.loans.length ops →
    (u.run ops).world.cache.live = u.world.cache.live ∧
      ((u.blocks ≠ [] ∨ ∀ cells, .setCapacity cells ∉ ops) →
        (u.run ops).world.cache.remaining = u.world.cache.remaining)
  /-- A new array has null cells, in a block of the cache if they fit there; else the cache is left
  alone. -/
  arrays : ∀ length dimensions preferCache,
    let r := CellArray.init length dimensions preferCache u.world
    r.1.cells = List.replicate length Cell.null ∧
      if preferCache = true ∧ 0 < length ∧ length ≤ u.world.cache.remaining then
        ∃ b, r.1.block = some b ∧ b.count = length ∧ ∀ b' ∈ u.blocks, b.Apart b'
      else r.1.block = none ∧ r.2.cache = u.world.cache
  /-- The memory of a new buffer is null, whatever was there, -/
  fresh : ∀ params retvals, ∃ b,
    (u.step (.allocate params retvals)).loans = .buffer b :: u.loans ∧
      b.params.cells = List.replicate params Cell.null ∧
      b.retvals.cells = List.replicate retvals Cell.null ∧
      (Loan.buffer b).KeptIn (u.step (.allocate params retvals)).memory
  /-- and that of each buffer on loan holds what was put into the buffer. -/
  kept : ∀ l ∈ u.loans, l.KeptIn u.memory

theorem Good.arrays {u : Borrower} (good : u.Good) (length : Nat) (dimensions : Int)
    (preferCache : Bool) :
    let r := CellArray.init length dimensions preferCache u.world
    if preferCache = true ∧ 0 < length ∧ length ≤ u.world.cache.remaining then
      ∃ b, r.1.block = some b ∧ b.count = length ∧ ∀ b' ∈ u.blocks, b.Apart b'
    else r.1.block = none ∧ r.2.cache = u.world.cache := by
  have room := CellCache.alloc?_isSome_iff good.lent.inside length
  obtain ⟨b, prefers, borrowed, inCache⟩ | ⟨refused, onHeap, same⟩ :=
    CellArray.init_cases length dimensions preferCache u.world
  · have fits := room.mp (by rw [borrowed]; rfl)
    have apart := (List.pairwise_cons.mp (good.lent.alloc? borrowed).apart).1
    obtain ⟨-, -, rfl, -⟩ := CellCache.alloc?_eq_some_iff.mp borrowed
    rw [if_pos ⟨prefers, fits⟩]
    exact ⟨_, inCache, rfl, apart⟩
  · rw [if_neg]
    · exact ⟨onHeap, same⟩
    · rintro ⟨prefers, fits⟩
      have := room.mpr fits
      rw [refused prefers] at this
      cases this

theorem Good.fair {u : Borrower} (good : u.Good) : u.Fair where
  inside b mem := ⟨good.lent.nonempty b mem, good.lent.inside_of_mem mem⟩
  apart := good.lent.apart
  counted := good.lent.counted
  whole nothing := by rw [CellCache.remaining, good.lent.whole nothing, Nat.sub_zero]
  resizes nothing cells := (World.setCacheCapacity_cases good.lent cells).2 nothing
  stays others cells := (World.setCacheCapacity_cases good.lent cells).1 others
  nested ops nested := by
    obtain ⟨next, live⟩ := (Level.start u).run good nested
    refine ⟨live, fun held => ?_⟩
    have held : 0 < u.world.cache.live ∨ ∀ cells, .setCapacity cells ∉ ops := by
      rw [good.lent.counted]
      exact held.imp_left List.length_pos_of_ne_nil
    rw [CellCache.remaining, CellCache.remaining, next, (Level.start u).capacity_run good nested held]
  arrays length dimensions preferCache :=
    ⟨CellArray.cells_init length dimensions preferCache u.world,
      good.arrays length dimensions preferCache⟩
  fresh params retvals :=
    ⟨(CallBuffer.alloc params retvals u.world).1, rfl,
      CallBuffer.cells_alloc_params params retvals u.world,
      CallBuffer.cells_alloc_retvals params retvals u.world,
      (good.allocate params retvals).kept _ List.mem_cons_self⟩
  kept := good.kept

/-- **The cache lends no cell twice**: from a new cache of any capacity, whatever is borrowed, filled
and returned in whatever order, and whatever capacities are set. -/
theorem fair_run (w : World) (capacity : Nat) (memory : Nat → Cell) (ops : List CacheOp) :
    ((start w capacity memory).run ops).Fair :=
  ((Good.start w capacity memory).run ops).fair

/-- The block below comes back first, and its cells wait. -/
example (w : World) (memory : Nat → Cell) :
    ((start w 10 memory).run [.borrow 3, .borrow 4, .giveBack 1, .borrow 2]).blocks =
      [⟨7, 2⟩, ⟨3, 4⟩] := rfl

end Borrower

end RuntimeBridge
