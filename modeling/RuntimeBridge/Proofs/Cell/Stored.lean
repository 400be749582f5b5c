/-
# What is stored in a cell

What a cell was filled with is a scalar, a text without NUL, a handle record, an export, or an array of
such.  A cell with that in it (`Stored.cell`) gives it to the readers of its kind, gives nothing to any
other reader, and owns what it points to just when its tag says so (`Stored.shows_cell`).

An operation is taken or refused for what it is given and for what is stored (`CellUse.store?`).  In the
cell it does exactly that (`done_apply`): what was stored is replaced, here or in an element, or the cell
stays as it was.
-/
import RuntimeBridge.Cell.Change
import RuntimeBridge.Proofs.Cell.CharCodec
import RuntimeBridge.Proofs.Type.Names
import RuntimeBridge.Proofs.Wire.Contract
import RuntimeBridge.Proofs.Wire.Marks
import RuntimeBridge.Proofs.World.Ledger
namespace RuntimeBridge

/-! ## 1. Contents of a cell -/

/-- The record of an export. -/
def Issue.record (e : Issue) : CallableRecord :=
  ⟨some e.point, e.function.params.map TypeInfo.wireTag, e.function.retvals.map TypeInfo.wireTag⟩

/-- What a cell was filled with. -/
inductive Stored where
  | nothing
  | scalar (s : Scalar)
  | text (width : Width) (s : String) (clean : holdsNul s = false)
  | handle (r : HandleRecord)
  | callable (e : Issue)
  | array (leaf : TypeTag) (items : List Stored) (dimensions : Int)

namespace Stored

/-- **Induction over what is stored**: a leaf, or an array of contents for which it is known. -/
theorem induct {P : Stored → Prop} (nothing : P nothing) (scalar : ∀ s, P (scalar s))
    (text : ∀ width s clean, P (text width s clean)) (handle : ∀ r, P (handle r))
    (callable : ∀ e, P (callable e))
    (array : ∀ leaf items dimensions, (∀ s ∈ items, P s) → P (array leaf items dimensions)) :
    ∀ s, P s
  | .nothing => nothing
  | .scalar _ => scalar _
  | .text _ _ _ => text _ _ _
  | .handle _ => handle _
  | .callable _ => callable _
  | .array leaf items dimensions => array leaf items dimensions fun s mem =>
    have : sizeOf s < sizeOf items := List.sizeOf_lt_of_mem mem
    induct nothing scalar text handle callable array s

def scalar? : Stored → Option Scalar
  | scalar s => some s
  | _ => none

def text? : Stored → Option String
  | text _ s _ => some s
  | _ => none

def handle? : Stored → Option HandleRecord
  | handle r => some r
  | _ => none

def export? : Stored → Option Issue
  | callable e => some e
  | _ => none

def array? : Stored → Option (List Stored × Int)
  | array _ items dimensions => some (items, dimensions)
  | _ => none

/-- What indices lead to through arrays. -/
def descend? (s : Stored) : List Nat → Option Stored
  | [] => some s
  | i :: rest => (s.array?.bind fun a => a.1[i]?).bind fun item => descend? item rest

mutual

/-- The cell that was filled. -/
def cell : Stored → Cell
  | nothing => .null
  | scalar s => .ofScalar s
  | text width s _ => .ofText width s
  | handle r => .ofHandle r
  | callable e => .ofCallable e.record
  | array leaf items dimensions => .ofArray leaf (cellsOf items) dimensions

def cellsOf : List Stored → List Cell
  | [] => []
  | s :: ss => s.cell :: cellsOf ss

end

theorem cellsOf_eq_map (items : List Stored) : cellsOf items = items.map cell := by
  induction items with
  | nil => rfl
  | cons s ss ih => rw [cellsOf, ih, List.map_cons]

mutual

/-- The exports in the cell, from left to right. -/
def exports : Stored → List Issue
  | callable e => [e]
  | array _ items _ => exportsOf items
  | _ => []

def exportsOf : List Stored → List Issue
  | [] => []
  | s :: ss => s.exports ++ exportsOf ss

end

theorem exportsOf_eq_flatMap (items : List Stored) : exportsOf items = items.flatMap exports := by
  induction items with
  | nil => rfl
  | cons s ss ih => rw [exportsOf, ih, List.flatMap_cons]

theorem exports_nothings (leaf : TypeTag) (n : Nat) (dimensions : Int) :
    (array leaf (List.replicate n nothing) dimensions).exports = [] := by
  simp [exports, exportsOf_eq_flatMap]

/-- The exports are those that some indices lead to. -/
theorem mem_exports_iff (s : Stored) (e : Issue) :
    e ∈ s.exports ↔ ∃ path, s.descend? path = some (callable e) := by
  induction s using induct with
  | array leaf items dimensions ih =>
    rw [exports, exportsOf_eq_flatMap, List.mem_flatMap]
    constructor
    · rintro ⟨s, mem, here⟩
      obtain ⟨path, found⟩ := (ih s mem).mp here
      obtain ⟨i, inside, rfl⟩ := List.mem_iff_getElem.mp mem
      exact ⟨i :: path, by simpa [descend?, array?, inside] using found⟩
    · rintro ⟨path, found⟩
      cases path with
      | nil => cases found
      | cons i rest =>
        obtain ⟨s, here, deeper⟩ := Option.bind_eq_some_iff.mp found
        have mem : s ∈ items := List.mem_of_getElem? here
        exact ⟨s, mem, (ih s mem).mpr ⟨rest, deeper⟩⟩
  | callable e' =>
    rw [exports, List.mem_singleton]
    constructor
    · rintro rfl
      exact ⟨[], rfl⟩
    · rintro ⟨path, found⟩
      cases path with
      | nil => exact (Stored.callable.inj (Option.some.inj found)).symm
      | cons i rest => cases found
  | _ =>
    refine iff_of_false (by simp [exports]) ?_
    rintro ⟨_ | ⟨i, rest⟩, found⟩ <;> cases found

/-- Freeing the cell frees the records of these exports. -/
theorem ownedRecords_cell (s : Stored) : s.cell.ownedRecords = s.exports.map Issue.record := by
  induction s using induct with
  | array leaf items dimensions ih =>
    have inner : Cell.ownedRecordsOf (cellsOf items) = (exportsOf items).map Issue.record := by
      rw [cellsOf_eq_map, exportsOf_eq_flatMap, Cell.ownedRecordsOf_eq_flatMap, List.flatMap_map,
        List.map_flatMap]
      exact List.flatMap_congr ih
    rw [cell, Cell.ofArray, Cell.ownedRecords, leaf.isArray_withArray, exports]
    exact inner
  | callable e => exact ownedRecords_ofCallable e.record
  | nothing => rfl
  | scalar s => exact ownedRecords_ofScalar s
  | text width s clean => exact ownedRecords_ofText width s
  | handle r => exact ownedRecords_ofHandle r

end Stored

/-! ## 2. Readers -/

theorem Scalar.kind_ne_null (x : Scalar) : x.kind ≠ .null := by
  cases x <;> nofun

theorem TypeTag.isOwning_ofKind (kind : BaseKind) : (ofKind kind).isOwning = kind.isOwning := by
  simp [isOwning, hasKind_ofKind]

namespace Cell

variable {c : Cell} {k : BaseKind}

theorem isNull_of_tag (tag : c.tag = .ofKind k) : c.isNull = true ↔ k = .null := by
  rw [isNull, tag, beq_iff_eq, TypeTag.null, TypeTag.ofKind_inj]

/-- The readers of scalars look at the kind first. -/
theorem scalarOf?_of_tag (tag : c.tag = .ofKind k) (kind : BaseKind) :
    c.scalarOf? kind = (Scalar.ofWord? k c.word).filter fun _ => k = kind := by
  rw [scalarOf?, tag]
  by_cases same : k = kind
  · subst same
    cases Scalar.ofWord? k c.word <;> simp [Option.filter]
  · simp [TypeTag.ofKind_inj, same]

theorem scalar?_of_tag (tag : c.tag = .ofKind k) : c.scalar? = Scalar.ofWord? k c.word := by
  rw [scalar?, tag, TypeTag.kind?_ofKind, Option.bind_some]

/-- A cell of a kind that is not scalar gives no scalar. -/
theorem scalars_of_tag (tag : c.tag = .ofKind k) (other : Scalar.ofWord? k c.word = none) :
    (∀ kind, c.scalarOf? kind = none) ∧ c.scalar? = none ∧ c.char? = none := by
  have shown : c.scalar? = none := (scalar?_of_tag tag).trans other
  refine ⟨fun kind => ?_, shown, ?_⟩
  · rw [scalarOf?_of_tag tag, other]
    rfl
  · rw [char?, shown]
    rfl

theorem text?_of_tag (tag : c.tag = .ofKind k) (other : k.isString = false) : c.text? = none := by
  rw [text?, tag, TypeTag.kind?_ofKind]
  cases k <;> first | rfl | cases other

end Cell

namespace Stored

/-- The cell gives what is stored to the readers of its kind, gives nothing to the others, and owns what it
points to just when its tag says so. -/
structure Shows (s : Stored) (c : Cell) : Prop where
  owned : c.owned = c.tag.isOwning
  isNull : c.isNull = true ↔ s = nothing
  scalarOf? : ∀ kind, c.scalarOf? kind = s.scalar?.filter fun x => x.kind = kind
  scalar? : c.scalar? = s.scalar?
  char? : c.char? = s.scalar?.bind Scalar.char?
  text? : c.text? = s.text?
  handle? : c.handle? = s.handle?
  callable? : c.callable? = s.export?.map Issue.record
  array? : c.array? = s.array?.map fun a => (a.1.map cell, a.2)

theorem shows_scalar (x : Scalar) : Shows (scalar x) (.ofScalar x) := by
  have tag : (Cell.ofScalar x).tag = .ofKind x.kind := rfl
  have word : Scalar.ofWord? x.kind (Cell.ofScalar x).word = some x := x.ofWord?_toWord
  have shown : (Cell.ofScalar x).scalar? = some x := (Cell.scalar?_of_tag tag).trans word
  constructor
  · rw [tag, TypeTag.isOwning_ofKind]
    cases x <;> rfl
  · rw [Cell.isNull_of_tag tag]
    exact iff_of_false x.kind_ne_null nofun
  · intro kind
    rw [Cell.scalarOf?_of_tag tag, word]
    rfl
  · exact shown
  · rw [Cell.char?, shown]
    rfl
  · exact Cell.text?_of_tag tag (by cases x <;> rfl)
  · rfl
  · rfl
  · rfl

theorem shows_text (width : Width) (s : String) (clean : holdsNul s = false) :
    Shows (text width s clean) (.ofText width s) := by
  have tag : (Cell.ofText width s).tag = .ofKind (.string width) := rfl
  obtain ⟨scalarOf, scalar, char⟩ := Cell.scalars_of_tag tag rfl
  refine ⟨?_, ?_, scalarOf, scalar, char, ?_, rfl, rfl, rfl⟩
  · rw [tag, TypeTag.isOwning_ofKind]
    rfl
  · rw [Cell.isNull_of_tag tag]
    exact iff_of_false nofun nofun
  · rw [Cell.text?, tag, TypeTag.kind?_ofKind]
    simp [Cell.ofText, TextBuffer.width_ofText, TextBuffer.text?_ofText width clean, text?]

/-- An array cell is read as an array alone: no kind has its tag. -/
theorem shows_array (leaf : TypeTag) (items : List Stored) (dimensions : Int) :
    Shows (array leaf items dimensions) (.ofArray leaf (items.map cell) dimensions) := by
  have tag : (Cell.ofArray leaf (items.map cell) dimensions).tag = leaf.withArray := rfl
  have isArray := leaf.isArray_withArray
  have other : ∀ kind, leaf.withArray ≠ .ofKind kind := by
    intro kind same
    rw [same, TypeTag.isArray_ofKind] at isArray
    cases isArray
  have noKind : leaf.withArray.kind? = none :=
    Option.eq_none_iff_forall_ne_some.mpr fun kind found =>
      other kind (TypeTag.eq_ofKind_of_kind? found)
  have noScalar : (Cell.ofArray leaf (items.map cell) dimensions).scalar? = none := by
    rw [Cell.scalar?, tag, noKind]
    rfl
  constructor
  · rw [tag, TypeTag.isOwning, isArray]
    rfl
  · rw [Cell.isNull, tag, beq_iff_eq]
    exact iff_of_false (other .null) (by simp)
  · intro kind
    rw [Cell.scalarOf?, tag, if_neg (by simpa using other kind)]
    rfl
  · exact noScalar
  · rw [Cell.char?, noScalar]
    rfl
  · rw [Cell.text?, tag, noKind]
    rfl
  · rfl
  · rfl
  · exact if_pos isArray

/-- **A filled cell** gives what is stored, and nothing else. -/
theorem shows_cell (s : Stored) : s.Shows s.cell := by
  cases s with
  | nothing =>
    have tag : Cell.null.tag = .ofKind .null := rfl
    obtain ⟨scalarOf, scalar, char⟩ := Cell.scalars_of_tag tag rfl
    refine ⟨?_, ?_, scalarOf, scalar, char, Cell.text?_of_tag tag rfl, rfl, rfl, rfl⟩
    · exact (TypeTag.isOwning_ofKind .null).symm
    · exact iff_of_true ((Cell.isNull_of_tag tag).mpr rfl) rfl
  | scalar x => exact shows_scalar x
  | text width s clean => exact shows_text width s clean
  | handle r =>
    have tag : (Cell.ofHandle r).tag = .ofKind .handle := rfl
    obtain ⟨scalarOf, scalar, char⟩ := Cell.scalars_of_tag tag rfl
    refine ⟨?_, ?_, scalarOf, scalar, char, Cell.text?_of_tag tag rfl, handle?_ofHandle r, rfl, rfl⟩
    · exact (TypeTag.isOwning_ofKind .handle).symm
    · rw [cell, Cell.isNull_of_tag tag]
      exact iff_of_false nofun nofun
  | callable e =>
    have tag : (Cell.ofCallable e.record).tag = .ofKind .callable := rfl
    obtain ⟨scalarOf, scalar, char⟩ := Cell.scalars_of_tag tag rfl
    refine ⟨?_, ?_, scalarOf, scalar, char, Cell.text?_of_tag tag rfl, rfl, ?_, rfl⟩
    · exact (TypeTag.isOwning_ofKind .callable).symm
    · rw [cell, Cell.isNull_of_tag tag]
      exact iff_of_false nofun nofun
    · simp [cell, Cell.ofCallable, Cell.callable?, export?]
  | array leaf items dimensions =>
    rw [cell, cellsOf_eq_map]
    exact shows_array leaf items dimensions

/-- Indices lead to the cells of what is stored there. -/
theorem descend?_cell (s : Stored) (path : List Nat) :
    s.cell.descend? path = (s.descend? path).map cell := by
  induction path generalizing s with
  | nil => rfl
  | cons i rest ih =>
    rw [Cell.descend?, descend?, Cell.items?, (shows_cell s).array?]
    cases s.array? with
    | none => rfl
    | some a =>
      simp only [Option.map_some, Option.bind_some, List.getElem?_map]
      cases a.1[i]? with
      | none => rfl
      | some item => exact ih item

end Stored

/-! ## 3. Operations -/

/-- What is done to a cell, or to an element of the array in it. -/
inductive CellUse where
  | free
  | setScalar (s : Scalar)
  | setText (width : Width) (s : String)
  | setHandle (r : HandleRecord)
  /-- Export a function and put its record into the cell. -/
  | setCallable (f : NativeFunction)
  /-- Put an array of null cells into the cell. -/
  | setArray (leaf : TypeTag) (length : Nat) (dimensions : Int)
  | item (k : Nat) (op : CellUse)

namespace CellUse

def change : CellUse → CellChange
  | free => .free
  | setScalar s => .setScalar s
  | setText width s => .setText width s
  | setHandle r => .setHandle r
  | setCallable f => .setCallable (.native f)
  | setArray leaf length dimensions => .setArray leaf length dimensions
  | item k op => .item k op.change

end CellUse

/-- The export that is made for a cell next. -/
def World.exportNext (w : World) (f : NativeFunction) : Issue := ⟨(w.exportForCell f).1, f, true⟩

/-- What is stored when the operation was taken; nothing if it is refused. -/
def CellUse.store? (w : World) : CellUse → Stored → Option Stored
  | free, _ => some .nothing
  | setScalar s, _ => some (.scalar s)
  | setText width s, _ => if clean : holdsNul s = false then some (.text width s clean) else none
  | setHandle r, _ => some (.handle r)
  | setCallable f, _ =>
    if (Callable.native f).isShort then some (.callable (w.exportNext f)) else none
  | setArray leaf length dimensions, _ =>
    some (.array leaf (List.replicate length .nothing) dimensions)
  | item k op, .array leaf items dimensions =>
    (items[k]?.bind (op.store? w)).map fun new => .array leaf (items.set k new) dimensions
  | item _ _, _ => none

/-- What is stored after an operation, taken or not. -/
def Stored.after (s : Stored) (op : CellUse) (w : World) : Stored := (op.store? w s).getD s

namespace Stored

/-- No operation is done on an element that is not there. -/
theorem store?_item_of_none {s : Stored} {k : Nat} (absent : (s.array?.bind fun a => a.1[k]?) = none)
    (op : CellUse) (w : World) : (CellUse.item k op).store? w s = none := by
  cases s with
  | array leaf items dimensions =>
    have absent : items[k]? = none := absent
    rw [CellUse.store?, absent]
    rfl
  | _ => rfl

/-- Element `k` of the cell is the cell of what is stored there. -/
theorem item?_cell {s : Stored} {k : Nat} {item : Stored}
    (here : (s.array?.bind fun a => a.1[k]?) = some item) : s.cell.item? k = .ok item.cell := by
  obtain ⟨a, array, inside⟩ := Option.bind_eq_some_iff.mp here
  rw [Cell.item?, Cell.items?, (shows_cell s).array?, array]
  simp [CellArray.cellAt, inside]

theorem item?_cell_of_none {s : Stored} {k : Nat} (absent : (s.array?.bind fun a => a.1[k]?) = none) :
    ∃ e, s.cell.item? k = .error e := by
  rw [Cell.item?, Cell.items?, (shows_cell s).array?]
  cases array : s.array? with
  | none => exact ⟨_, rfl⟩
  | some a =>
    have absent : a.1[k]? = none := by simpa [array] using absent
    simp [CellArray.cellAt, absent]

/-- Element `k` is put in place of what was there, or it stays. -/
theorem getD_set {items : List Stored} {k : Nat} {item : Stored} (here : items[k]? = some item)
    (leaf : TypeTag) (dimensions : Int) (new? : Option Stored) :
    (new?.map fun new => array leaf (items.set k new) dimensions).getD (array leaf items dimensions) =
      array leaf (items.set k (new?.getD item)) dimensions := by
  obtain ⟨inside, rfl⟩ := List.getElem?_eq_some_iff.mp here
  cases new? with
  | some new => rfl
  | none => rw [Option.getD_none, List.set_getElem_self]; rfl

end Stored

/-- How an operation goes where something is stored: what is stored then, unless it is refused, and the
cell and the process afterwards. -/
inductive Done (w : World) : Stored → Option Stored → Changed → Prop
  | refused {s : Stored} (e : ChangeError) : Done w s none ⟨.error e, s.cell, w⟩
  /-- What was in the cell is freed, and what comes in its place holds no export. -/
  | filled {s new : Stored} (plain : new.exports = []) :
    Done w s (some new) ⟨.ok (), new.cell, w.freeCell s.cell⟩
  /-- A function is exported, and what was in the cell is freed after that. -/
  | exported {s : Stored} (f : NativeFunction) :
    Done w s (some (.callable (w.exportNext f)))
      ⟨.ok (), .ofCallable (w.exportNext f).record, (w.exportForCell f).2.freeCell s.cell⟩
  | within {leaf : TypeTag} {items : List Stored} {dimensions : Int} {k : Nat} {item : Stored}
    {new? : Option Stored} {changed : Changed} (here : items[k]? = some item)
    (inner : Done w item new? changed) :
    Done w (.array leaf items dimensions)
      (new?.map fun new => .array leaf (items.set k new) dimensions)
      ⟨changed.outcome, (Stored.array leaf items dimensions).cell.updateItem k changed.cell,
        changed.world⟩

/-- **All that an operation can do.** -/
theorem done_apply (op : CellUse) (s : Stored) (w : World) :
    Done w s (op.store? w s) (op.change.apply s.cell w) := by
  induction op generalizing s with
  | free | setScalar | setHandle => exact .filled rfl
  | setText width text =>
    simp only [CellUse.change, CellChange.apply, Cell.setText?, CellUse.store?]
    by_cases clean : holdsNul text = false
    · simp only [clean, Bool.false_eq_true, if_false, dif_pos]
      exact .filled rfl
    · simp only [Bool.not_eq_false] at clean
      simp only [clean, if_true, Bool.true_eq_false, dite_false]
      exact .refused _
  | setCallable f =>
    simp only [CellUse.change, CellChange.apply, CellUse.store?]
    cases short : (Callable.native f).isShort with
    | true =>
      rw [toRecord_native_of_short short]
      exact .exported f
    | false =>
      obtain ⟨e, refused⟩ := toRecord_of_long short w
      rw [refused]
      exact .refused _
  | setArray leaf length dimensions =>
    have filled := Done.filled (w := w) (s := s) (Stored.exports_nothings leaf length dimensions)
    rw [Stored.cell, Stored.cellsOf_eq_map, List.map_replicate] at filled
    exact filled
  | item k op ih =>
    rw [CellUse.change, CellChange.apply]
    cases here : s.array?.bind fun a => a.1[k]? with
    | none =>
      obtain ⟨e, refused⟩ := Stored.item?_cell_of_none here
      rw [refused, Stored.store?_item_of_none here]
      exact .refused e
    | some item =>
      rw [Stored.item?_cell here]
      cases s with
      | array leaf items dimensions =>
        have here : items[k]? = some item := here
        rw [CellUse.store?, here, Option.bind_some]
        exact .within here (ih item)
      | _ => cases here

namespace Done

variable {w : World} {s : Stored} {new? : Option Stored} {changed : Changed}

theorem isOk_outcome (done : Done w s new? changed) : changed.outcome.isOk = new?.isSome := by
  induction done with
  | refused | filled | exported => rfl
  | within here inner ih => rw [Option.isSome_map, ← ih]

/-- The cell is the one of what is stored then. -/
theorem cell_eq (done : Done w s new? changed) : changed.cell = (new?.getD s).cell := by
  induction done with
  | refused | filled | exported => rfl
  | within here inner ih =>
    rw [Stored.getD_set here, Stored.cell, Stored.cell, Stored.cellsOf_eq_map, Stored.cellsOf_eq_map,
      List.map_set, ← ih]
    rfl

end Done

end RuntimeBridge
