/-
# Leaves on their way to a cell

Filling a cell from a list of values asks the list for a scalar, a text, a handle or a callable at a
path.  All of these answers depend on the value at the path alone, so filling is two steps: the value
gives its content for the kind (`Value.asLeaf`), and the content goes into the cell
(`LeafContent.put`).

Main statements: `constructLeaf_eq`, filling is these two steps, and `asLeaf_leafKind`, in its own
kind every leaf has a content.
-/
import RuntimeBridge.Proofs.Value.Tree
namespace RuntimeBridge

/-! ## 1. Contents -/

/-- What goes into a cell that is no array. -/
inductive LeafContent where
  | null
  | scalar (s : Scalar)
  | text (w : Width) (s : String)
  | handle (offer : HandleOffer)
  | callable (c : Callable)

namespace LeafContent

def kind : LeafContent → BaseKind
  | null => .null
  | scalar s => s.kind
  | text w _ => .string w
  | handle _ => .handle
  | callable _ => .callable

/-- Put a content into a cell. -/
def put (path : IndexPath) (x : LeafContent) (cell : Cell) (w : World) : Built Unit Cell :=
  match x with
  | null => Source.filled (cell.free w) ()
  | scalar s => Source.filled (cell.setScalar s w) ()
  | text width s =>
    match cell.setText? width s w with
    | some result => Source.filled result ()
    | none => Source.refuse path (.marshal (.interiorNul (.path path))) cell w ()
  | handle offer =>
    let (record, w) := Source.recordOf offer w
    Source.filled (cell.setHandle record w) ()
  | callable c =>
    match c.toRecord w with
    | (.error e, w) => Source.refuse path e cell w ()
    | (.ok record, w) => Source.filled (cell.setCallable record w) ()

/-- A cell that was filled has the tag of its content and is no array. -/
theorem built_of_put {path : IndexPath} {x : LeafContent} {cell : Cell} {w : World}
    (ok : (x.put path cell w).outcome = .ok ()) :
    ∃ payload owned, (x.put path cell w).built = .plain (.ofKind x.kind) payload owned := by
  cases x with
  | null => exact ⟨_, _, rfl⟩
  | scalar s => exact ⟨_, _, rfl⟩
  | text width s =>
    unfold put at ok ⊢
    cases h : holdsNul s with
    | true => simp [Cell.setText?, h, Source.refuse] at ok
    | false =>
      simp only [Cell.setText?, h]
      exact ⟨_, _, rfl⟩
  | handle offer => exact ⟨_, _, rfl⟩
  | callable c =>
    unfold put at ok ⊢
    rcases h : c.toRecord w with ⟨_ | record, w'⟩
    · simp [h, Source.refuse] at ok
    · simp only [h]
      exact ⟨_, _, rfl⟩

end LeafContent

/-! ## 2. Contents of values -/

namespace Value

/-- What a value has for a handle. -/
def offer : Value → HandleOffer
  | .object o => .object o
  | .foreign h => .foreign h
  | .null => .record .nullLocal
  | v => .wrapped v

/-- What a value gives to a cell of a kind. -/
def asLeaf (path : IndexPath) (v : Value) (kind : BaseKind) : Except BridgeError LeafContent :=
  match kind with
  | .null => .ok .null
  | .string width =>
    match v.text? with
    | some s => .ok (.text width s)
    | none => .error (ValueSource.mismatch path (.ofKind (.string width)) v)
  | .handle => .ok (.handle v.offer)
  | .callable =>
    match v.callable? with
    | some c => .ok (.callable c)
    | none => .error (ValueSource.mismatch path .callable v)
  | .any => .error (.marshal (.unknownType .any (.path path)))
  | kind => (ValueSource.scalarOf path kind v).map .scalar

/-- Fill a cell with a value as one of a kind. -/
def fill (path : IndexPath) (v : Value) (kind : BaseKind) (cell : Cell) (w : World) :
    Built Unit Cell :=
  match v.asLeaf path kind with
  | .error e => Source.refuse path e cell w ()
  | .ok x => x.put path cell w

/-- What a leaf gives to a cell of its own kind. -/
def content : Value → LeafContent
  | .null => .null
  | .scalar s => .scalar s
  | .string w s => .text w s
  | .object o => .handle (.object o)
  | .foreign h => .handle (.foreign h)
  | .callable c => .callable c
  | v => .handle (.wrapped v)

/-- **Leaves have a content in their own kind**, and it is the leaf itself. -/
theorem asLeaf_leafKind (path : IndexPath) {v : Value} (h : v.items? = none) :
    v.asLeaf path v.leafKind = .ok v.content := by
  cases v with
  | array items => simp [items?] at h
  | scalar s =>
    cases s with
    | int k n =>
      have read : (Value.scalar (.int k n)).integer? = some n.val := rfl
      simp only [leafKind, Scalar.kind, asLeaf, ValueSource.scalarOf, read, Fixed.ofInt?_val]
      rfl
    | _ => rfl
  | _ => rfl

end Value

theorem ValueSource.kind_of_scalarOf {path : IndexPath} {kind : BaseKind} {v : Value} {s : Scalar}
    (h : scalarOf path kind v = .ok s) : s.kind = kind := by
  cases kind <;> simp only [scalarOf] at h
  -- every branch ends in an error or in a scalar of the kind
  all_goals (repeat' split at h)
  all_goals cases h <;> rfl

/-- The content of a value for a kind is of that kind. -/
theorem Value.kind_of_asLeaf {path : IndexPath} {v : Value} {kind : BaseKind} {x : LeafContent}
    (h : v.asLeaf path kind = .ok x) : x.kind = kind := by
  have scalars : ∀ {k : BaseKind}, (ValueSource.scalarOf path k v).map .scalar = .ok x →
      x.kind = k := by
    intro k found
    cases read : ValueSource.scalarOf path k v with
    | error e => simp [read, Except.map] at found
    | ok s =>
      rw [read] at found
      rw [← Except.ok.inj found]
      exact ValueSource.kind_of_scalarOf read
  cases kind with
  | null => cases h; rfl
  | handle => cases h; rfl
  | any => cases h
  | string width =>
    simp only [asLeaf] at h
    split at h
    next => rw [← Except.ok.inj h]; rfl
    next => cases h
  | callable =>
    simp only [asLeaf] at h
    split at h
    next => rw [← Except.ok.inj h]; rfl
    next => cases h
  | _ => exact scalars h

/-! ## 3. Filling -/

namespace ValueSource

variable {src : ValueSource} {path : IndexPath} {v : Value}

theorem withValue_eq {α : Type} (found : src.valueAt? path = some v)
    (read : Value → Except BridgeError α) : src.withValue path read = read v := by
  rw [withValue, found]

theorem source_scalar (found : src.valueAt? path = some v) (kind : BaseKind) :
    src.source.scalar path (.ofKind kind) () = (scalarOf path kind v, ()) := by
  simp only [source, scalar, withValue_eq found, TypeTag.kind?_ofKind]

theorem source_text (found : src.valueAt? path = some v) (tag : TypeTag) :
    src.source.text path tag () =
      ((match v.text? with
        | some s => .ok s
        | none => .error (mismatch path tag v)), ()) :=
  congrArg (·, ()) (withValue_eq found _)

theorem source_handle (found : src.valueAt? path = some v) :
    src.source.handle path () = (.ok v.offer, ()) := by
  refine (congrArg (·, ()) (withValue_eq found _)).trans ?_
  cases v <;> rfl

theorem source_callable (found : src.valueAt? path = some v) :
    src.source.callable path () =
      ((match v.callable? with
        | some c => .ok c
        | none => .error (mismatch path .callable v)), ()) :=
  congrArg (·, ()) (withValue_eq found _)

end ValueSource

/-- **Filling from values** takes the content of the value at the path and puts it into the cell. -/
theorem constructLeaf_eq {src : ValueSource} {path : IndexPath} {v : Value}
    (found : src.valueAt? path = some v) (kind : BaseKind) (cell : Cell) (w : World) :
    src.source.constructLeaf path kind cell w () = v.fill path kind cell w := by
  cases kind with
  | null => rfl
  | handle =>
    simp only [Source.constructLeaf, Value.fill, Value.asLeaf, ValueSource.source_handle found,
      LeafContent.put]
  | any => rfl
  | string width =>
    simp only [Source.constructLeaf, Value.fill, Value.asLeaf, ValueSource.source_text found]
    cases v.text? with
    | none => rfl
    | some s => cases written : cell.setText? width s w <;> simp only [LeafContent.put, written]
  | callable =>
    simp only [Source.constructLeaf, Value.fill, Value.asLeaf, ValueSource.source_callable found]
    cases v.callable? with
    | none => rfl
    | some c =>
      rcases given : c.toRecord w with ⟨_ | record, w'⟩ <;> simp only [LeafContent.put, given]
  | _ =>
    simp only [Source.constructLeaf, Value.fill, Value.asLeaf, ValueSource.source_scalar found]
    split
    next e _ read =>
      rw [(Prod.mk.inj read).1]
      rfl
    next s _ read =>
      have read := (Prod.mk.inj read).1
      rw [if_pos (by simp [Scalar.tag, ValueSource.kind_of_scalarOf read]), read]
      rfl

/-- A cell that was filled as one of a kind has that tag and is no array. -/
theorem Value.built_of_fill {path : IndexPath} {v : Value} {kind : BaseKind} {cell : Cell}
    {w : World} (ok : (v.fill path kind cell w).outcome = .ok ()) :
    ∃ payload owned, (v.fill path kind cell w).built = .plain (.ofKind kind) payload owned := by
  unfold fill at ok ⊢
  cases asked : v.asLeaf path kind with
  | error e => simp [asked, Source.refuse] at ok
  | ok x =>
    simp only [asked] at ok ⊢
    rw [← kind_of_asLeaf asked]
    exact LeafContent.built_of_put ok

end RuntimeBridge
