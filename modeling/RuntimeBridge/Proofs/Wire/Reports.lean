/-
# What traversal reports

A sink is told of one cell at a time, with the path of the cell, and of an array it may decline the
elements.  Who listens (`Sink.overheard`) has a report of each call: the path, what was told, and what the
sink answered.

The reports of a traversal that succeeds can be read off the cell.  A cell is reported if every array
around it was opened, and it is reported once.  The paths come in lexicographic order, which is depth
first, elements by their index: an array comes ahead of its elements because its path begins theirs.

The reports of a row are those of its elements one behind the other.  They stay apart because all paths
from one element begin with its index.

Main statement: `path_discipline`, with discipline as in construction.
-/
import Mathlib.Data.List.Nodup
import RuntimeBridge.Proofs.Wire.Overheard
import RuntimeBridge.Proofs.Wire.Traversal
namespace RuntimeBridge

variable {τ : Type}

/-! ## 1. Listening to a sink -/

/-- What a sink is told of a cell without elements. -/
inductive LeafNews where
  | null
  | scalar (s : Scalar)
  | text (width : Width) (t : String)
  | handle (h : DecodedHandle)
  | callable (f : Callable)

/-- What a sink is told of a cell. -/
inductive News where
  | leaf (news : LeafNews)
  | array (shape : ArrayShape) (items : List Cell)

/-- What is told of the cell is true. -/
def LeafNews.Tells (w : World) (c : Cell) : LeafNews → Prop
  | null => c.Means w .null
  | scalar s => c.Means w (.scalar s)
  | text width t => c.Means w (.string width t)
  | handle (.object o) => c.Means w (.object o)
  | handle (.foreign r) => ∀ token, c.Means w (.foreign ⟨token, r⟩)
  | callable f => c.Means w (.callable f)

/-- What is told of the cell is true.  Of an array, these are its elements and its shape. -/
def News.Tells (w : World) (c : Cell) : News → Prop
  | leaf news => news.Tells w c
  | array shape items => c.array? = some (items, shape.dimensions) ∧ shape.length = items.length ∧
    shape.commonType = Cell.commonTag items

/-- A call to a sink: the path, what was told, and the answer: whether the elements are wanted, which of a
cell without elements they are not. -/
structure Report where
  path : IndexPath
  news : News
  answer : Except BridgeError Bool

def Report.call (r : Report) : Call :=
  ⟨r.path, haltOf r.answer⟩

namespace Sink

/-- Tell a sink of a cell without elements. -/
def tell (sink : Sink τ) (path : IndexPath) : LeafNews → τ → Except BridgeError Unit × τ
  | .null => sink.onNull path
  | .scalar s => sink.onScalar path s
  | .text width t => sink.onText path width t
  | .handle h => sink.onHandle path h
  | .callable f => sink.onCallable path f

/-- An answer to news of a cell without elements that somebody hears, behind those heard before. -/
def report (path : IndexPath) (news : LeafNews) (answer : Except BridgeError Unit × τ)
    (reports : List Report) : Except BridgeError Unit × τ × List Report :=
  (answer.1, answer.2, reports ++ [⟨path, .leaf news, answer.1.map fun _ => false⟩])

/-- The sink, with somebody listening. -/
def overheard (sink : Sink τ) : Sink (τ × List Report) where
  onNull path t := report path .null (sink.onNull path t.1) t.2
  onScalar path s t := report path (.scalar s) (sink.onScalar path s t.1) t.2
  onText path width text t := report path (.text width text) (sink.onText path width text t.1) t.2
  onHandle path h t := report path (.handle h) (sink.onHandle path h t.1) t.2
  onCallable path f t := report path (.callable f) (sink.onCallable path f t.1) t.2
  onArray path shape items t :=
    let a := sink.onArray path shape items t.1
    (a.1, a.2, t.2 ++ [⟨path, .array shape items, a.1⟩])
  expectedType path t := sink.expectedType path t.1

theorem onArray_overheard (sink : Sink τ) (path : IndexPath) (shape : ArrayShape) (items : List Cell)
    (t : τ × List Report) :
    sink.overheard.onArray path shape items t =
      ((sink.onArray path shape items t.1).1, (sink.onArray path shape items t.1).2,
        t.2 ++ [⟨path, .array shape items, (sink.onArray path shape items t.1).1⟩]) :=
  rfl

theorem shapeOf_overheard (w : World) (sink : Sink τ) (items : List Cell) (dimensions : Int)
    (path : IndexPath) (t : τ × List Report) :
    shapeOf w sink.overheard items dimensions path t = shapeOf w sink items dimensions path t.1 :=
  rfl

theorem tell_overheard (sink : Sink τ) (path : IndexPath) (news : LeafNews) (t : τ × List Report) :
    sink.overheard.tell path news t = report path news (sink.tell path news t.1) t.2 := by
  cases news <;> rfl

/-! ## 2. Leaves -/

/-- A cell without elements is told of, whoever the sink is, or traversal itself stops at it. -/
def LeafTold (w : World) (c : Cell) (path : IndexPath) : Prop :=
  (∃ news : LeafNews, news.Tells w c ∧ ∀ {τ : Type} (sink : Sink τ) (t : τ),
    traverseLeaf w sink c path t = answer path (sink.tell path news t)) ∨
  ∃ halt, RaisedAt path halt ∧ ∀ {τ : Type} (sink : Sink τ) (t : τ),
    traverseLeaf w sink c path t = (.error ⟨halt, path⟩, t)

theorem leafTold_handle {w : World} {c : Cell} (kind : c.tag.kind? = some .handle) (path : IndexPath) :
    LeafTold w c path := by
  cases found : c.handle? with
  | none =>
    exact .inl ⟨.null, .noRecord kind found, fun sink t => by
      simp only [traverseLeaf, kind, found, tell]⟩
  | some r =>
    cases null : r.isNull with
    | true =>
      exact .inl ⟨.null, .nullHandle found null, fun sink t => by
        simp only [traverseLeaf, kind, found, null, if_true, tell]⟩
    | false =>
      cases here : r.isLocal with
      | false =>
        exact .inl ⟨.handle (.foreign r), fun token => .foreign token found null here, fun sink t => by
          simp only [traverseLeaf, kind, found, null, here, Bool.false_eq_true, if_false, tell]⟩
      | true =>
        cases object : w.objects.resolve? r.handle with
        | none =>
          exact .inr ⟨_, .dangling r.handle, fun sink t => by
            simp only [traverseLeaf, kind, found, null, here, World.resolveLocal, object,
              Bool.false_eq_true, if_false, if_true]⟩
        | some o =>
          exact .inl ⟨.handle (.object o), .object found null here object, fun sink t => by
            simp only [traverseLeaf, kind, found, null, here, World.resolveLocal, object,
              Bool.false_eq_true, if_false, if_true, tell]⟩

/-- **Leaves.** -/
theorem leafTold (w : World) (c : Cell) (path : IndexPath) : LeafTold w c path := by
  cases kind : c.tag.kind? with
  | none =>
    exact .inr ⟨.marshal (.unknownType c.tag (.path path)), .violation rfl, fun sink t => by
      simp only [traverseLeaf, kind, violation]⟩
  | some k =>
    cases k with
    | any =>
      exact .inr ⟨.marshal (.unknownType c.tag (.path path)), .violation rfl, fun sink t => by
        simp only [traverseLeaf, kind, violation]⟩
    | null => exact .inl ⟨.null, .null kind, fun sink t => by simp only [traverseLeaf, kind, tell]⟩
    | string width =>
      cases found : c.text? with
      | none =>
        exact .inr ⟨.marshal (.invalidString (.path path) c.tag), .violation rfl, fun sink t => by
          simp only [traverseLeaf, kind, found, violation]⟩
      | some text =>
        exact .inl ⟨.text width text, .text kind found, fun sink t => by
          simp only [traverseLeaf, kind, found, tell]⟩
    | handle => exact leafTold_handle kind path
    | callable =>
      cases found : c.callable?.bind fun r => r.callable? w with
      | none =>
        exact .inr ⟨.marshal (.nullCallable (.path path)), .violation rfl, fun sink t => by
          simp only [traverseLeaf, kind, found, violation]⟩
      | some f =>
        obtain ⟨r, record, function⟩ := Option.bind_eq_some_iff.mp found
        exact .inl ⟨.callable f, .callable record function, fun sink t => by
          simp only [traverseLeaf, kind, found, tell]⟩
    | int | float64 | float32 | bool | char =>
      cases found : c.scalar? with
      | none =>
        exact .inr ⟨.marshal (.invalidChar (.path path)), .violation rfl, fun sink t => by
          simp only [traverseLeaf, kind, found, violation]⟩
      | some s =>
        exact .inl ⟨.scalar s, .scalar (Cell.kind_of_scalar? found) found, fun sink t => by
          simp only [traverseLeaf, kind, found, tell]⟩

/-! ## 3. Listening changes nothing -/

/-- A result without what was heard. -/
def unheard {α : Type} (r : α × τ × List Report) : α × τ :=
  (r.1, r.2.1)

variable {w : World} {sink : Sink τ}

theorem unheard_traverseLeaf (w : World) (sink : Sink τ) (c : Cell) (path : IndexPath)
    (t : τ × List Report) :
    unheard (traverseLeaf w sink.overheard c path t) = traverseLeaf w sink c path t.1 := by
  rcases leafTold w c path with ⟨news, -, told⟩ | ⟨halt, -, told⟩
  · rw [told, told, tell_overheard]
    rcases sink.tell path news t.1 with ⟨e | ⟨⟩, t'⟩ <;> rfl
  · rw [told, told]
    rfl

theorem unheard_traverseRow {cells : List Cell}
    (each : ∀ c ∈ cells, ∀ path t,
      unheard (traverseCell w sink.overheard c path t) = traverseCell w sink c path t.1)
    (path : IndexPath) (i : Nat) (t : τ × List Report) :
    unheard (traverseRow w sink.overheard cells path i t) = traverseRow w sink cells path i t.1 := by
  induction cells generalizing i t with
  | nil => rfl
  | cons c cs ih =>
    rw [traverseRow, traverseRow, ← each c List.mem_cons_self]
    rcases traverseCell w sink.overheard c (path ++ [i]) t with ⟨stop | ⟨⟩, t'⟩
    · rfl
    · exact ih (fun d mem => each d (List.mem_cons_of_mem _ mem)) (i + 1) t'

/-- **Listening changes nothing** of a traversal. -/
theorem unheard_traverseCell (w : World) (sink : Sink τ) (c : Cell) (path : IndexPath)
    (t : τ × List Report) :
    unheard (traverseCell w sink.overheard c path t) = traverseCell w sink c path t.1 := by
  induction c using Cell.induct generalizing path t with
  | plain tag payload owned =>
    rw [traverseCell, traverseCell]
    split
    case isTrue => rfl
    split
    case isTrue => rfl
    exact unheard_traverseLeaf w sink _ path t
  | array tag items dimensions owned ih =>
    rw [traverseCell, traverseCell]
    split
    case isTrue => rfl
    split
    case isFalse => exact unheard_traverseLeaf w sink _ path t
    rw [onArray_overheard, shapeOf_overheard]
    rcases sink.onArray path (shapeOf w sink items dimensions path t.1) items t.1 with
      ⟨e | ⟨⟨⟩ | ⟨⟩⟩, t'⟩
    · rfl
    · rfl
    · exact unheard_traverseRow ih path 0 (t', _)

end Sink

/-! ## 4. Reports of a cell -/

namespace IndexPath

/-- An array comes ahead of its elements. -/
theorem lt_below (path : IndexPath) (i : Nat) (rest : List Nat) : path < path ++ i :: rest :=
  calc path = path ++ [] := (List.append_nil path).symm
    _ < path ++ i :: rest := List.append_left_lt (List.nil_lt_cons i rest)

/-- Elements come by their index. -/
theorem lt_behind (path : IndexPath) {i j : Nat} (less : i < j) (rest rest' : List Nat) :
    path ++ i :: rest < path ++ j :: rest' :=
  List.append_left_lt (List.cons_lt_cons_iff.mpr (.inl less))

end IndexPath

/-- The elements at a path were asked for. -/
def Opened (reports : List Report) (path : IndexPath) : Prop :=
  ∃ r ∈ reports, r.path = path ∧ r.answer = .ok true

theorem Opened.reported {reports : List Report} {path : IndexPath} (opened : Opened reports path) :
    ∃ r ∈ reports, r.path = path := by
  obtain ⟨r, mem, place, -⟩ := opened
  exact ⟨r, mem, place⟩

namespace Cell

/-- The reports of a cell at a path. -/
structure Reported (w : World) (c : Cell) (path : IndexPath) (reports : List Report) : Prop where
  /-- Depth first, elements by their index, and nothing twice. -/
  order : (reports.map Report.path).Pairwise (· < ·)
  /-- Each tells of the cell at its path. -/
  tells : ∀ r ∈ reports, ∃ rest d, r.path = path ++ rest ∧ c.descend? rest = some d ∧ r.news.Tells w d
  /-- A cell has a report just when every array around it was opened. -/
  which : ∀ rest d, c.descend? rest = some d →
    ((∃ r ∈ reports, r.path = path ++ rest) ↔
      ∀ front, front <+: rest → front ≠ rest → Opened reports (path ++ front))

/-- The reports of the elements of an array at a path, from index `i` on. -/
structure RowReported (w : World) (cells : List Cell) (path : IndexPath) (i : Nat)
    (reports : List Report) : Prop where
  order : (reports.map Report.path).Pairwise (· < ·)
  tells : ∀ r ∈ reports, ∃ j rest c d, r.path = path ++ (i + j) :: rest ∧ cells[j]? = some c ∧
    c.descend? rest = some d ∧ r.news.Tells w d
  which : ∀ j c rest d, cells[j]? = some c → c.descend? rest = some d →
    ((∃ r ∈ reports, r.path = path ++ (i + j) :: rest) ↔
      ∀ front, front <+: rest → front ≠ rest → Opened reports (path ++ (i + j) :: front))

variable {w : World} {c : Cell} {cells : List Cell} {path : IndexPath} {i : Nat}
  {reports later : List Report}

/-- **A cell whose elements were not asked for** has one report, and nothing below it has any. -/
theorem reported_closed {news : News} (tells : news.Tells w c) {answer : Except BridgeError Bool}
    (closed : answer ≠ .ok true) : c.Reported w path [⟨path, news, answer⟩] where
  order := List.pairwise_singleton _ _
  tells r mem := ⟨[], c, by rw [List.mem_singleton.mp mem, List.append_nil], rfl,
    by rwa [List.mem_singleton.mp mem]⟩
  which rest d found := by
    cases rest with
    | nil => simp
    | cons j rest =>
      refine iff_of_false ?_ fun opened => ?_
      · rintro ⟨r, mem, same⟩
        rw [List.mem_singleton.mp mem] at same
        simp at same
      · obtain ⟨r, mem, -, open'⟩ := opened [] List.nil_prefix (List.cons_ne_nil j rest).symm
        rw [List.mem_singleton.mp mem] at open'
        exact closed open'

/-- What no later report fits is to be found among the first ones. -/
theorem exists_append_left {P : Report → Prop} (absent : ¬ ∃ r ∈ later, P r) :
    (∃ r ∈ reports ++ later, P r) ↔ ∃ r ∈ reports, P r := by
  simp only [List.mem_append, or_and_right, exists_or]
  exact or_iff_left absent

theorem exists_append_right {P : Report → Prop} (absent : ¬ ∃ r ∈ reports, P r) :
    (∃ r ∈ reports ++ later, P r) ↔ ∃ r ∈ later, P r := by
  simp only [List.mem_append, or_and_right, exists_or]
  exact or_iff_right absent

theorem opened_append_left {p : IndexPath} (absent : ¬ ∃ r ∈ later, r.path = p) :
    Opened (reports ++ later) p ↔ Opened reports p :=
  exists_append_left fun there : Opened later p => absent there.reported

theorem opened_append_right {p : IndexPath} (absent : ¬ ∃ r ∈ reports, r.path = p) :
    Opened (reports ++ later) p ↔ Opened later p :=
  exists_append_right fun there : Opened reports p => absent there.reported

/-- **An array whose elements were asked for** is reported ahead of them. -/
theorem reported_opened {items : List Cell} {news : News} {dimensions : Int} (tells : news.Tells w c)
    (read : c.array? = some (items, dimensions)) (row : RowReported w items path 0 reports) :
    c.Reported w path ([⟨path, news, .ok true⟩] ++ reports) where
  order := by
    refine List.pairwise_cons.mpr ⟨fun p below => ?_, row.order⟩
    obtain ⟨r, mem, rfl⟩ := List.mem_map.mp below
    obtain ⟨j, rest, _, _, place, -⟩ := row.tells r mem
    rw [place]
    exact IndexPath.lt_below path (0 + j) rest
  tells r mem := by
    rcases List.mem_cons.mp mem with rfl | mem
    · exact ⟨[], c, (List.append_nil path).symm, rfl, tells⟩
    · obtain ⟨j, rest, item, d, place, atIndex, found, tells⟩ := row.tells r mem
      rw [Nat.zero_add] at place
      exact ⟨j :: rest, d, place, by simp [descend?, items?, read, atIndex, found], tells⟩
  which rest d found := by
    have itself : Opened ([⟨path, news, .ok true⟩] ++ reports) (path ++ []) :=
      ⟨_, List.mem_cons_self, (List.append_nil path).symm, rfl⟩
    cases rest with
    | nil =>
      exact iff_of_true itself.reported fun front inside proper =>
        absurd (List.prefix_nil.mp inside) proper
    | cons j rest =>
      obtain ⟨item, atItem, deeper⟩ := Option.bind_eq_some_iff.mp found
      have atIndex : items[j]? = some item := by simpa [items?, read] using atItem
      -- the array itself has its report at none of the paths below it
      have apart : ∀ below, ¬ ∃ r ∈ [(⟨path, news, .ok true⟩ : Report)], r.path = path ++ j :: below := by
        rintro below ⟨r, mem, place⟩
        rw [List.mem_singleton.mp mem] at place
        simp at place
      have below := row.which j item rest d atIndex deeper
      rw [Nat.zero_add] at below
      rw [exists_append_right (apart rest), below]
      constructor
      · intro inner front inside proper
        rcases List.prefix_cons_iff.mp inside with rfl | ⟨deeper, rfl, within⟩
        · exact itself
        · have open' := inner deeper within fun same => proper (by rw [same])
          exact (opened_append_right (apart deeper)).mpr open'
      · intro outer front inside proper
        have open' := outer (j :: front) (List.cons_prefix_cons.mpr ⟨rfl, inside⟩)
          fun same => proper (List.cons.inj same).2
        exact (opened_append_right (apart front)).mp open'

theorem RowReported.nil (w : World) (path : IndexPath) (i : Nat) : RowReported w [] path i [] where
  order := .nil
  tells _ mem := absurd mem List.not_mem_nil
  which _ _ _ _ atIndex := absurd atIndex (by simp)

/-- **A row** is reported element by element. -/
theorem RowReported.cons (element : c.Reported w (path ++ [i]) reports)
    (row : RowReported w cells path (i + 1) later) :
    RowReported w (c :: cells) path i (reports ++ later) := by
  have next : ∀ j, i + 1 + j = i + (j + 1) := fun j => by omega
  have own : ∀ r ∈ reports, ∃ rest d, r.path = path ++ i :: rest ∧ c.descend? rest = some d ∧
      r.news.Tells w d := by
    simpa using element.tells
  have others : ∀ r ∈ later, ∃ j rest item d, r.path = path ++ (i + (j + 1)) :: rest ∧
      cells[j]? = some item ∧ item.descend? rest = some d ∧ r.news.Tells w d := by
    simpa only [next] using row.tells
  constructor
  · rw [List.map_append, List.pairwise_append]
    refine ⟨element.order, row.order, fun p first q second => ?_⟩
    obtain ⟨r, mem, rfl⟩ := List.mem_map.mp first
    obtain ⟨r', mem', rfl⟩ := List.mem_map.mp second
    obtain ⟨rest, _, place, -⟩ := own r mem
    obtain ⟨j, rest', _, _, place', -⟩ := others r' mem'
    rw [place, place']
    exact IndexPath.lt_behind path (by omega) rest rest'
  · intro r mem
    rcases List.mem_append.mp mem with mem | mem
    · obtain ⟨rest, d, place, found, tells⟩ := own r mem
      exact ⟨0, rest, c, d, place, rfl, found, tells⟩
    · obtain ⟨j, rest, item, d, place, atIndex, found, tells⟩ := others r mem
      exact ⟨j + 1, rest, item, d, place, atIndex, found, tells⟩
  · intro j item rest d atIndex found
    cases j with
    | zero =>
      obtain rfl := Option.some.inj atIndex
      have apart : ∀ below, ¬ ∃ r ∈ later, r.path = path ++ i :: below := by
        rintro below ⟨r, mem, same⟩
        obtain ⟨j, rest, _, _, place, -⟩ := others r mem
        simp [place] at same
      have here := element.which rest d found
      simp only [List.append_assoc, List.singleton_append] at here
      simp only [Nat.add_zero, opened_append_left (apart _), exists_append_left (apart rest), here]
    | succ j =>
      have apart : ∀ below, ¬ ∃ r ∈ reports, r.path = path ++ (i + (j + 1)) :: below := by
        rintro below ⟨r, mem, same⟩
        obtain ⟨rest, _, place, -⟩ := own r mem
        simp [place] at same
      have behind := row.which j item rest d atIndex found
      simp only [next] at behind
      simp only [opened_append_right (apart _), exists_append_right (apart rest), behind]

/-- No path has two reports. -/
theorem Reported.inj (reported : c.Reported w path reports) {r r' : Report} (mem : r ∈ reports)
    (mem' : r' ∈ reports) (same : r.path = r'.path) : r = r' :=
  List.inj_on_of_nodup_map reported.order.nodup mem mem' same

/-- **Below a cell whose elements were not asked for nothing is reported.** -/
theorem Reported.declined (reported : c.Reported w path reports) {r r' : Report} (mem : r ∈ reports)
    (closed : r.answer ≠ .ok true) (mem' : r' ∈ reports) (below : r.path <+: r'.path) : r' = r := by
  obtain ⟨front, _, place, -⟩ := reported.tells r mem
  obtain ⟨rest, d, place', found, -⟩ := reported.tells r' mem'
  rw [place, place', List.prefix_append_right_inj] at below
  by_cases same : front = rest
  · exact reported.inj mem' mem (by rw [place, place', same])
  · obtain ⟨opener, listed, there, opened⟩ :=
      (reported.which rest d found).mp ⟨r', mem', place'⟩ front below same
    rw [reported.inj listed mem (there.trans place.symm)] at opened
    exact absurd opened closed

end Cell

/-! ## 5. Discipline of traversal -/

namespace Sink

/-- A step from a path was heard to be disciplined, and its reports, if it succeeds, to be of this sort. -/
def Hears (path : IndexPath) (before : List Report) (sort : List Report → Prop)
    (r : Except Stop Unit × τ × List Report) : Prop :=
  ∃ reports, r.2.2 = before ++ reports ∧
    Disciplined path (reports.map Report.call) (.ofNamed path r.1) ∧ (r.1 = .ok () → sort reports)

variable {w : World} {sink : Sink τ} {path : IndexPath}

/-- What fails need not have reported everything. -/
theorem hears_failed {stop : Stop} {t : τ × List Report} {before reports : List Report}
    (heard : t.2 = before ++ reports)
    (d : Disciplined path (reports.map Report.call) ⟨.error stop.reason, stop.path⟩)
    (sort : List Report → Prop) : Hears path before sort (.error stop, t) :=
  ⟨reports, heard, d, nofun⟩

theorem hears_raised {halt : Halt} (raised : RaisedAt path halt) (t : τ × List Report)
    (sort : List Report → Prop) : Hears path t.2 sort (.error ⟨halt, path⟩, t) :=
  hears_failed (List.append_nil _).symm (.stopped raised) sort

theorem hears_traverseLeaf (w : World) (sink : Sink τ) (c : Cell) (path : IndexPath)
    (t : τ × List Report) :
    Hears path t.2 (c.Reported w path) (traverseLeaf w sink.overheard c path t) := by
  rcases leafTold w c path with ⟨news, tells, told⟩ | ⟨halt, raised, told⟩
  · have ofCell : (News.leaf news).Tells w c := tells
    rw [told, tell_overheard, report]
    rcases sink.tell path news t.1 with ⟨e | ⟨⟩, t'⟩
    · exact hears_failed rfl (.refused path (.error e)) _
    · exact ⟨_, rfl, (Disciplined.done path).answered, fun _ =>
        Cell.reported_closed ofCell (by simp [Except.map])⟩
  · rw [told]
    exact hears_raised raised t _

/-- **A row** of elements, each from the path with its index. -/
theorem hears_traverseRow {cells : List Cell}
    (each : ∀ c ∈ cells, ∀ path t,
      Hears path t.2 (c.Reported w path) (traverseCell w sink.overheard c path t))
    (i : Nat) (t : τ × List Report) :
    Hears path t.2 (Cell.RowReported w cells path i)
      (traverseRow w sink.overheard cells path i t) := by
  induction cells generalizing i t with
  | nil => exact ⟨[], (List.append_nil _).symm, .done path, fun _ => .nil w path i⟩
  | cons c cs ih =>
    have element := each c List.mem_cons_self (path ++ [i]) t
    rw [traverseRow]
    generalize traverseCell w sink.overheard c (path ++ [i]) t = r at element ⊢
    obtain ⟨stop | ⟨⟩, t'⟩ := r
    · obtain ⟨reports, heard, d, -⟩ := element
      exact hears_failed heard (d.within rfl) _
    · obtain ⟨reports, heard, d, reported⟩ := element
      obtain ⟨later, heard', d', row⟩ :=
        ih (fun d mem => each d (List.mem_cons_of_mem _ mem)) (i + 1) t'
      refine ⟨reports ++ later, ?_, ?_, fun ok => .cons (reported rfl) (row ok)⟩
      · rw [← List.append_assoc, ← heard]
        exact heard'
      · rw [List.map_append]
        exact d.next rfl d'

/-- **Traversal is disciplined**, whatever the sink answers, and reports the cell. -/
theorem hears_traverseCell (w : World) (sink : Sink τ) (c : Cell) (path : IndexPath)
    (t : τ × List Report) :
    Hears path t.2 (c.Reported w path) (traverseCell w sink.overheard c path t) := by
  induction c using Cell.induct generalizing path t with
  | plain tag payload owned =>
    rw [traverseCell]
    split
    case isTrue => exact hears_raised (.violation rfl) t _
    split
    case isTrue => exact hears_raised (.violation rfl) t _
    exact hears_traverseLeaf w sink _ path t
  | array tag items dimensions owned ih =>
    rw [traverseCell]
    split
    case isTrue => exact hears_raised (.violation rfl) t _
    split
    case isFalse => exact hears_traverseLeaf w sink _ path t
    case isTrue isArray =>
      have read : (Cell.array tag items dimensions owned).array? = some (items, dimensions) :=
        if_pos isArray
      rw [onArray_overheard, shapeOf_overheard]
      have tells : (News.array (shapeOf w sink items dimensions path t.1) items).Tells w
          (.array tag items dimensions owned) := ⟨read, rfl, rfl⟩
      generalize shapeOf w sink items dimensions path t.1 = shape at tells ⊢
      rcases sink.onArray path shape items t.1 with ⟨e | ⟨⟨⟩ | ⟨⟩⟩, t'⟩
      · exact hears_failed rfl (.refused path (.error e)) _
      · exact ⟨_, rfl, (Disciplined.done path).answered, fun _ =>
          Cell.reported_closed tells (by simp)⟩
      · obtain ⟨reports, heard, d, row⟩ :=
          hears_traverseRow ih 0 (t', t.2 ++ [⟨path, .array shape items, .ok true⟩])
        exact ⟨[_] ++ reports, heard.trans (List.append_assoc _ _ _), d.answered, fun ok =>
          Cell.reported_opened tells read (row ok)⟩

/-! ## 6. Traversal with one stack -/

/-- The sink, with other expectations of handles. -/
def expecting (sink : Sink τ) (expected : IndexPath → τ → Option ObjectType) : Sink τ :=
  { sink with expectedType := expected }

variable {expected : IndexPath → τ → Option ObjectType}

theorem traverseRow_expecting {cells : List Cell}
    (each : ∀ c ∈ cells, ∀ path t, (∀ p t, path <+: p → expected p t = sink.expectedType p t) →
      traverseCell w (sink.expecting expected) c path t = traverseCell w sink c path t)
    (same : ∀ p t, path <+: p → expected p t = sink.expectedType p t) (i : Nat) (t : τ) :
    traverseRow w (sink.expecting expected) cells path i t = traverseRow w sink cells path i t := by
  induction cells generalizing i t with
  | nil => rfl
  | cons c cs ih =>
    rw [traverseRow, traverseRow, each c List.mem_cons_self (path ++ [i]) t fun p t below =>
      same p t ((List.prefix_append path [i]).trans below)]
    rcases traverseCell w sink c (path ++ [i]) t with ⟨stop | ⟨⟩, t⟩
    · rfl
    · exact ih (fun d mem => each d (List.mem_cons_of_mem _ mem)) (i + 1) t

/-- What is expected matters at the path and below it only. -/
theorem traverseCell_expecting (c : Cell) (t : τ)
    (same : ∀ p t, path <+: p → expected p t = sink.expectedType p t) :
    traverseCell w (sink.expecting expected) c path t = traverseCell w sink c path t := by
  induction c using Cell.induct generalizing path t with
  | plain tag payload owned =>
    rw [traverseCell, traverseCell]
    rfl
  | array tag items dimensions owned ih =>
    have shape : shapeOf w (sink.expecting expected) items dimensions path t =
        shapeOf w sink items dimensions path t := by
      simp only [shapeOf, expecting, same path t (List.prefix_refl path)]
    rw [traverseCell, traverseCell, shape,
      show (sink.expecting expected).onArray = sink.onArray from rfl]
    split
    case isTrue => rfl
    split
    case isFalse => rfl
    rcases sink.onArray path (shapeOf w sink items dimensions path t) items t with ⟨e | ⟨⟨⟩ | ⟨⟩⟩, t⟩
    · rfl
    · rfl
    · exact traverseRow_expecting (fun c mem path t same => ih c mem t same) same 0 t

/-- What traversal with one stack of indices does from a path. -/
structure PathDiscipline (sink : Sink τ) (w : World) (c : Cell) (path : IndexPath) (t : τ) : Prop where
  /-- It is the traversal with a path for each call. -/
  traversal : ((traverseOn w sink c path t).1.named, (traverseOn w sink c path t).2) =
    traverseCell w sink c path t
  /-- Listening changes nothing. -/
  unheard : unheard (traverseOn w sink.overheard c path (t, [])) = traverseOn w sink c path t
  /-- What is heard is disciplined. -/
  disciplined : Disciplined path ((traverseOn w sink.overheard c path (t, [])).2.2.map Report.call)
    (traverseOn w sink c path t).1
  /-- For what is expected, nobody asks but at the path and below it. -/
  expected : ∀ expected, (∀ p t, path <+: p → expected p t = sink.expectedType p t) →
    traverseOn w (sink.expecting expected) c path t = traverseOn w sink c path t
  /-- A success has reported the cell. -/
  reported : (traverseOn w sink c path t).1.outcome = .ok () →
    c.Reported w path (traverseOn w sink.overheard c path (t, [])).2.2
  /-- A success has reported nothing below a cell whose elements were not asked for. -/
  declined : (traverseOn w sink c path t).1.outcome = .ok () →
    ∀ r ∈ (traverseOn w sink.overheard c path (t, [])).2.2, r.answer ≠ .ok true →
      ∀ r' ∈ (traverseOn w sink.overheard c path (t, [])).2.2, r.path <+: r'.path → r' = r

/-- **Traversal with one stack keeps to its paths.** -/
theorem pathDiscipline (sink : Sink τ) (w : World) (c : Cell) (path : IndexPath) (t : τ) :
    sink.PathDiscipline w c path t := by
  have unheard := unheard_traverseCell w sink c path (t, [])
  obtain ⟨reports, heard, d, reported⟩ := hears_traverseCell w sink c path (t, [])
  rw [List.nil_append] at heard
  subst heard
  have succeeded : (traverseOn w sink c path t).1.outcome = .ok () →
      c.Reported w path (traverseOn w sink.overheard c path (t, [])).2.2 := by
    rw [traverseOn_eq, traverseOn_eq, ← unheard, Ending.outcome_ofNamed]
    exact reported
  constructor
  case traversal => rw [traverseOn_eq, Ending.named_ofNamed]
  case unheard =>
    rw [traverseOn_eq, traverseOn_eq, ← unheard]
    rfl
  case disciplined =>
    rw [traverseOn_eq, traverseOn_eq, ← unheard]
    exact d
  case expected =>
    intro expected same
    rw [traverseOn_eq, traverseOn_eq, traverseCell_expecting c t same]
  case reported => exact succeeded
  case declined => exact fun ok r mem closed r' => (succeeded ok).declined mem closed

end Sink

/-- **Paths are kept to.**  With one stack of indices, construction and traversal go as with a path for
each call.  A success gives the stack back as it was; a failure leaves it at the place where it stopped,
at or below the path it began with, and unless a source or a sink refused, the error tells the text of
that place.  Sources and sinks are given no path but that one and those below it.  A traversal that
succeeds has reported each cell that only opened arrays are around, once, depth first and by index. -/
theorem path_discipline :
    (∀ {σ : Type} (src : Source σ) (depth : Nat) (path : IndexPath) (declared : Option TypeInfo)
      (cell : Cell) (w : World) (s : σ), src.PathDiscipline depth path declared cell w s) ∧
    (∀ {τ : Type} (sink : Sink τ) (w : World) (c : Cell) (path : IndexPath) (t : τ),
      sink.PathDiscipline w c path t) ∧
    ∀ {path : IndexPath} {e : MarshalError} {place : Place}, RaisedAt path (.error (.marshal e)) →
      e.place? = some place →
      place.toText = path.toText ∧ ∃ front behind, e.message = front ++ path.toText ++ behind :=
  ⟨fun src => src.pathDiscipline, fun sink => sink.pathDiscipline, fun raised => raised.message⟩

/-- A sink that takes everything, and wants the elements of every array but the one at a path. -/
def Sink.skipping (skipped : IndexPath) : Sink Unit where
  onNull _ t := (.ok (), t)
  onScalar _ _ t := (.ok (), t)
  onText _ _ _ t := (.ok (), t)
  onHandle _ _ t := (.ok (), t)
  onCallable _ _ t := (.ok (), t)
  onArray path _ _ t := (.ok (path != skipped), t)

/-- Behind a nested array, skipped or not, the paths are right again. -/
example :
    let row := Cell.ofArray .null [.null] 1
    ((Sink.traverseOn {} (Sink.skipping [7, 0]).overheard (.ofArray .any [row, row, .null] (-1)) [7]
      ((), [])).2.2.map Report.path) = [[7], [7, 0], [7, 1], [7, 1, 0], [7, 2]] := by
  decide

end RuntimeBridge
