/-
# The order of a path's items

The items of a path stand in the order of their keys, no two under one key, and insertion keeps them so
(`Ordered.insert`).  Of an ordered path nothing counts but which value each key has (`Ordered.ext`):
that is why insertions under different keys commute, and why the items of a path, inserted one after
the other, make it again (`Ordered.foldl_insert`).
-/
import Mathlib.Data.List.Induction
import RuntimeBridge.Entity.Path
namespace RuntimeBridge

namespace EntityPath

variable {p q : EntityPath} {key value : String} {items : List (String × String)}
  {item : String × String}

/-- Keys ascend. -/
def Ordered (p : EntityPath) : Prop := p.items.Pairwise fun a b => a.1 < b.1

instance (p : EntityPath) : Decidable p.Ordered :=
  inferInstanceAs (Decidable (List.Pairwise _ _))

/-! ## 1. What insertion keeps -/

theorem ordered_empty : Ordered {} := List.Pairwise.nil

theorem mem_insertItem (mem : item ∈ insertItem key value items) :
    item = (key, value) ∨ item ∈ items := by
  induction items with
  | nil => exact .inl (List.mem_singleton.mp mem)
  | cons head rest ih =>
    rw [insertItem] at mem
    split at mem
    next =>
      rcases List.mem_cons.mp mem with same | mem
      · exact .inl same
      · exact .inr (List.mem_cons_of_mem head mem)
    next =>
      split at mem
      next => exact List.mem_cons.mp mem
      next =>
        rcases List.mem_cons.mp mem with rfl | mem
        · exact .inr List.mem_cons_self
        · exact (ih mem).imp_right (List.mem_cons_of_mem head)

theorem Ordered.insert (ordered : p.Ordered) (key value : String) : (p.insert key value).Ordered := by
  obtain ⟨items⟩ := p
  rw [Ordered] at ordered
  simp only [Ordered, EntityPath.insert]
  induction items with
  | nil => exact List.pairwise_singleton _ _
  | cons head rest ih =>
    obtain ⟨above, ordered⟩ := List.pairwise_cons.mp ordered
    rw [insertItem]
    split
    next same => exact List.pairwise_cons.mpr ⟨fun item mem => same ▸ above item mem, ordered⟩
    next other =>
      split
      next less =>
        refine List.pairwise_cons.mpr ⟨fun item mem => ?_, List.pairwise_cons.mpr ⟨above, ordered⟩⟩
        rcases List.mem_cons.mp mem with rfl | mem
        · exact less
        · exact String.lt_trans less (above item mem)
      next more =>
        refine List.pairwise_cons.mpr ⟨fun item mem => ?_, ih ordered⟩
        rcases mem_insertItem mem with rfl | mem
        · exact Std.lt_of_le_of_ne (String.not_lt.mp more) (Ne.symm other)
        · exact above item mem

/-! ## 2. Lookup -/

theorem get?_nil (key : String) : get? ⟨[]⟩ key = none := rfl

theorem get?_cons (item : String × String) (items : List (String × String)) (key : String) :
    get? ⟨item :: items⟩ key = if key = item.1 then some item.2 else get? ⟨items⟩ key := by
  rw [get?, List.lookup_cons]
  split
  next same => rw [if_pos (eq_of_beq same)]
  next other =>
    rw [if_neg (ne_of_beq_false other)]
    rfl

/-- Insertion binds its key, and leaves the others alone. -/
theorem get?_insert (p : EntityPath) (key value k : String) :
    (p.insert key value).get? k = if k = key then some value else p.get? k := by
  obtain ⟨items⟩ := p
  rw [EntityPath.insert]
  induction items with
  | nil => rw [insertItem, get?_cons]
  | cons head rest ih =>
    rw [insertItem]
    split
    next same =>
      rw [get?_cons, get?_cons, ← same]
      grind
    next =>
      split
      next => rw [get?_cons]
      next other _ =>
        rw [get?_cons, get?_cons, ih]
        grind

/-- Bound in an ordered path are its items. -/
theorem Ordered.get?_eq_some_iff (ordered : p.Ordered) :
    p.get? key = some value ↔ (key, value) ∈ p.items := by
  obtain ⟨items⟩ := p
  induction items with
  | nil => simp [get?_nil]
  | cons head rest ih =>
    obtain ⟨above, ordered⟩ := List.pairwise_cons.mp ordered
    rw [get?_cons, List.mem_cons]
    split
    next same =>
      have absent : (key, value) ∉ rest := fun mem =>
        String.lt_irrefl key (same ▸ above (key, value) mem)
      rw [Option.some_inj, or_iff_left absent, Prod.mk.injEq, eq_comm, and_iff_right same]
    next other =>
      rw [ih ordered, or_iff_right]
      exact fun same => other (congrArg Prod.fst same)

theorem Ordered.nodup (ordered : p.Ordered) : p.items.Nodup := by
  rw [Ordered] at ordered
  refine ordered.imp fun {a b} less => ?_
  rintro rfl
  exact String.lt_irrefl _ less

/-- **Ordered paths with the same values under the same keys are the same.** -/
theorem Ordered.ext (hp : p.Ordered) (hq : q.Ordered) (same : ∀ key, p.get? key = q.get? key) :
    p = q := by
  -- no item stands twice, so the same bindings are the same items, and ascending keys leave one
  -- order for them
  have perm : p.items.Perm q.items := by
    rw [List.perm_ext_iff_of_nodup hp.nodup hq.nodup]
    rintro ⟨key, value⟩
    rw [← hp.get?_eq_some_iff, ← hq.get?_eq_some_iff, same]
  have items : p.items = q.items :=
    perm.eq_of_pairwise (fun a b _ _ less more => absurd less (String.lt_asymm more)) hp hq
  exact congrArg EntityPath.mk items

theorem Ordered.insert_comm {k v : String} (ordered : p.Ordered) (other : key ≠ k) :
    (p.insert key value).insert k v = (p.insert k v).insert key value := by
  refine Ordered.ext ((ordered.insert _ _).insert _ _) ((ordered.insert _ _).insert _ _) fun x => ?_
  rw [get?_insert, get?_insert, get?_insert, get?_insert]
  grind

/-! ## 3. A path and its items -/

theorem insertItem_of_forall_lt (less : ∀ item ∈ items, item.1 < key) :
    insertItem key value items = items ++ [(key, value)] := by
  induction items with
  | nil => rfl
  | cons head rest ih =>
    obtain ⟨first, less⟩ := List.forall_mem_cons.mp less
    have other : key ≠ head.1 := fun same => String.lt_irrefl key (same ▸ first)
    rw [insertItem, if_neg other, if_neg (String.lt_asymm first), ih less, List.cons_append]

/-- The items of an ordered path, inserted one after the other, make it again. -/
theorem Ordered.foldl_insert (ordered : p.Ordered) :
    p.items.foldl (fun q item => q.insert item.1 item.2) {} = p := by
  obtain ⟨items⟩ := p
  induction items using List.reverseRecOn with
  | nil => rfl
  | append_singleton front last ih =>
    obtain ⟨ordered, -, less⟩ := List.pairwise_append.mp ordered
    have below : ∀ item ∈ front, item.1 < last.1 := fun item mem => less item mem last (by simp)
    rw [List.foldl_append, ih ordered, List.foldl_cons, List.foldl_nil, EntityPath.insert,
      insertItem_of_forall_lt below]

end EntityPath

end RuntimeBridge
