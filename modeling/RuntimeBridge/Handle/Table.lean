/-
# Tables of registered things

A table gives each registered thing a fresh id, starting at 1.  Ids only grow and are never given
twice, so an id that was released stays unknown.  A table carries the proof that the ids in it were
given before.

Main statements: what is registered is found under the new id and nothing else changes
(`resolve?_register`), and what is released is gone and nothing else changes (`resolve?_erase`).
-/
namespace RuntimeBridge

structure HandleTable (α : Type) where
  entries : List (Nat × α)
  nextId : Nat
  nextId_pos : 0 < nextId
  /-- The ids in the table are not 0, and were given before the next one. -/
  given : ∀ e ∈ entries, 0 < e.1 ∧ e.1 < nextId

namespace HandleTable

variable {α : Type}

/-! ## 1. Operations -/

/-- A table with nothing in it. -/
def empty : HandleTable α where
  entries := []
  nextId := 1
  nextId_pos := Nat.one_pos
  given := by simp

instance : EmptyCollection (HandleTable α) := ⟨empty⟩

/-- Register `x` under the next id. -/
def register (t : HandleTable α) (x : α) : Nat × HandleTable α :=
  (t.nextId,
    { entries := t.entries ++ [(t.nextId, x)]
      nextId := t.nextId + 1
      nextId_pos := Nat.succ_pos _
      given := by
        intro e he
        rcases List.mem_append.mp he with he | he
        · exact ⟨(t.given e he).1, Nat.lt_succ_of_lt (t.given e he).2⟩
        · rw [List.mem_singleton.mp he]
          exact ⟨t.nextId_pos, Nat.lt_succ_self _⟩ })

/-- What is registered under `id`. -/
def resolve? (t : HandleTable α) (id : Nat) : Option α :=
  (t.entries.find? fun e => e.1 == id).map Prod.snd

/-- The table without `id`. -/
def erase (t : HandleTable α) (id : Nat) : HandleTable α :=
  { t with
    entries := t.entries.filter fun e => e.1 != id
    given := fun e he => t.given e (List.mem_filter.mp he).1 }

/-- Release `id`: what was registered under it, and the table without it. -/
def release (t : HandleTable α) (id : Nat) : Option α × HandleTable α :=
  match t.resolve? id with
  | some x => (some x, t.erase id)
  | none => (none, t)

def contains (t : HandleTable α) (id : Nat) : Bool :=
  (t.resolve? id).isSome

def size (t : HandleTable α) : Nat :=
  t.entries.length

def isEmpty (t : HandleTable α) : Bool :=
  t.size == 0

/-! ## 2. Laws -/

/-- **Registration**: the new id, which was free, now stands for `x`; other ids are as before. -/
theorem resolve?_register (t : HandleTable α) (x : α) (id : Nat) :
    (t.register x).2.resolve? id = if id = t.nextId then some x else t.resolve? id := by
  have unused : ∀ e ∈ t.entries, ¬ e.1 = t.nextId := fun e he => Nat.ne_of_lt (t.given e he).2
  simp only [register, resolve?, List.find?_append]
  by_cases hid : id = t.nextId
  · have none_found : t.entries.find? (fun e => e.1 == t.nextId) = none := by
      rw [List.find?_eq_none]
      intro e he
      simpa using unused e he
    simp [hid, none_found]
  · have : (t.nextId == id) = false := by simpa using Ne.symm hid
    cases hf : t.entries.find? (fun e => e.1 == id) <;> simp [hid, this]

/-- An id that stands for something was given before the next one. -/
theorem lt_nextId_of_resolve? {t : HandleTable α} {id : Nat} {x : α}
    (h : t.resolve? id = some x) : id < t.nextId := by
  obtain ⟨e, found, -⟩ := Option.map_eq_some_iff.mp h
  have matched : e.1 = id := by simpa using List.find?_some found
  rw [← matched]
  exact (t.given e (List.mem_of_find?_eq_some found)).2

/-- **Release**: the id stands for nothing, other ids are as before. -/
theorem resolve?_erase (t : HandleTable α) (id other : Nat) :
    (t.erase id).resolve? other = if other = id then none else t.resolve? other := by
  simp only [erase, resolve?, List.find?_filter]
  by_cases h : other = id
  · subst h
    simp
  · rw [if_neg h]
    congr 2
    funext e
    by_cases he : e.1 = other <;> simp [he, h]

end HandleTable

end RuntimeBridge
