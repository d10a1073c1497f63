import Mathlib.Data.Option.Basic
import Multiscan.Builtin.Heap
/-!
# Built-in engine — the heap and calls on it

A call is a function of the heap. On the heap, the operations on scratch
space are each one `put`, once the cell is known.
-/

namespace Multiscan.Builtin

open Engine

/-! ## Running calls -/

namespace Call

variable {α β : Type}

@[simp] theorem pure_apply (a : α) (heap : Heap) : (pure a : Call α) heap = (a, heap) := rfl

@[simp] theorem bind_apply (a : Call α) (f : α → Call β) (heap : Heap) :
    (a >>= f) heap = f (a heap).1 (a heap).2 := rfl

@[simp] theorem map_apply (f : α → β) (a : Call α) (heap : Heap) :
    (f <$> a) heap = (f (a heap).1, (a heap).2) := rfl

@[simp] theorem get_apply (heap : Heap) : (get : Call Heap) heap = (heap, heap) := rfl

@[simp] theorem modify_apply (f : Heap → Heap) (heap : Heap) :
    (modify f : Call PUnit) heap = (⟨⟩, f heap) := rfl

@[simp] theorem give_apply (c : Cell) (heap : Heap) : give c heap = heap.give c := rfl

end Call

/-! ## Kinds of cells -/

namespace Heap

variable {heap : Heap} {h k : Handle} {capacity : Nat} {busy : Bool} {buffer : List Event}

theorem database?_some (patterns : List Compiled) :
    heap.database? (some h) = some patterns ↔ heap.cell? h = some (.database patterns) := by
  simp only [database?, Option.bind_some]
  rcases heap.cell? h with _ | _ | _ | _ | _ <;> simp

theorem scratch?_some :
    heap.scratch? (some h) = some (capacity, busy) ↔
      ∃ buffer, heap.cell? h = some (.scratch capacity busy buffer) := by
  simp only [scratch?, Option.bind_some]
  rcases heap.cell? h with _ | _ | _ | _ | _ <;> simp

/-! ## Scratch space -/

theorem mark_of_cell? (hc : heap.cell? h = some (.scratch capacity busy buffer)) (b : Bool) :
    heap.mark h b = heap.put h (.scratch capacity b buffer) := by
  rw [mark, hc]

theorem grow_of_cell? (hc : heap.cell? h = some (.scratch capacity busy buffer)) (n : Nat) :
    heap.grow h n = heap.put h (.scratch (max capacity n) busy buffer) := by
  rw [grow, hc]

theorem setBuffer_of_cell? (hc : heap.cell? h = some (.scratch capacity busy buffer))
    (events : List Event) :
    heap.setBuffer h events = heap.put h (.scratch capacity busy events) := by
  rw [setBuffer, hc]

theorem buffer_of_cell? (hc : heap.cell? h = some (.scratch capacity busy buffer)) :
    heap.buffer h = buffer := by
  rw [Heap.buffer, hc]

/-! ## Putting twice -/

theorem put_put (heap : Heap) (h : Handle) (c c' : Cell) :
    (heap.put h c).put h c' = heap.put h c' := by
  simp [put]

/-- Putting back what is there changes nothing. -/
theorem put_self {c : Cell} (hc : heap.cell? h = some c) : heap.put h c = heap := by
  have hlt := lt_of_cell? hc
  rw [cell?, Array.getElem?_eq_getElem hlt, Option.join_some] at hc
  rw [put, Array.setIfInBounds, dif_pos hlt, ← hc, Array.set_getElem_self]

theorem cell?_put_self {c : Cell} (hc : heap.cell? h = some c) (c' : Cell) :
    (heap.put h c').cell? h = some c' := by
  rw [cell?_put (lt_of_cell? hc), if_pos rfl]

@[simp] theorem size_put (heap : Heap) (h : Handle) (c : Cell) :
    (heap.put h c).cells.size = heap.cells.size := by
  simp [put]

@[simp] theorem size_take (heap : Heap) (h : Handle) :
    (heap.take h).cells.size = heap.cells.size := by
  simp [take]

@[simp] theorem size_give (heap : Heap) (c : Cell) :
    (heap.give c).2.cells.size = heap.cells.size + 1 := by
  simp [give]

/-! ## What is given out -/

theorem database?_give_self (heap : Heap) (patterns : List Compiled) :
    (heap.give (.database patterns)).2.database? (some heap.cells.size) = some patterns := by
  rw [database?_some, cell?_give, if_pos rfl]

/-- What is given out leaves the databases that there are. -/
theorem database?_give {patterns : List Compiled} (hd : heap.database? (some h) = some patterns)
    (c : Cell) : (heap.give c).2.database? (some h) = some patterns := by
  rw [database?_some] at hd ⊢
  rwa [cell?_give, if_neg (Nat.ne_of_lt (lt_of_cell? hd))]

theorem scratch?_give_self (heap : Heap) (capacity : Nat) (busy : Bool) (buffer : List Event) :
    (heap.give (.scratch capacity busy buffer)).2.scratch? (some heap.cells.size) =
      some (capacity, busy) := by
  rw [scratch?_some]
  exact ⟨buffer, by rw [cell?_give, if_pos rfl]⟩

end Heap

end Multiscan.Builtin
