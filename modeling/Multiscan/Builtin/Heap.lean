import Multiscan.Engine.Basic
import Multiscan.Regex.Basic
/-!
# Built-in engine — what it has given out

The built-in engine keeps everything it gives out in a heap of cells. A
handle is the position of a cell. Cells that were taken back stay behind
empty, so no handle ever comes to stand for something else. A handle of the
wrong kind is found out by looking at its cell.
-/

namespace Multiscan.Builtin

/-- One pattern of a database. `whole` says that matches of nothing must
not lie inside characters, `single` that only the first match counts. -/
structure Compiled where
  id : UInt32
  single : Bool
  whole : Bool
  regex : Regex

/-- What a handle can stand for. -/
inductive Cell
  /-- A database. -/
  | database (patterns : List Compiled)
  /-- Scratch space for so many patterns; `busy` while a scan uses it. What the
  last scan put into its buffer stays there until the next one begins. -/
  | scratch (capacity : Nat) (busy : Bool) (buffer : List Engine.Event)
  /-- A record of an error. -/
  | record (message : Option String) (index : Int)
  /-- The facts about an expression. -/
  | info (raw : Engine.RawInfo)

/-- The cells so far, those taken back being empty. -/
structure Heap where
  cells : Array (Option Cell)

namespace Heap

/-- The heap before anything was given out. -/
def empty : Heap := ⟨#[]⟩

/-- What a handle stands for. -/
def cell? (heap : Heap) (h : Handle) : Option Cell := heap.cells[h]?.join

/-- A new cell and its handle. -/
def give (heap : Heap) (c : Cell) : Handle × Heap :=
  (heap.cells.size, ⟨heap.cells.push (some c)⟩)

/-- The heap with another cell behind a handle. -/
def put (heap : Heap) (h : Handle) (c : Cell) : Heap :=
  ⟨heap.cells.setIfInBounds h (some c)⟩

/-- The heap with nothing behind a handle. -/
def take (heap : Heap) (h : Handle) : Heap := ⟨heap.cells.setIfInBounds h none⟩

/-! What a handle stands for after each operation. -/

/-- Only handles that were given out stand for something. -/
theorem lt_of_cell? {heap : Heap} {h : Handle} {c : Cell} (hc : heap.cell? h = some c) :
    h < heap.cells.size := by
  by_cases hh : h < heap.cells.size
  · exact hh
  · simp [cell?, Array.getElem?_eq_none (Nat.le_of_not_lt hh)] at hc

@[simp] theorem cell?_empty (h : Handle) : empty.cell? h = none := by simp [cell?, empty]

theorem cell?_give (heap : Heap) (c : Cell) (h : Handle) :
    (heap.give c).2.cell? h = if h = heap.cells.size then some c else heap.cell? h := by
  simp only [cell?, give, Array.getElem?_push]
  by_cases hh : h = heap.cells.size
  · rw [if_pos hh, if_pos hh]
    rfl
  · rw [if_neg hh, if_neg hh]

theorem cell?_put {heap : Heap} {h : Handle} (hh : h < heap.cells.size) (c : Cell) (k : Handle) :
    (heap.put h c).cell? k = if k = h then some c else heap.cell? k := by
  simp only [cell?, put, Array.getElem?_setIfInBounds]
  by_cases hk : k = h
  · simp [hk, hh]
  · simp [hk, Ne.symm hk]

theorem cell?_take (heap : Heap) (h k : Handle) :
    (heap.take h).cell? k = if k = h then none else heap.cell? k := by
  simp only [cell?, take, Array.getElem?_setIfInBounds]
  by_cases hk : k = h
  · subst hk
    by_cases hh : k < heap.cells.size <;> simp [hh]
  · simp [hk, Ne.symm hk]

/-- The patterns of the database that a handle stands for. -/
def database? (heap : Heap) (h : Option Handle) : Option (List Compiled) :=
  match h.bind heap.cell? with
  | some (.database patterns) => some patterns
  | _ => none

/-- The capacity of the scratch space that a handle stands for, and whether
it is in use. -/
def scratch? (heap : Heap) (h : Option Handle) : Option (Nat × Bool) :=
  match h.bind heap.cell? with
  | some (.scratch capacity busy _) => some (capacity, busy)
  | _ => none

/-- What is in the buffer of the scratch space that a handle stands for. -/
def buffer (heap : Heap) (h : Handle) : List Engine.Event :=
  match heap.cell? h with
  | some (.scratch _ _ buffer) => buffer
  | _ => []

/-- The heap with scratch space marked as in use, or as free. -/
def mark (heap : Heap) (h : Handle) (busy : Bool) : Heap :=
  match heap.cell? h with
  | some (.scratch capacity _ buffer) => heap.put h (.scratch capacity busy buffer)
  | _ => heap

/-- The heap with room for so many patterns at least in scratch space. -/
def grow (heap : Heap) (h : Handle) (needed : Nat) : Heap :=
  match heap.cell? h with
  | some (.scratch capacity busy buffer) => heap.put h (.scratch (max capacity needed) busy buffer)
  | _ => heap

/-- The heap with other matches in the buffer of scratch space. -/
def setBuffer (heap : Heap) (h : Handle) (events : List Engine.Event) : Heap :=
  match heap.cell? h with
  | some (.scratch capacity busy _) => heap.put h (.scratch capacity busy events)
  | _ => heap

end Heap

/-- A call of the built-in engine. -/
abbrev Call (α : Type) := StateM Heap α

/-- Give out a new cell. -/
def give (c : Cell) : Call Handle := fun heap => heap.give c

end Multiscan.Builtin
