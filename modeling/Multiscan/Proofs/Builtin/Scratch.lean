import Multiscan.Builtin.Scratch
import Multiscan.Proofs.Builtin.Heap
/-!
# Built-in engine — what calls on databases and scratch space do

Each call, run in a heap: what it replies and what has become of the heap.
-/

namespace Multiscan.Builtin

open Engine

variable {heap : Heap} {d h : Handle} {builder : Builder}

theorem allocScratch_apply (d scratch : Option Handle) :
    allocScratch d scratch heap =
      match heap.database? d with
      | none => (⟨Code.invalid, scratch⟩, heap)
      | some patterns =>
        match scratch with
        | none => (⟨Code.success, some heap.cells.size⟩,
            (heap.give (.scratch patterns.length false [])).2)
        | some h =>
          match heap.scratch? (some h) with
          | none => (⟨Code.invalid, scratch⟩, heap)
          | some (_, true) => (⟨Code.scratchInUse, scratch⟩, heap)
          | some (_, false) => (⟨Code.success, scratch⟩, heap.grow h patterns.length) := by
  rcases hd : heap.database? d with _ | patterns
  · simp [allocScratch, hd]
  rcases scratch with _ | h
  · simp [allocScratch, hd]
    rfl
  rcases hs : heap.scratch? (some h) with _ | ⟨capacity, _ | _⟩ <;> simp [allocScratch, hd, hs]

/-- **Scratch space stays the same when it is asked to grow**, whether it does or
not. -/
theorem scratch_allocScratch (d : Option Handle) (k : Handle) (heap : Heap) :
    (allocScratch d (some k) heap).1.scratch = some k := by
  rw [allocScratch_apply]
  rcases heap.database? d with _ | patterns
  · rfl
  dsimp only
  rcases heap.scratch? (some k) with _ | ⟨capacity, _ | _⟩ <;> rfl

theorem allocScratch_new {patterns : List Compiled} (hd : heap.database? d = some patterns) :
    allocScratch d none heap = (⟨Code.success, some heap.cells.size⟩,
      (heap.give (.scratch patterns.length false [])).2) := by
  rw [allocScratch_apply, hd]

/-- **Idle scratch space can always be had**, new or grown, with room for all
patterns. -/
theorem allocScratch_of_idle {patterns : List Compiled} {scratch : Option Handle}
    (hd : heap.database? (some d) = some patterns)
    (hidle : ∀ k ∈ scratch, ∃ capacity, heap.scratch? (some k) = some (capacity, false)) :
    ∃ k heap', allocScratch (some d) scratch heap = (⟨Code.success, some k⟩, heap') ∧
      ∃ capacity, heap'.scratch? (some k) = some (capacity, false) ∧
        patterns.length ≤ capacity := by
  rw [allocScratch_apply, hd]
  rcases scratch with _ | k
  · exact ⟨_, _, rfl, patterns.length, Heap.scratch?_give_self _ _ _ _, Nat.le_refl _⟩
  · obtain ⟨capacity, hcapacity⟩ := hidle k rfl
    obtain ⟨buffer, hc⟩ := Heap.scratch?_some.1 hcapacity
    simp only [hcapacity, Heap.grow_of_cell? hc]
    exact ⟨_, _, rfl, _, Heap.scratch?_some.2 ⟨buffer, Heap.cell?_put_self hc _⟩,
      Nat.le_max_right _ _⟩

theorem freeDatabase_apply :
    freeDatabase (some d) heap =
      match heap.database? (some d) with
      | none => (Code.invalid, heap)
      | some _ => (Code.success, heap.take d) := by
  rcases hd : heap.database? (some d) with _ | patterns <;> simp [freeDatabase, hd]

theorem freeScratch_apply :
    freeScratch (some h) heap =
      match heap.scratch? (some h) with
      | none => (Code.invalid, heap)
      | some (_, true) => (Code.scratchInUse, heap)
      | some (_, false) => (Code.success, heap.take h) := by
  rcases hs : heap.scratch? (some h) with _ | ⟨capacity, _ | _⟩ <;> simp [freeScratch, hs]

theorem databaseSize_apply :
    databaseSize builder (some d) heap =
      (match heap.database? (some d) with
        | some patterns => ⟨Code.success, databaseShare builder patterns⟩
        | none => ⟨Code.invalid, 0⟩, heap) := by
  rcases hd : heap.database? (some d) with _ | patterns <;> simp [databaseSize, hd]

theorem measure_apply (size : Nat → Nat) :
    measure size (some h) heap =
      (match heap.scratch? (some h) with
        | some (capacity, _) => ⟨Code.success, size capacity⟩
        | none => ⟨Code.invalid, 0⟩, heap) := by
  rcases hs : heap.scratch? (some h) with _ | ⟨capacity, busy⟩ <;> simp [measure, hs]

end Multiscan.Builtin
