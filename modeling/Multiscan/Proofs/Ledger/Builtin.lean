import Multiscan.Proofs.Builtin.Compile
import Multiscan.Proofs.Builtin.Scan
import Multiscan.Proofs.Builtin.Scratch
import Multiscan.Proofs.Ledger.Contract
/-!
# Ledger — the built-in engine honours the contract

Whatever the built-in engine hands out is a new cell at the end of its heap,
and the heap never gets shorter. So what was ever handed out stands before
the end of the heap, and nothing that is out is handed out again.
-/

namespace Multiscan.Builtin

open Engine

variable {setup : Setup}

/-- A reply in a heap is lawful, and what it hands out, if anything, is the
one cell by which it makes the heap longer. -/
structure Adds (heap : Heap) (x : Exchange) (heap' : Heap) : Prop where
  lawful : x.Lawful
  added : x.handsOut = [] ∧ heap'.cells.size = heap.cells.size ∨
    (∃ k, x.handsOut = [⟨k, heap.cells.size⟩]) ∧ heap'.cells.size = heap.cells.size + 1

/-! ## Replies -/

theorem adds_compile (jobs : List Job) (mode : UInt32) (heap : Heap) :
    Adds heap ⟨.compile jobs mode, (answer setup (.compile jobs mode) heap).1⟩
      (answer setup (.compile jobs mode) heap).2 := by
  rw [answer]
  rcases compileBatch_cases setup (jobs.map sourceOf) mode heap with ⟨message, index, h⟩ |
    ⟨-, patterns, -, h⟩ <;> rw [h]
  · exact ⟨rfl, .inr ⟨⟨.record .extended, rfl⟩, Heap.size_give heap _⟩⟩
  · exact ⟨rfl, .inr ⟨⟨.database, rfl⟩, Heap.size_give heap _⟩⟩

theorem adds_info (pattern : Text.Bytes) (flags : UInt32) (heap : Heap) :
    Adds heap ⟨.info pattern flags, (answer setup (.info pattern flags) heap).1⟩
      (answer setup (.info pattern flags) heap).2 := by
  rw [answer]
  rcases answerInfo_cases (some pattern) flags heap with ⟨message, h⟩ | ⟨raw, h⟩ <;> rw [h]
  · exact ⟨rfl, .inr ⟨⟨.record .base, rfl⟩, Heap.size_give heap _⟩⟩
  · exact ⟨rfl, .inr ⟨⟨.info, rfl⟩, Heap.size_give heap _⟩⟩

theorem adds_allocScratch (d : Handle) (scratch : Option Handle) (heap : Heap) :
    Adds heap ⟨.allocScratch d scratch, (answer setup (.allocScratch d scratch) heap).1⟩
      (answer setup (.allocScratch d scratch) heap).2 := by
  have hkeep : ∀ (code : Code) (heap' : Heap), heap'.cells.size = heap.cells.size →
      Adds heap ⟨.allocScratch d scratch, ⟨code, scratch⟩⟩ heap' :=
    fun code heap' hsize => ⟨fun _ => rfl, .inl ⟨if_pos rfl, hsize⟩⟩
  rw [answer, allocScratch_apply]
  rcases heap.database? (some d) with _ | patterns
  · exact hkeep _ _ rfl
  rcases scratch with _ | h
  · exact ⟨fun hcode => absurd rfl hcode, .inr ⟨⟨.scratch, rfl⟩, Heap.size_give heap _⟩⟩
  dsimp only
  rcases hs : heap.scratch? (some h) with _ | ⟨capacity, _ | _⟩
  · exact hkeep _ _ rfl
  · obtain ⟨buffer, hc⟩ := Heap.scratch?_some.1 hs
    exact hkeep _ _ (by rw [Heap.grow_of_cell? hc, Heap.size_put])
  · exact hkeep _ _ rfl

theorem adds_scan (d h : Handle) (data : Text.Bytes) (heap : Heap) :
    Adds heap ⟨.scan d h data, (answer setup (.scan d h data) heap).1⟩
      (answer setup (.scan d h data) heap).2 := by
  refine ⟨trivial, .inl ⟨rfl, ?_⟩⟩
  rw [answer, collectScan_apply]
  split
  · split
    · rfl
    · split
      · rfl
      · exact Heap.size_put _ _ _
  · rfl

/-- **Every reply of the built-in engine** is lawful, and what it hands out is
new. -/
theorem adds_answer (r : Request) (heap : Heap) :
    Adds heap ⟨r, (answer setup r heap).1⟩ (answer setup r heap).2 := by
  rcases r with ⟨jobs, mode⟩ | d | d | ⟨d, scratch⟩ | h | h | h | ⟨d, h, data⟩ | ⟨pattern, flags⟩ |
    i | ⟨v, e⟩
  case compile => exact adds_compile jobs mode heap
  case allocScratch => exact adds_allocScratch d scratch heap
  case scan => exact adds_scan d h data heap
  case info => exact adds_info pattern flags heap
  all_goals refine ⟨trivial, .inl ⟨rfl, ?_⟩⟩
  case freeDatabase =>
    rw [answer, freeDatabase_apply]
    rcases heap.database? (some d) with _ | patterns
    · rfl
    · exact Heap.size_take _ _
  case databaseSize => rw [answer, databaseSize_apply]
  case freeScratch =>
    rw [answer, freeScratch_apply]
    rcases heap.scratch? (some h) with _ | ⟨capacity, _ | _⟩
    · rfl
    · exact Heap.size_take _ _
    · rfl
  case scratchSize => rw [answer, scratchSize, measure_apply]
  case baseScratchSize => rw [answer, baseScratchSize, measure_apply]
  case freeInfo => exact Heap.size_take _ _
  case freeError => exact Heap.size_take _ _

/-! ## The contract -/

/-- What was ever handed out stands in the heap or stood there. -/
theorem lt_size_of_handedOut {heap : Heap} {t : Transcript}
    (h : Reach (engine setup) .empty heap t) {i : Item} (hi : 0 < t.handedOut i) :
    i.handle < heap.cells.size := by
  induction h with
  | refl => exact absurd hi (Nat.lt_irrefl 0)
  | @ask heap t r h hr ih =>
    rw [Transcript.handedOut_concat] at hi
    obtain ⟨-, hadded⟩ : Adds heap ⟨r, ((engine setup).answer r heap).1⟩
      ((engine setup).answer r heap).2 := adds_answer r heap
    rcases hadded with ⟨hout, hsize⟩ | ⟨⟨k, hout⟩, hsize⟩ <;> rw [hout] at hi <;> rw [hsize]
    · exact ih hi
    · by_cases hnew : i = ⟨k, heap.cells.size⟩
      · rw [hnew]
        exact Nat.lt_succ_self _
      · rw [List.count_singleton, if_neg (by simpa using Ne.symm hnew)] at hi
        exact Nat.lt_succ_of_lt (ih hi)

/-- **The built-in engine honours the contract** from its start on, however
it is set up. -/
theorem honours (setup : Setup) : Honours (engine setup) .empty := by
  intro heap t r h hr
  obtain ⟨hlawful, hadded⟩ : Adds heap ⟨r, ((engine setup).answer r heap).1⟩
    ((engine setup).answer r heap).2 := adds_answer r heap
  refine ⟨hlawful, fun i hi hout => ?_⟩
  have hlt := lt_size_of_handedOut h (Nat.lt_of_le_of_lt (Nat.zero_le _) hout)
  rcases hadded with ⟨hnil, -⟩ | ⟨⟨k, hone⟩, -⟩
  · exact absurd (hnil ▸ hi) (List.not_mem_nil)
  · obtain rfl := List.mem_singleton.1 (hone ▸ hi)
    exact Nat.lt_irrefl _ hlt

end Multiscan.Builtin
