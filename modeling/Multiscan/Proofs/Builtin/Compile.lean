import Mathlib.Data.List.Perm.Basic
import Multiscan.Builtin.Compile
import Multiscan.Proofs.Builtin.Heap
/-!
# Built-in engine — a batch compiles pattern by pattern

Every pattern of a batch is compiled on its own, with its own flags and its
own id, and the patterns of the database stand in the order of the batch.
What a reply gives out is a new cell.
-/

namespace Multiscan.Builtin

open Engine

variable {setup : Setup} {batch : List Source} {patterns : List Compiled}

/-- A pattern of a batch compiles into a pattern of a database. -/
def Source.Compiles (setup : Setup) (s : Source) (p : Compiled) : Prop :=
  compileOne setup s.pattern s.flags s.id = .ok p

/-- **A batch compiles if its patterns do**, one by one. -/
theorem compileAll_iff (i : Nat) :
    compileAll setup i batch = .ok patterns ↔
      List.Forall₂ (Source.Compiles setup) batch patterns := by
  induction batch generalizing i patterns with
  | nil =>
    rw [compileAll, List.forall₂_nil_left_iff]
    exact ⟨fun h => (Except.ok.inj h).symm, fun h => h ▸ rfl⟩
  | cons s rest ih =>
    rw [compileAll, List.forall₂_cons_left_iff]
    rcases hs : compileOne setup s.pattern s.flags s.id with message | p
    · constructor
      · intro h
        exact nomatch h
      · rintro ⟨p, -, hp, -, -⟩
        exact nomatch hs.symm.trans hp
    · constructor
      · intro h
        rcases hrest : compileAll setup (i + 1) rest with e | ps
        · exact nomatch hrest ▸ h
        · rw [hrest] at h
          exact ⟨p, ps, hs, (ih (i + 1)).1 hrest, (Except.ok.inj h).symm⟩
      · rintro ⟨p', ps, hp', hps, rfl⟩
        obtain rfl := Except.ok.inj (hs.symm.trans hp')
        rw [(ih (i + 1)).2 hps]
        rfl

/-- The id of a pattern is carried along. -/
theorem Source.Compiles.id {s : Source} {p : Compiled} (h : s.Compiles setup p) : p.id = s.id := by
  simp only [Compiles, compileOne, bind, Except.bind] at h
  split at h
  · exact nomatch h
  · split at h
    · exact nomatch h
    · split at h
      · exact nomatch h
      · obtain rfl := Except.ok.inj h
        rfl

/-- A batch in another order compiles into the patterns in another order. -/
theorem compileAll_perm {batch' : List Source} (h : batch'.Perm batch)
    (hbatch : compileAll setup 0 batch = .ok patterns) :
    ∃ patterns', compileAll setup 0 batch' = .ok patterns' ∧ patterns'.Perm patterns := by
  obtain ⟨patterns', hforall, hperm⟩ :=
    List.perm_comp_forall₂ h ((compileAll_iff 0).1 hbatch)
  exact ⟨patterns', (compileAll_iff 0).2 hforall, hperm⟩

/-- The patterns of one id are compiled from those of that id. -/
theorem compileAll_filter (hbatch : compileAll setup 0 batch = .ok patterns) (id : UInt32) :
    compileAll setup 0 (batch.filter (·.id == id)) = .ok (patterns.filter (·.id == id)) := by
  -- A pattern has the id of its source, so both filters keep the same places.
  rw [compileAll_iff] at hbatch ⊢
  induction hbatch with
  | nil => exact .nil
  | @cons s p rest ps hs hrest ih =>
    rw [List.filter_cons, List.filter_cons, hs.id]
    split
    · exact .cons hs ih
    · exact ih

/-- A handle stands for the database that a batch compiles into. -/
def Stored (setup : Setup) (batch : List Source) (heap : Heap) (d : Handle) : Prop :=
  ∃ patterns, compileAll setup 0 batch = .ok patterns ∧ heap.database? (some d) = some patterns

/-- A database that was just given out is stored. -/
theorem stored_give (heap : Heap) (h : compileAll setup 0 batch = .ok patterns) :
    Stored setup batch (heap.give (.database patterns)).2 heap.cells.size := by
  refine ⟨patterns, h, (Heap.database?_some patterns).2 ?_⟩
  rw [Heap.cell?_give, if_pos rfl]

/-! ## Replies -/

/-- **A batch is refused with a record, or it becomes a database.** -/
theorem compileBatch_cases (setup : Setup) (batch : List Source) (mode : UInt32)
    (heap : Heap) :
    (∃ message index, compileBatch setup batch mode heap =
      (⟨Code.compilerError, none, some ⟨heap.cells.size, some message, index⟩⟩,
        (heap.give (.record (some message) index)).2)) ∨
    batch ≠ [] ∧ ∃ patterns, compileAll setup 0 batch = .ok patterns ∧
      compileBatch setup batch mode heap =
        (⟨Code.success, some heap.cells.size, none⟩, (heap.give (.database patterns)).2) := by
  rw [compileBatch]
  split
  · exact .inl ⟨_, _, rfl⟩
  · next hempty =>
    split
    · exact .inl ⟨_, _, rfl⟩
    · rcases compileAll setup 0 batch with ⟨i, message⟩ | patterns
      · exact .inl ⟨message, recordIndex i, rfl⟩
      · exact .inr ⟨by simpa using hempty, patterns, rfl, rfl⟩

/-- Facts about an expression are refused with a record, or told. -/
theorem answerInfo_cases (pattern : Option Text.Bytes) (flags : UInt32) (heap : Heap) :
    (∃ message, answerInfo pattern flags heap =
      (⟨Code.compilerError, none, some ⟨heap.cells.size, some message, 0⟩⟩,
        (heap.give (.record (some message) 0)).2)) ∨
    ∃ raw, answerInfo pattern flags heap =
      (⟨Code.success, some (heap.cells.size, raw), none⟩, (heap.give (.info raw)).2) := by
  rw [answerInfo]
  rcases analyze pattern flags with message | raw
  · exact .inl ⟨message, rfl⟩
  · exact .inr ⟨raw, rfl⟩

end Multiscan.Builtin
