import Mathlib.Algebra.Order.Group.Multiset
import Multiscan.Proofs.Builtin.Compile
import Multiscan.Proofs.Builtin.Scan
import Multiscan.Proofs.Builtin.Scratch
import Multiscan.Proofs.Custody.Operations
/-!
# Built-in engine — the custody of cells

What the built-in engine has given out is known by its cells, and of each cell
as much is known as is needed: of a database the jobs that it was compiled from,
of scratch space that it is idle, or how much room it has exactly. A request
changes the cells that it names, puts new ones behind all others, and leaves
everything else (`hold`). So what is known of other cells stays known.
-/

namespace Multiscan.Builtin

open Engine

/-- What is known about the cell of a handle. -/
structure Slot where
  handle : Handle
  fits : Cell → Prop

namespace Slot

/-- A database of jobs. -/
def database (setup : Setup) (h : Handle) (jobs : List Job) : Slot where
  handle := h
  fits c := jobs ≠ [] ∧
    ∃ patterns, compileAll setup 0 (jobs.map sourceOf) = .ok patterns ∧ c = .database patterns

/-- Idle scratch space for exactly so many patterns. -/
def room (n : Nat) (h : Handle) : Slot := ⟨h, fun c => ∃ buffer, c = .scratch n false buffer⟩

/-- Idle scratch space. -/
def scratch (h : Handle) : Slot := ⟨h, fun c => ∃ n buffer, c = .scratch n false buffer⟩

/-- Anything. -/
def other (h : Handle) : Slot := ⟨h, fun _ => True⟩

end Slot

/-- **Every slot has a cell of its own** that is as it is known to be. -/
structure Filled (H : Multiset Slot) (heap : Heap) : Prop where
  distinct : (H.map Slot.handle).Nodup
  fits : ∀ x ∈ H, ∃ c, heap.cell? x.handle = some c ∧ x.fits c

variable {setup : Setup} {heap : Heap} {H K R : Multiset Slot} {x y : Slot} {c : Cell}

namespace Filled

theorem nil (heap : Heap) : Filled 0 heap := ⟨Multiset.nodup_zero, nofun⟩

/-- Slots can be forgotten. -/
theorem forget (h : Filled (K + R) heap) : Filled R heap where
  distinct := (Multiset.nodup_add.1 (Multiset.map_add _ K R ▸ h.distinct)).2.1
  fits x hx := h.fits x (Multiset.mem_add.2 (.inr hx))

/-- The other slots have other handles. -/
theorem handle_ne (h : Filled (x ::ₘ R) heap) (hy : y ∈ R) : y.handle ≠ x.handle := by
  have hdistinct := h.distinct
  rw [Multiset.map_cons, Multiset.nodup_cons] at hdistinct
  intro heq
  exact hdistinct.1 (heq ▸ Multiset.mem_map_of_mem _ hy)

/-! ## Changes of the heap -/

/-- A new cell is a new slot. -/
theorem give (h : Filled R heap) (hx : x.handle = heap.cells.size) (hc : x.fits c) :
    Filled (x ::ₘ R) (heap.give c).2 where
  distinct := by
    rw [Multiset.map_cons, Multiset.nodup_cons]
    refine ⟨?_, h.distinct⟩
    intro hmem
    obtain ⟨y, hy, heq⟩ := Multiset.mem_map.1 hmem
    -- The cells that there are stand before the end of the heap.
    obtain ⟨c', hc', -⟩ := h.fits y hy
    exact absurd (heq.trans hx) (Nat.ne_of_lt (Heap.lt_of_cell? hc'))
  fits y hy := by
    rcases Multiset.mem_cons.1 hy with rfl | hy
    · exact ⟨c, by rw [Heap.cell?_give, if_pos hx], hc⟩
    · obtain ⟨c', hc', hfits⟩ := h.fits y hy
      refine ⟨c', ?_, hfits⟩
      rw [Heap.cell?_give, if_neg (Nat.ne_of_lt (Heap.lt_of_cell? hc')), hc']

/-- A cell is taken back. -/
theorem take (h : Filled (x ::ₘ R) heap) : Filled R (heap.take x.handle) where
  distinct := (h.forget (K := {x})).distinct
  fits y hy := by
    obtain ⟨c', hc', hfits⟩ := h.fits y (Multiset.mem_cons_of_mem hy)
    exact ⟨c', by rw [Heap.cell?_take, if_neg (h.handle_ne hy), hc'], hfits⟩

/-- Another cell is put behind a handle. -/
theorem put (h : Filled (x ::ₘ R) heap) (hy : y.handle = x.handle) (hc : y.fits c) :
    Filled (y ::ₘ R) (heap.put x.handle c) where
  distinct := by
    have hdistinct := h.distinct
    rw [Multiset.map_cons] at hdistinct ⊢
    rwa [hy]
  fits z hz := by
    obtain ⟨c₀, hc₀, -⟩ := h.fits x (Multiset.mem_cons_self _ _)
    rcases Multiset.mem_cons.1 hz with rfl | hz
    · exact ⟨c, by rw [hy, Heap.cell?_put_self hc₀], hc⟩
    · obtain ⟨c', hc', hfits⟩ := h.fits z (Multiset.mem_cons_of_mem hz)
      refine ⟨c', ?_, hfits⟩
      rw [Heap.cell?_put (Heap.lt_of_cell? hc₀), if_neg (h.handle_ne hz), hc']

/-- Less may be known about a cell. -/
theorem relax (h : Filled (x ::ₘ R) heap) (hy : y.handle = x.handle)
    (hfits : ∀ c, x.fits c → y.fits c) : Filled (y ::ₘ R) heap := by
  obtain ⟨c, hc, hx⟩ := h.fits x (Multiset.mem_cons_self _ _)
  have hput := h.put hy (hfits c hx)
  rwa [Heap.put_self hc] at hput

/-! ## What is known -/

/-- A database has as many patterns as there were jobs. -/
theorem database {d : Handle} {jobs : List Job} (h : Filled H heap)
    (hd : Slot.database setup d jobs ∈ H) : jobs ≠ [] ∧ ∃ patterns,
      compileAll setup 0 (jobs.map sourceOf) = .ok patterns ∧
        heap.database? (some d) = some patterns ∧ patterns.length = jobs.length := by
  obtain ⟨c, hc, hjobs, patterns, hpatterns, rfl⟩ := h.fits _ hd
  refine ⟨hjobs, patterns, hpatterns, (Heap.database?_some patterns).2 hc, ?_⟩
  have hlength := ((compileAll_iff 0).1 hpatterns).length_eq
  rw [← hlength, List.length_map]

theorem room {n : Nat} {k : Handle} (h : Filled H heap) (hk : Slot.room n k ∈ H) :
    heap.scratch? (some k) = some (n, false) := by
  obtain ⟨c, hc, buffer, rfl⟩ := h.fits _ hk
  exact Heap.scratch?_some.2 ⟨buffer, hc⟩

/-- Scratch space has some room. -/
theorem exists_room {k : Handle} (h : Filled (Slot.scratch k ::ₘ R) heap) :
    ∃ n, Filled (Slot.room n k ::ₘ R) heap := by
  obtain ⟨c, hc, n, buffer, rfl⟩ := h.fits _ (Multiset.mem_cons_self _ _)
  have hput := h.put (y := Slot.room n k) rfl ⟨buffer, rfl⟩
  rw [Heap.put_self hc] at hput
  exact ⟨n, hput⟩

/-- How much room it has may be forgotten. -/
theorem forget_room {n : Nat} {k : Handle} (h : Filled (Slot.room n k ::ₘ R) heap) :
    Filled (Slot.scratch k ::ₘ R) heap := by
  refine h.relax rfl ?_
  rintro c ⟨buffer, rfl⟩
  exact ⟨n, buffer, rfl⟩

/-! ## Scratch space -/

/-- **New scratch space** has room for the patterns of the database. -/
theorem alloc_new {d : Handle} {jobs : List Job} (h : Filled R heap)
    (hd : Slot.database setup d jobs ∈ R) :
    (allocScratch (some d) none heap).1 = ⟨Code.success, some heap.cells.size⟩ ∧
      Filled (Slot.room jobs.length heap.cells.size ::ₘ R) (allocScratch (some d) none heap).2 := by
  obtain ⟨-, patterns, -, hpatterns, hlength⟩ := h.database hd
  rw [allocScratch_apply, hpatterns, ← hlength]
  exact ⟨rfl, h.give rfl ⟨[], rfl⟩⟩

/-- **Scratch space grows** as far as a larger database asks for. -/
theorem alloc_more {d k : Handle} {jobs : List Job} {n : Nat}
    (h : Filled (Slot.room n k ::ₘ R) heap) (hd : Slot.database setup d jobs ∈ R) :
    (allocScratch (some d) (some k) heap).1 = ⟨Code.success, some k⟩ ∧
      Filled (Slot.room (max n jobs.length) k ::ₘ R) (allocScratch (some d) (some k) heap).2 := by
  obtain ⟨-, patterns, -, hpatterns, hlength⟩ := h.database (Multiset.mem_cons_of_mem hd)
  have hroom := h.room (Multiset.mem_cons_self _ _)
  obtain ⟨buffer, hc⟩ := Heap.scratch?_some.1 hroom
  rw [allocScratch_apply, hpatterns]
  simp only [hroom, Heap.grow_of_cell? hc, hlength]
  exact ⟨trivial, h.put rfl ⟨buffer, rfl⟩⟩

/-- **A scan** does not change the room that there is. -/
theorem scan {k : Handle} {n : Nat} (h : Filled (Slot.room n k ::ₘ R) heap) (d : Handle)
    (data : Text.Bytes) : Filled (Slot.room n k ::ₘ R) (collectScan d k data heap).2 := by
  rw [collectScan_apply, h.room (Multiset.mem_cons_self _ _)]
  rcases heap.database? (some d) with _ | patterns
  · exact h
  dsimp only
  split
  · exact h
  · rw [if_neg Bool.false_ne_true]
    exact h.put rfl ⟨_, rfl⟩

end Filled

/-! ## The custody -/

/-- A request, by what it does in the heap. -/
theorem ask_filled {r : Request} {H' : Reply r → Multiset Slot}
    (h : ∀ heap, Filled H heap → Filled (H' (answer setup r heap).1) (answer setup r heap).2) :
    Step.Ensures (fun w => Filled H w.engine) (World.ask (engine setup) r)
      fun reply w => Filled (H' reply) w.engine :=
  fun w hw => h w.engine hw

/-- A question for the size of scratch space changes nothing. -/
theorem ask_measure {P : World Heap → Prop} (k : Handle) :
    Step.Ensures P (World.ask (engine setup) (.scratchSize k)) (fun _ => P) ∧
      Step.Ensures P (World.ask (engine setup) (.baseScratchSize k)) fun _ => P := by
  have hheap : ∀ (size : Nat → Nat) (heap : Heap), (measure size (some k) heap).2 = heap :=
    fun size heap => by rw [measure_apply]
  constructor <;> intro w hw
  · exact (congrArg (fun heap => P { w with engine := heap }) (hheap wholeShare w.engine)).mpr hw
  · exact (congrArg (fun heap => P { w with engine := heap }) (hheap baseShare w.engine)).mpr hw

theorem filled_compile (h : Filled R heap) (jobs : List Job) (mode : UInt32) :
    Filled (↑((answer setup (.compile jobs mode) heap).1.leaves (Slot.database setup · jobs)
      Slot.other) + R) (answer setup (.compile jobs mode) heap).2 := by
  rw [answer]
  rcases compileBatch_cases setup (jobs.map sourceOf) mode heap with
    ⟨message, index, hdone⟩ | ⟨hjobs, patterns, hpatterns, hdone⟩ <;> rw [hdone]
  · exact h.give (x := Slot.other _) rfl trivial
  · refine h.give (x := Slot.database setup _ jobs) rfl ⟨?_, patterns, hpatterns, rfl⟩
    simpa using hjobs

theorem filled_info (h : Filled R heap) (pattern : Text.Bytes) (flags : UInt32) :
    Filled (↑((answer setup (.info pattern flags) heap).1.leaves Slot.other Slot.other) + R)
      (answer setup (.info pattern flags) heap).2 := by
  rw [answer]
  rcases answerInfo_cases (some pattern) flags heap with ⟨message, hdone⟩ | ⟨raw, hdone⟩ <;>
    rw [hdone] <;> exact h.give (x := Slot.other _) rfl trivial

theorem filled_alloc {d : Handle} {jobs : List Job} {s : Option Handle}
    (hd : Slot.database setup d jobs ∈ R) (h : Filled (↑(s.toList.map Slot.scratch) + R) heap) :
    Filled (↑(((answer setup (.allocScratch d s) heap).1.leaves s).toList.map Slot.scratch) + R)
      (answer setup (.allocScratch d s) heap).2 := by
  rw [answer]
  rcases s with _ | k
  · have hrest : Filled R heap := by simpa using h
    obtain ⟨hreply, hfilled⟩ := hrest.alloc_new hd
    rw [hreply]
    exact hfilled.forget_room
  · obtain ⟨n, hroom⟩ := Filled.exists_room h
    obtain ⟨hreply, hfilled⟩ := hroom.alloc_more hd
    rw [hreply]
    exact hfilled.forget_room

theorem filled_freeDatabase {d : Handle} {jobs : List Job}
    (h : Filled (Slot.database setup d jobs ::ₘ R) heap) :
    Filled R (freeDatabase (some d) heap).2 := by
  obtain ⟨-, patterns, -, hpatterns, -⟩ := h.database (Multiset.mem_cons_self _ _)
  rw [freeDatabase_apply, hpatterns]
  exact h.take

theorem filled_freeScratch {k : Handle} (h : Filled (Slot.scratch k ::ₘ R) heap) :
    Filled R (freeScratch (some k) heap).2 := by
  obtain ⟨n, hroom⟩ := h.exists_room
  rw [freeScratch_apply, hroom.room (Multiset.mem_cons_self _ _)]
  exact h.take

/-- **What is known about cells, as something held.** -/
def hold (setup : Setup) : Custody (engine setup) Slot where
  holds H w := Filled H w.engine
  database := Slot.database setup
  scratch := Slot.scratch
  record _ := Slot.other
  info := Slot.other
  note _ _ := fun _ h => h
  compile _ jobs mode := ask_filled fun _ h => filled_compile h jobs mode
  facts _ pattern flags := ask_filled fun _ h => filled_info h pattern flags
  alloc _ _ _ _ hd := ask_filled fun _ h => filled_alloc hd h
  freeDatabase _ _ _ := ask_filled fun _ h => filled_freeDatabase h
  freeScratch _ _ := ask_filled fun _ h => filled_freeScratch h
  freeError _ _ _ := ask_filled fun _ h => h.take
  freeInfo _ _ := ask_filled fun _ h => h.take
  databaseSize _ d _ _ := ask_filled fun heap h => by
    have hheap : (databaseSize setup.builder (some d) heap).2 = heap := by
      rw [databaseSize_apply]
    rwa [answer, hheap]
  scratchSize _ k _ := (ask_measure k).1
  baseScratchSize _ k _ := (ask_measure k).2
  scan _ d _ k data _ hk := ask_filled fun heap h => by
    -- Only the cell of the scratch space changes, and only its buffer.
    obtain ⟨R, rfl⟩ := Multiset.exists_cons_of_mem hk
    obtain ⟨n, hroom⟩ := h.exists_room
    exact (hroom.scan d data).forget_room

end Multiscan.Builtin
