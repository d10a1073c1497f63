import Multiscan.Proofs.Builtin.Scan
import Multiscan.Proofs.Builtin.Scratch
import Multiscan.Proofs.Custody.Operations
import Multiscan.Proofs.Session.Pieces
import Multiscan.Proofs.Session.Probe
/-!
# Session — the custody of the pieces

The probe keeps every piece in its place, whatever the script makes of its
answers: what it gives out is a new piece, what it takes back is one piece
less, and nothing else moves. This makes the pieces a `Custody`, so every
operation of the library keeps them too.
-/

namespace Multiscan.Session

open Engine Builtin

variable {setup : Setup} {floor : Handle → Nat} {script : Script} {H R : Multiset Piece} {p : Probe}

/-! ## Requests that give something out -/

/-- A scripted refusal makes a new record, if it makes anything. -/
theorem sound_refuse (h : Sound setup floor R p.heap) (r : Refusal) :
    Sound setup floor (↑((Probe.refuse r p).1.2.toList.map fun e => Piece.other e.handle) + R)
      (Probe.refuse r p).2.heap := by
  rcases r with ⟨code, _ | ⟨message, index⟩⟩ <;> rw [Probe.refuse_apply]
  · simpa using h
  · exact h.give (x := .other _) _ rfl (by simp [Piece.Stands])

/-- After a batch there is a new database, or a record. -/
theorem sound_compile (h : Sound setup floor R p.heap) (jobs : List Job) (mode : UInt32) :
    Sound setup floor
      (↑((Probe.answer setup (.compile jobs mode) p).1.leaves (Piece.database · jobs)
        Piece.other) + R)
      (Probe.answer setup (.compile jobs mode) p).2.heap := by
  rcases hs : p.script.compile with _ | r
  · have hleaves : p.script.LeavesAlone (.compile jobs mode) := hs
    obtain ⟨hreply, hheap, -⟩ := Probe.answer_of_leavesAlone setup hleaves
    rw [hreply, hheap, Builtin.answer]
    rcases compileBatch_cases setup (jobs.map sourceOf) mode p.heap with
      ⟨message, index, hdone⟩ | ⟨hjobs, patterns, hpatterns, hdone⟩ <;> rw [hdone]
    · exact h.give (x := .other _) _ rfl (by simp [Piece.Stands])
    · refine h.give (x := .database _ jobs) _ rfl ⟨?_, stored_give p.heap hpatterns⟩
      simpa using hjobs
  · have hrefuse := sound_refuse h r
    have hreply : Probe.answer setup (.compile jobs mode) p =
        (⟨(Probe.refuse r p).1.1, none, (Probe.refuse r p).1.2⟩, (Probe.refuse r p).2) := by
      simp [Probe.answer, Probe.compile, hs]
    -- A refusal with the code of success leaves a record that nobody holds.
    rw [hreply, CompileReply.leaves]
    split
    · simpa using hrefuse.forget
    · exact hrefuse

/-- After a question about an expression there are facts, or a record. -/
theorem sound_info (h : Sound setup floor R p.heap) (pattern : Text.Bytes) (flags : UInt32) :
    Sound setup floor
      (↑((Probe.answer setup (.info pattern flags) p).1.leaves Piece.other Piece.other) + R)
      (Probe.answer setup (.info pattern flags) p).2.heap := by
  rcases hs : p.script.info with _ | r | raw
  · have hleaves : p.script.LeavesAlone (.info pattern flags) := hs
    obtain ⟨hreply, hheap, -⟩ := Probe.answer_of_leavesAlone setup hleaves
    rw [hreply, hheap, Builtin.answer]
    rcases answerInfo_cases (some pattern) flags p.heap with ⟨message, hdone⟩ | ⟨raw, hdone⟩ <;>
      rw [hdone] <;> exact h.give (x := .other _) _ rfl (by simp [Piece.Stands])
  · have hrefuse := sound_refuse h r
    have hreply : Probe.answer setup (.info pattern flags) p =
        (⟨(Probe.refuse r p).1.1, none, (Probe.refuse r p).1.2⟩, (Probe.refuse r p).2) := by
      simp [Probe.answer, Probe.info, hs]
    rw [hreply, InfoReply.leaves]
    split
    · simpa using hrefuse.forget
    · exact hrefuse
  · have hreply : Probe.answer setup (.info pattern flags) p =
        (⟨Code.success, some (p.heap.cells.size, raw), none⟩,
          ⟨(p.heap.give (.info raw)).2, p.script,
            { p.tallies with infos := p.tallies.infos.give }⟩) := by
      simp [Probe.answer, Probe.info, hs, Probe.countInfo, Builtin.give]
      rfl
    rw [hreply]
    exact h.give (x := .other _) _ rfl (by simp [Piece.Stands])

/-- **Scratch space is new, or it is what there was** and has not got smaller. -/
theorem sound_alloc {s : Option Handle} {d : Handle} {jobs : List Job}
    (hd : Piece.database d jobs ∈ R)
    (h : Sound setup floor (↑(s.toList.map Piece.scratch) + R) p.heap) :
    Sound setup floor
      (↑(((Probe.answer setup (.allocScratch d s) p).1.leaves s).toList.map Piece.scratch) + R)
      (Probe.answer setup (.allocScratch d s) p).2.heap := by
  rcases hs : p.script.alloc with _ | code
  · have hleaves : p.script.LeavesAlone (.allocScratch d s) := hs
    obtain ⟨hreply, hheap, -⟩ := Probe.answer_of_leavesAlone setup hleaves
    obtain ⟨-, patterns, -, hpatterns⟩ := h.stands _ (Multiset.mem_add.2 (.inr hd))
    rw [hreply, hheap, Builtin.answer, allocScratch_apply, hpatterns]
    rcases s with _ | k
    · -- No room is required behind the end of the heap, where the new one stands.
      have hrest : Sound setup floor R p.heap := by simpa using h
      refine hrest.give (x := .scratch p.heap.cells.size) _ rfl
        ⟨patterns.length, Heap.scratch?_give_self _ _ _ _, ?_⟩
      rw [h.floor_eq_zero _ (Nat.le_refl _)]
      exact Nat.zero_le _
    · obtain ⟨capacity, hcapacity, -⟩ := h.stands (.scratch k) (by simp)
      obtain ⟨buffer, hc⟩ := Heap.scratch?_some.1 hcapacity
      -- It is idle, as every piece is, so it does grow.
      simp only [hcapacity, Heap.grow_of_cell? hc]
      exact h.put hc (Nat.le_max_left _ _)
  · rw [Probe.answer_alloc_of_script hs, ScratchReply.leaves, Option.or_self, ite_self]
    exact h

/-! ## Requests that use something -/

/-- A scan leaves other matches in the buffer of scratch space. -/
theorem sound_scan (h : Sound setup floor H p.heap) (d s : Handle) (data : Text.Bytes) :
    Sound setup floor H (Probe.answer setup (.scan d s data) p).2.heap := by
  by_cases hs : p.script.LeavesAlone (.scan d s data)
  · rw [(Probe.answer_of_leavesAlone setup hs).2.1, Builtin.answer, collectScan_apply]
    rcases p.heap.database? (some d) with _ | patterns
    · exact h
    rcases hscratch : p.heap.scratch? (some s) with _ | ⟨capacity, busy⟩
    · exact h
    obtain ⟨buffer, hc⟩ := Heap.scratch?_some.1 hscratch
    dsimp only
    split
    · exact h
    · rcases busy with _ | _
      · exact h.put hc (Nat.le_refl _)
      · exact h
  · have hheap : (Probe.answer setup (.scan d s data) p).2 = p := by
      rcases hevents : p.script.events with _ | events <;>
        rcases hcode : p.script.scan with _ | code <;>
        simp_all [Probe.answer, Probe.scan, Script.LeavesAlone]
    rwa [hheap]

/-- A question for a size changes nothing. -/
theorem sound_measure (h : Sound setup floor H p.heap) (scripted : Option Code)
    {call : Builtin.Call SizeReply} (hcall : (call p.heap).2 = p.heap) :
    Sound setup floor H (Probe.measure scripted call p).2.heap := by
  rcases scripted with _ | code
  · rw [Probe.measure, Probe.Call.forward_apply]
    dsimp only
    rwa [hcall]
  · exact h

/-! ## Requests that take something back -/

/-- A database that is taken back is gone, whichever code is returned. -/
theorem sound_freeDatabase {d : Handle} {jobs : List Job}
    (h : Sound setup floor (.database d jobs ::ₘ R) p.heap) :
    Sound setup floor R (Probe.answer setup (.freeDatabase d) p).2.heap := by
  obtain ⟨-, patterns, -, hpatterns⟩ := h.stands _ (Multiset.mem_cons_self _ _)
  change Sound setup floor R (freeDatabase (some d) p.heap).2
  rw [freeDatabase_apply, hpatterns]
  exact h.take

/-- The same for scratch space, which is always idle. -/
theorem sound_freeScratch {s : Handle} (h : Sound setup floor (.scratch s ::ₘ R) p.heap) :
    Sound setup floor R (Probe.answer setup (.freeScratch s) p).2.heap := by
  obtain ⟨capacity, hcapacity, -⟩ := h.stands _ (Multiset.mem_cons_self _ _)
  change Sound setup floor R (freeScratch (some s) p.heap).2
  rw [freeScratch_apply, hcapacity]
  exact h.take

/-! ## The custody -/

/-- The pieces are in their places, and the script is the same as ever. -/
def Kept (setup : Setup) (floor : Handle → Nat) (script : Script) (H : Multiset Piece)
    (w : World Probe) : Prop :=
  Sound setup floor H w.engine.heap ∧ w.engine.script = script

/-- A request that keeps the pieces keeps the script as well. -/
theorem ask_kept {r : Request} {H' : Reply r → Multiset Piece}
    (h : ∀ p : Probe, Sound setup floor H p.heap →
      Sound setup floor (H' (Probe.answer setup r p).1) (Probe.answer setup r p).2.heap) :
    Step.Ensures (Kept setup floor script H) (World.ask (probe setup) r) fun reply =>
      Kept setup floor script (H' reply) :=
  fun w hw => ⟨h w.engine hw.1, (Probe.script_answer r w.engine).trans hw.2⟩

/-- **What is in its place, as something held.** -/
def keep (setup : Setup) (floor : Handle → Nat) (script : Script) :
    Custody (probe setup) Piece where
  holds := Kept setup floor script
  database := Piece.database
  scratch := Piece.scratch
  record _ := Piece.other
  info := Piece.other
  note _ _ := fun _ h => h
  compile _ jobs mode := ask_kept fun _ h => sound_compile h jobs mode
  facts _ pattern flags := ask_kept fun _ h => sound_info h pattern flags
  alloc _ _ _ _ hd := ask_kept fun _ h => sound_alloc hd h
  freeDatabase _ _ _ := ask_kept fun _ => sound_freeDatabase
  freeScratch _ _ := ask_kept fun _ => sound_freeScratch
  freeError _ _ _ := ask_kept fun _ h => h.take
  freeInfo _ _ := ask_kept fun _ h => h.take
  databaseSize _ _ _ _ := ask_kept fun _ h => sound_measure h _ (by
    rw [Builtin.answer, databaseSize_apply])
  scratchSize _ _ _ := ask_kept fun _ h => sound_measure h _ (by
    rw [Builtin.answer, scratchSize, measure_apply])
  baseScratchSize _ _ _ := ask_kept fun _ h => sound_measure h _ (by
    rw [Builtin.answer, baseScratchSize, measure_apply])
  scan _ d _ s data _ _ := ask_kept fun _ h => sound_scan h d s data

end Multiscan.Session
