import Multiscan.Proofs.Custody.Workspace
import Multiscan.Proofs.Session.Keeping
import Multiscan.Session.Run
/-!
# Session — everything stays in its place

Whatever the steps of a session were, everything that it has is in its place
in the heap (`Tidy`). So the patterns of an open database are those that its
expressions compile into, and the scratch space of every scanner is idle and
has not got smaller.
-/

namespace Multiscan

open Engine Builtin Session

/-! ## Databases -/

namespace Database

theorem exists_handle {d : Database} (h : d.isClosed = false) : ∃ b, d.handle = some b := by
  rcases d with ⟨_ | b, es⟩
  · exact nomatch h
  · exact ⟨b, rfl⟩

theorem length_jobs {i : Nat} {es : List Expression} {batch : List Job}
    (h : jobs i es = .ok batch) : batch.length = es.length := by
  induction es generalizing i batch with
  | nil =>
    obtain rfl := Except.ok.inj h
    rfl
  | cons e es ih =>
    rcases hjob : job i e with err | j
    · rw [jobs, hjob] at h
      exact nomatch h
    rcases hrest : jobs (i + 1) es with err | rest
    · rw [jobs, hjob, hrest] at h
      exact nomatch h
    · rw [jobs, hjob, hrest] at h
      obtain rfl := Except.ok.inj h
      rw [List.length_cons, List.length_cons, ih hrest]

/-- A batch that could be given to an engine has all the expressions. -/
theorem length_batch {d : Database} (h : d.batch ≠ []) : d.batch.length = d.length := by
  rcases hjobs : jobs 0 d.expressions with err | js
  · exact absurd (by rw [Database.batch, hjobs]; rfl) h
  · rw [Database.batch, hjobs]
    exact length_jobs hjobs

end Database

namespace Session

variable {S : Session} {floor : Handle → Nat} {s db : String} {d : Database} {sc : Scanner}

/-! ## Steps -/

/-- Everything that a session has is in its place. -/
def Tidy (floor : Handle → Nat) (S : Session) : Prop :=
  (keep S.setup floor S.world.engine.script).Settled S.workspace S.world

theorem tidy_start (setup : Setup) : Tidy (fun _ => 0) (start setup) :=
  ⟨Workspace.ordered_empty, ⟨Multiset.nodup_zero, nofun, fun _ _ => rfl⟩, rfl⟩

theorem step_operate (S : Session) (op : Operation) :
    S.step (.operate op) =
      let r := S.workspace.perform (probe S.setup) op S.forgetNotes.world
      (⟨r.1.1, r.2.engine.tallies, r.2.notes⟩, ⟨S.setup, r.2, r.1.2⟩) := rfl

/-- No step changes how the engine is set up. -/
theorem setup_steps (S : Session) (sts : List SessionStep) : (S.steps sts).2.setup = S.setup := by
  induction sts generalizing S with
  | nil => rfl
  | cons st rest ih =>
    rw [steps, ih]
    cases st <;> rfl

namespace Tidy

/-- **An operation** leaves everything in its place, and the script as it is. -/
theorem operate (h : S.Tidy floor) (op : Operation) :
    (S.step (.operate op)).2.Tidy floor ∧
      (S.step (.operate op)).2.world.engine.script = S.world.engine.script := by
  obtain ⟨hordered, hkept⟩ := (keep S.setup floor S.world.engine.script).perform h.1 op
    S.forgetNotes.world h.2
  rw [step_operate]
  exact ⟨⟨hordered, hkept.1, rfl⟩, hkept.2⟩

theorem step (h : S.Tidy floor) (st : SessionStep) : (S.step st).2.Tidy floor := by
  rcases st with op | entries | _
  · exact (h.operate op).1
  · exact ⟨h.1, h.2.1, rfl⟩
  · exact ⟨h.1, h.2.1, rfl⟩

/-- **Any steps** leave everything in its place. -/
theorem steps (h : S.Tidy floor) (sts : List SessionStep) : (S.steps sts).2.Tidy floor := by
  induction sts generalizing S with
  | nil => exact h
  | cons st rest ih => exact ih (h.step st)

/-- Scratch space may be relied on to keep the room that it has now. -/
theorem raise (h : S.Tidy floor) : S.Tidy (room S.world.engine.heap) :=
  ⟨h.1, h.2.1.raise, h.2.2⟩

/-! ## What is in its place -/

/-- **The patterns of an open database** are those of its batch. -/
theorem database (h : S.Tidy floor) (hd : S.workspace.databases.find? db = some d) {b : Handle}
    (hb : d.handle = some b) : ∃ patterns,
      compileAll S.setup 0 (d.batch.map sourceOf) = .ok patterns ∧
        S.world.engine.heap.database? (some b) = some patterns ∧ patterns.length = d.length := by
  have hmem : Piece.database b d.batch ∈
      (keep S.setup floor S.world.engine.script).ofWorkspace S.workspace := by
    rw [Custody.ofWorkspace_of_database _ h.1 hd, Custody.ofDatabase, hb]
    exact Multiset.mem_add.2 (.inl (Multiset.mem_singleton_self _))
  obtain ⟨hbatch, patterns, hpatterns, hheap⟩ := h.2.1.stands _ hmem
  refine ⟨patterns, hpatterns, hheap, ?_⟩
  have hlength := ((compileAll_iff 0).1 hpatterns).length_eq
  rw [List.length_map] at hlength
  rw [← hlength, Database.length_batch hbatch]

/-- **The scratch space of a scanner** is idle and has room. -/
theorem scratch (h : S.Tidy floor) (hs : S.workspace.scanners.find? s = some sc) {k : Handle}
    (hk : sc.stage = .allocated k) : ∃ capacity,
      S.world.engine.heap.scratch? (some k) = some (capacity, false) ∧ floor k ≤ capacity := by
  have hmem : Piece.scratch k ∈
      (keep S.setup floor S.world.engine.script).ofWorkspace S.workspace := by
    rw [Custody.ofWorkspace_of_scanner _ h.1 hs, Custody.ofScanner, hk]
    exact Multiset.mem_add.2 (.inl (Multiset.mem_singleton_self _))
  exact h.2.1.stands _ hmem

end Tidy

end Session

end Multiscan
