import Multiscan.Proofs.Session.Sparing
import Multiscan.Proofs.Session.Tidy
/-!
# Session — scanners that serve databases

A scanner serves an open database if its scratch space has room for as many
patterns. Scratch space that a scanner is given for a database serves every
database that has no more patterns, and it goes on to do so until the one or
the other is closed.
-/

namespace Multiscan

open Engine Builtin Session

/-! ## Giving a scanner scratch space -/

/-- **What a request for scratch space comes to** once the engine has answered. -/
theorem Scanner.alloc_of_answer {σ : Type} {E : Engine σ} {w : World σ} {sc : Scanner}
    {d : Database} {b : Handle} {scratch scratch' : Option Handle} {code : Code} {e : σ}
    (hb : d.handle = some b) (hs : sc.toGrow = .ok scratch)
    (h : E.answer (.allocScratch b scratch) w.engine = (⟨code, scratch'⟩, e)) :
    (sc.alloc E d).attempt w =
      if code = Code.success then
        match scratch' with
        | none => (.error (.invalid "engine reported success without scratch space"), ⟨e, w.notes⟩)
        | some k => (.ok { sc with stage := .allocated k }, ⟨e, w.notes ++ [.allocated k b]⟩)
      else (.error ((Error.ofCode code).within "failed to allocate scratch space"), ⟨e, w.notes⟩) := by
  have hhandle : d.handle? = .ok b := by rw [Database.handle?, hb]
  have hask : World.ask E (.allocScratch b scratch) w = (⟨code, scratch'⟩, ⟨e, w.notes⟩) := by
    rw [World.ask_apply, h]
  rw [alloc, hhandle, hs, Act.attempt_bind_ok, Act.attempt_bind_ok, Act.attempt_bind_lift, hask]
  by_cases hcode : code = Code.success
  · rw [if_pos hcode]
    dsimp only
    rw [if_neg (not_not.2 hcode)]
    rcases scratch' with _ | k
    · rfl
    · rfl
  · rw [if_neg hcode]
    dsimp only
    rw [if_pos hcode]
    rfl

/-- What is put under a name is there. -/
theorem Session.Workspace.putScanner_fst {σ : Type} (E : Engine σ) (ws : Workspace) (s : String)
    (sc : Scanner) (w : World σ) :
    (ws.putScanner E s sc w).1 = { ws with scanners := ws.scanners.put s sc } := by
  rw [putScanner]
  rcases ws.scanners.find? s with _ | old
  · rfl
  · rfl

namespace Session

variable {S : Session} {floor : Handle → Nat} {s db : String} {d : Database} {sc : Scanner}

/-- Unless the script says otherwise, there is scratch space to be had that is
idle and has room for all patterns. -/
theorem alloc_run {setup : Setup} {w : World Probe} {b : Handle} {patterns : List Compiled}
    {scratch : Option Handle} (hb : d.handle = some b) (hs : sc.toGrow = .ok scratch)
    (hd : w.engine.heap.database? (some b) = some patterns)
    (hidle : ∀ k ∈ scratch, ∃ capacity, w.engine.heap.scratch? (some k) = some (capacity, false))
    (halloc : w.engine.script.alloc = none) :
    ∃ k w', (sc.alloc (probe setup) d).attempt w = (.ok { sc with stage := .allocated k }, w') ∧
      ∃ capacity, w'.engine.heap.scratch? (some k) = some (capacity, false) ∧
        patterns.length ≤ capacity := by
  obtain ⟨k, heap, hanswer, hroom⟩ := allocScratch_of_idle hd hidle
  have hleaves : w.engine.script.LeavesAlone (.allocScratch b scratch) := halloc
  obtain ⟨hreply, hheap, -⟩ := Probe.answer_of_leavesAlone setup hleaves
  rw [Builtin.answer, hanswer] at hreply hheap
  have hrun := Scanner.alloc_of_answer (E := probe setup) hb hs (Prod.ext hreply rfl)
  rw [if_pos rfl] at hrun
  exact ⟨k, _, hrun, hheap ▸ hroom⟩

/-- A scanner for a database that is not to be had leaves the workspace as it is. -/
theorem step_scannerFor_of_error {e : Error} {w : World Probe}
    (hd : S.workspace.databases.find? db = some d)
    (h : (Scanner.ofDatabase (probe S.setup) d).attempt S.forgetNotes.world = (.error e, w))
    (s : String) :
    S.step (.operate (.scannerFor s db)) =
      (⟨.failed e, w.engine.tallies, w.notes⟩, ⟨S.setup, w, S.workspace⟩) := by
  simp only [step_operate, Workspace.perform, Workspace.withDatabase, hd, Step.bind_apply, h]
  rfl

/-- A new scanner for a database is put under its name. -/
theorem step_scannerFor_of_ok {w : World Probe}
    (hd : S.workspace.databases.find? db = some d)
    (h : (Scanner.ofDatabase (probe S.setup) d).attempt S.forgetNotes.world = (.ok sc, w))
    (s : String) :
    S.step (.operate (.scannerFor s db)) =
      let put := S.workspace.putScanner (probe S.setup) s sc w
      (⟨.done, put.2.engine.tallies, put.2.notes⟩, ⟨S.setup, put.2, put.1⟩) := by
  simp only [step_operate, Workspace.perform, Workspace.withDatabase, hd, Step.bind_apply, h]
  rfl

/-! ## Room -/

/-- How many patterns the scratch space of a scanner has room for. -/
def capacity? (S : Session) (s : String) : Option Nat := do
  let sc ← S.workspace.scanners.find? s
  match sc.stage with
  | .allocated h => (S.world.engine.heap.scratch? (some h)).map (·.1)
  | _ => none

/-- A database is open, and a scanner has room for all of its patterns. -/
structure Serves (S : Session) (s db : String) (d : Database) : Prop where
  database : S.workspace.databases.find? db = some d
  isOpen : d.isClosed = false
  capacity : ∃ n, S.capacity? s = some n ∧ d.length ≤ n

theorem capacity?_of_has {k : Handle} {capacity : Nat} {busy : Bool}
    (hs : S.workspace.scanners.find? s = some sc) (hk : sc.stage = .allocated k)
    (hcapacity : S.world.engine.heap.scratch? (some k) = some (capacity, busy)) :
    S.capacity? s = some capacity := by
  simp only [capacity?, hs, hk, hcapacity, Option.bind_eq_bind, Option.bind_some, Option.map_some]

/-- The room is that of an allocated scanner's scratch space. -/
theorem Serves.has (h : S.Serves s db d) : ∃ k capacity busy,
    S.workspace.Has s db d k ∧
      S.world.engine.heap.scratch? (some k) = some (capacity, busy) ∧ d.length ≤ capacity := by
  obtain ⟨n, hn, hle⟩ := h.capacity
  rcases hs : S.workspace.scanners.find? s with _ | sc
  · simp [capacity?, hs] at hn
  rcases hk : sc.stage with _ | k | _
  · simp [capacity?, hs, hk] at hn
  · rcases hscratch : S.world.engine.heap.scratch? (some k) with _ | ⟨capacity, busy⟩
    · simp [capacity?, hs, hk, hscratch] at hn
    · rw [capacity?_of_has hs hk hscratch] at hn
      obtain rfl := Option.some.inj hn
      exact ⟨k, capacity, busy, ⟨h.database, sc, hs, hk⟩, hscratch, hle⟩
  · simp [capacity?, hs, hk] at hn

namespace Tidy

/-- **Steps that spare a scanner and a database** leave the one serving the other. -/
theorem serves_steps (h : S.Tidy floor) (hserves : S.Serves s db d) {sts : List SessionStep}
    (hsts : ∀ st ∈ sts, st.Spares s db) : (S.steps sts).2.Serves s db d := by
  obtain ⟨k, capacity, busy, hhas, hscratch, hle⟩ := hserves.has
  obtain ⟨hd, sc, hs, hk⟩ := hhas.steps hsts
  -- The room before the steps is a floor for the room after them.
  obtain ⟨capacity', hidle, hfloor⟩ := (h.raise.steps sts).scratch hs hk
  have hroom : room S.world.engine.heap k = capacity := by
    rw [room, hscratch]
    rfl
  exact ⟨hd, hserves.isOpen, capacity', capacity?_of_has hs hk hidle, by omega⟩

/-- A scanner put in a place of the workspace keeps its room when the one that
had the place is closed. -/
theorem capacity?_putScanner {setup : Setup} {ws : Workspace} (h : ws.Ordered) {w : World Probe}
    {script : Script} {k : Handle} {capacity : Nat} {busy : Bool} (hk : sc.stage = .allocated k)
    (hheld : (keep setup floor script).holds ((keep setup floor script).ofScanner sc +
      (keep setup floor script).ofWorkspace ws) w)
    (hcapacity : w.engine.heap.scratch? (some k) = some (capacity, busy)) (s : String) :
    let put := ws.putScanner (probe setup) s sc w
    ∃ n, capacity? ⟨setup, put.2, put.1⟩ s = some n ∧ capacity ≤ n := by
  intro put
  -- The room that there is now becomes the floor, so closing the other scanner
  -- cannot take any of it away.
  have hraised : (keep setup (room w.engine.heap) script).holds
      ((keep setup (room w.engine.heap) script).ofScanner sc +
        (keep setup (room w.engine.heap) script).ofWorkspace ws) w := ⟨hheld.1.raise, hheld.2⟩
  obtain ⟨hordered, hkept⟩ := Custody.putScanner_holds _ h s sc w hraised
  have htidy : Tidy (room w.engine.heap) ⟨setup, put.2, put.1⟩ := ⟨hordered, hkept.1, rfl⟩
  have hs : put.1.scanners.find? s = some sc := by
    rw [Workspace.putScanner_fst, Named.find?_put, if_pos rfl]
  obtain ⟨n, hn, hle⟩ := htidy.scratch hs hk
  refine ⟨n, capacity?_of_has hs hk hn, ?_⟩
  rwa [room, hcapacity] at hle

/-- **A new scanner with scratch space for a database** serves every open
database with no more patterns. There is one unless the script has a say in
it. -/
theorem serves_scannerFor (h : S.Tidy floor) (hd : S.workspace.databases.find? db = some d)
    (hopen : d.isClosed = false) (s : String) :
    let r := S.step (.operate (.scannerFor s db))
    (S.world.engine.script.alloc = none → r.1.answer = .done) ∧
      (r.1.answer = .done → ∀ db' d', S.workspace.databases.find? db' = some d' →
        d'.isClosed = false → d'.length ≤ d.length → r.2.Serves s db' d') := by
  intro r
  obtain ⟨b, hb⟩ := Database.exists_handle hopen
  obtain ⟨patterns, -, hheap, hlength⟩ := h.database hd hb
  have hgrow : Scanner.unallocated.toGrow = .ok none := rfl
  rcases halloc : S.world.engine.script.alloc with _ | code
  · obtain ⟨k, w, hrun, capacity, hcapacity, hle⟩ :=
      alloc_run (w := S.forgetNotes.world) hb hgrow hheap (by simp) halloc
    have hheld := (keep S.setup floor S.world.engine.script).newScanner_holds h.1 hd
      S.forgetNotes.world h.2
    rw [Scanner.ofDatabase, hrun] at hheld
    have hr : r = _ := step_scannerFor_of_ok hd hrun s
    rw [hr]
    refine ⟨fun _ => rfl, ?_⟩
    intro _ db' d' hd' hopen' hle'
    obtain ⟨n, hn, hcapacity_le⟩ := capacity?_putScanner h.1 rfl hheld hcapacity s
    refine ⟨?_, hopen', n, hn, by omega⟩
    dsimp only
    rwa [Workspace.putScanner_fst]
  · -- Whatever its code, a scripted reply gives no new scratch space.
    have hanswer : (probe S.setup).answer (.allocScratch b none) S.forgetNotes.world.engine =
        (⟨code, none⟩, S.forgetNotes.world.engine) := Probe.answer_alloc_of_script halloc b none
    have hrun := Scanner.alloc_of_answer hb hgrow hanswer
    obtain ⟨e, he⟩ : ∃ e, (Scanner.ofDatabase (probe S.setup) d).attempt S.forgetNotes.world =
        (.error e, S.forgetNotes.world) := by
      by_cases hcode : code = Code.success
      · exact ⟨_, hrun.trans (if_pos hcode)⟩
      · exact ⟨_, hrun.trans (if_neg hcode)⟩
    have hr : r = _ := step_scannerFor_of_error hd he s
    rw [hr]
    exact ⟨by simp, by simp⟩

end Tidy

end Session

end Multiscan
