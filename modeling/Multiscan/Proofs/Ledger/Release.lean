import Multiscan.Builtin.Estimate
import Multiscan.Proofs.Ledger.Builtin
import Multiscan.Proofs.Ledger.Holding
import Multiscan.Proofs.Ledger.Recording
/-!
# Ledger — everything is released exactly once

The run of any operations, from an empty workspace to the last one closed:
`released_exactly_once` is about every engine that honours the contract,
whatever it answers within it.
-/

namespace Multiscan

namespace Engine.Transcript

/-- A transcript in which nothing was used or given back that was not out,
and in which, at every point, each item was given back at most as often as
it was handed out and is out at most once. -/
structure Clean (t : Transcript) : Prop where
  permits : ∀ (before : Transcript) x after, t = before ++ x :: after → before.Permits x.request
  once : ∀ before : Transcript, before <+: t → ∀ i,
    before.givenBack i ≤ before.handedOut i ∧ before.handedOut i ≤ before.givenBack i + 1

/-- What was handed out is what was given back, item by item. -/
def Balanced (t : Transcript) : Prop :=
  (t.flatMap Exchange.handsOut).Perm (t.flatMap Exchange.givesBack)

theorem balanced_iff {t : Transcript} : t.Balanced ↔ ∀ i, t.handedOut i = t.givenBack i :=
  List.perm_iff_count

end Engine.Transcript

open Engine

variable {σ : Type} {E : Engine σ} {start s : σ} {t : Transcript} {R : Multiset Item}

/-- What was reached is clean. -/
theorem Engine.Reach.clean (hE : Honours E start) (h : Reach E start s t) : t.Clean where
  permits := by
    rintro before x after rfl
    exact h.of_append.2
  once := by
    rintro before ⟨rest, rfl⟩ i
    obtain ⟨s', hbefore⟩ : ∃ s', Reach E start s' before := by
      rcases rest with _ | ⟨x, after⟩
      · exact ⟨s, by simpa using h⟩
      · exact h.of_append.1
    have hconserves := hbefore.conserves hE i
    omega

/-- If nothing is held, everything was given back. -/
theorem Engine.Holds.balanced {w : World (σ × Transcript)} (h : Holds E start 0 w) :
    w.engine.2.Balanced :=
  Transcript.balanced_iff.2 fun i => by simpa using h.balance i

namespace Session.Workspace

/-- What a workspace owns: the handles of its open databases and the scratch
space of its allocated scanners, and neither records nor facts. -/
def Owns (ws : Workspace) (i : Item) : Prop :=
  match i.kind with
  | .database => ∃ p ∈ ws.databases, p.2.handle = some i.handle
  | .scratch => ∃ p ∈ ws.scanners, p.2.stage = .allocated i.handle
  | _ => False

theorem mem_ledger (hE : Honours E start) {ws : Workspace} {i : Item} :
    i ∈ (ledger hE).ofWorkspace ws ↔ ws.Owns i := by
  have hdatabase : ∀ d : Database,
      i ∈ (ledger hE).ofDatabase d ↔ i.kind = .database ∧ d.handle = some i.handle := by
    rintro ⟨_ | h, es⟩ <;> rcases i with ⟨k, h'⟩ <;>
      simp [Custody.ofDatabase, ledger, eq_comm, and_comm]
  have hscanner : ∀ sc : Scanner,
      i ∈ (ledger hE).ofScanner sc ↔ i.kind = .scratch ∧ sc.stage = .allocated i.handle := by
    rintro ⟨_ | h | _, events⟩ <;> rcases i with ⟨k, h'⟩ <;>
      simp [Custody.ofScanner, ledger, eq_comm]
  rw [Custody.ofWorkspace, Multiset.mem_add, Named.mem_total, Named.mem_total]
  simp only [hdatabase, hscanner, Owns]
  rcases i with ⟨_ | _ | _ | _, h⟩ <;> simp

/-- If every database is closed and no scanner has scratch space, nothing is
owned. -/
theorem not_owns_of_all_closed {ws : Workspace} (hd : ∀ p ∈ ws.databases, p.2.isClosed)
    (hs : ∀ p ∈ ws.scanners, ¬ p.2.isAllocated) (i : Item) : ¬ ws.Owns i := by
  rcases i with ⟨_ | _ | _ | _, h⟩ <;> rintro ⟨p, hp, hheld⟩
  · have hclosed := hd p hp
    simp [Database.isClosed, hheld] at hclosed
  · exact hs p hp (by rw [Scanner.isAllocated, hheld])

/-- So nothing is held. -/
theorem ledger_of_all_closed (hE : Honours E start) {ws : Workspace}
    (hd : ∀ p ∈ ws.databases, p.2.isClosed) (hs : ∀ p ∈ ws.scanners, ¬ p.2.isAllocated) :
    (ledger hE).ofWorkspace ws = 0 := by
  refine Multiset.eq_zero_of_forall_notMem ?_
  intro i hi
  exact not_owns_of_all_closed hd hs i ((mem_ledger hE).1 hi)

/-- **Everything is released exactly once**, for every engine that honours the
contract and every run of operations from an empty workspace. The run is the
engine's own, written down. Its transcript is clean; what is out after it is
what the workspace owns, which is no record and no facts; nothing is out if
everything was closed, and closing everything brings that about. -/
theorem released_exactly_once (hE : Honours E start) (ops : List Operation) :
    let r := empty.performAll (recorded E) ops (.start (start, []))
    let w' := (r.1.closeAll (recorded E) r.2).2
    let t := r.2.engine.2
    let t' := w'.engine.2
    empty.performAll E ops (.start start) = (r.1, r.2.map Prod.fst) ∧
      t.Clean ∧ (∀ i, t.Out i ↔ r.1.Owns i) ∧
      ((∀ p ∈ r.1.databases, p.2.isClosed) → (∀ p ∈ r.1.scanners, ¬ p.2.isAllocated) →
        t.Balanced) ∧
      (r.1.closeAll E (r.2.map Prod.fst)).2 = w'.map Prod.fst ∧ t'.Clean ∧ t'.Balanced := by
  have hempty : Holds E start ((ledger hE).ofWorkspace empty) (.start (start, [])) :=
    ⟨.refl, fun _ => rfl⟩
  obtain ⟨-, h⟩ := (ledger hE).performAll ops ordered_empty _ hempty
  have h' := (ledger hE).closeAll_holds _ _ h
  refine ⟨?_, h.reach.clean hE, ?_, ?_, ?_, h'.reach.clean hE, h'.balanced⟩
  · exact performAll_mirrors (recorded_mirrors E) ops empty (.start (start, []))
  · intro i
    exact (h.out_iff i).trans (mem_ledger hE)
  · intro hd hs
    exact Holds.balanced (ledger_of_all_closed hE hd hs ▸ h)
  · exact congrArg Prod.snd (closeAll_mirrors (recorded_mirrors E) _ _)

/-- The built-in engine, through a batch it compiles, one it refuses, a
scanner that is closed twice, and a database that is left to the end. -/
theorem released_exactly_once_builtin :
    let E := Builtin.engine .unlimited
    let ops : List Operation := [
      .compile "one" true [.ofPattern "ab" .empty, .ofPattern "b" .empty],
      .compile "two" true [.ofPattern "(" .empty],
      .scannerFor "s" "one", .scan "s" "one" "abab", .validate (.ofPattern "[" .empty),
      .closeScanner "s", .closeScanner "s", .info (.ofPattern "a*" .empty)]
    let r := empty.performAll (recorded E) ops (.start (.empty, []))
    let t' := (r.1.closeAll (recorded E) r.2).2.engine.2
    Honours E .empty ∧ (∀ i, r.2.engine.2.Out i ↔ r.1.Owns i) ∧ t'.Clean ∧ t'.Balanced := by
  intro E ops
  have hE : Honours E .empty := Builtin.honours .unlimited
  have h := released_exactly_once hE ops
  clear_value E ops
  exact ⟨hE, h.2.2.1, h.2.2.2.2.2⟩

end Session.Workspace

end Multiscan
