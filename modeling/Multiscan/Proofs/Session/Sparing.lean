import Multiscan.Proofs.Session.Effect
import Multiscan.Proofs.Session.Probe
import Multiscan.Session.Run
/-!
# Session — what a step leaves alone

A step spares a scanner and a database unless it is one of those that make,
close or drop the one or the other by its name. Then the database is the same
after it, and the scanner has the same scratch space: scans and further
requests for scratch space, with whatever outcome, do not change that as long as
the engine makes room for more in the place that there is (`perform_stage`).
-/

namespace Multiscan

open Engine Session

variable {σ : Type} {E : Engine σ} {s db : String} {d : Database} {k : Handle} {ws : Workspace}
  {sc : Scanner}

/-! ## Scratch space -/

/-- Scratch space that an engine is asked to grow stays the same, whether it does or
not. -/
def Engine.GrowsInPlace (E : Engine σ) : Prop :=
  ∀ (b k : Handle) (e : σ), (E.answer (.allocScratch b (some k)) e).1.scratch = some k

theorem Session.probe_growsInPlace (setup : Builtin.Setup) : (probe setup).GrowsInPlace :=
  Probe.scratch_answer

/-- More room is room in the same scratch space. -/
theorem Scanner.alloc_stage (hE : E.GrowsInPlace) (hk : sc.stage = .allocated k) (d : Database) :
    (sc.alloc E d).Ensures (fun _ => True) (fun sc' _ => sc'.stage = .allocated k)
      fun _ _ => True := by
  refine .bind_ofExcept (fun b _ => ?_) fun _ _ h => h
  refine .bind_ofExcept (fun scratch hscratch => ?_) fun _ _ h => h
  obtain rfl : some k = scratch := by
    rw [toGrow, hk] at hscratch
    exact Except.ok.inj hscratch
  have hask : Step.Ensures (fun _ => True) (World.ask E (.allocScratch b (some k)))
      fun reply _ => reply.scratch = some k := fun w _ => hE b k w.engine
  refine .bind_lift hask fun reply => ?_
  rcases reply with ⟨code, scratch⟩
  dsimp only
  split
  · exact .bind_throw fun _ _ => trivial
  · rcases scratch with _ | k'
    · exact .throw fun _ _ => trivial
    · refine .bind_note (fun _ h => h) (.pure fun w hw => ?_)
      obtain rfl := Option.some.inj hw
      rfl

namespace Session

/-! ## Operations -/

namespace Workspace

variable {ws' : Workspace} {op : Operation} {a : Answer}

/-- **A scanner stays where it is in its life** unless it is replaced, closed or given
scratch space. -/
theorem Effect.find?_stage (h : ws.Effect op a ws') (hop : ¬ op.ReplacesScanner s)
    (hopen : op ≠ .closeScanner s) (halloc : ∀ db, op ≠ .alloc s db) :
    (ws'.scanners.find? s).map Scanner.stage = (ws.scanners.find? s).map Scanner.stage := by
  have hput : ∀ {s' : String} (sc : Scanner), s' ≠ s →
      ((ws.scanners.put s' sc).find? s).map Scanner.stage =
        (ws.scanners.find? s).map Scanner.stage := fun sc hne => by rw [find?_scanner_put ws hne]
  rcases h with _ | _ | s' | ⟨_, _, s', _⟩ | ⟨_, _, _, _, _⟩ | ⟨_, hs, hstage, _, _⟩ | _ | _ | _ | _
  case none | compile | closeDatabase | dropDatabase => rfl
  case scanner | scannerFor => exact hput _ hop
  case alloc s' db d b sc _ _ _ _ _ => exact hput _ fun heq => halloc db (by rw [heq])
  case scan s' db text d sc sc' _ _ _ =>
    by_cases heq : s' = s
    · subst heq
      rw [Named.find?_put, if_pos rfl, hs, Option.map_some, Option.map_some, hstage]
    · exact hput _ heq
  case closeScanner s' sc _ => exact hput _ fun heq => hopen (by rw [heq])
  case dropScanner s' sc _ => rw [Named.find?_remove, if_neg (Ne.symm hop)]

/-- **A database stays as it is** unless it is replaced or closed. -/
theorem Effect.find?_database (h : ws.Effect op a ws') (hop : ¬ op.ReplacesDatabase db)
    (hopen : op ≠ .closeDatabase db) : ws'.databases.find? db = ws.databases.find? db := by
  rcases h with _ | _ | _ | _ | _ | _ | _ | _ | _ | _
  case compile => rw [Named.find?_put, if_neg (Ne.symm hop)]
  case closeDatabase db' d _ => rw [Named.find?_put, if_neg fun heq => hopen (by rw [heq])]
  case dropDatabase db' d _ => rw [Named.find?_remove, if_neg (Ne.symm hop)]
  all_goals rfl

/-- **A scanner keeps its scratch space** until it is closed or replaced. -/
theorem perform_stage (hE : E.GrowsInPlace)
    (hk : (ws.scanners.find? s).map Scanner.stage = some (.allocated k))
    (hop : ¬ op.ReplacesScanner s) (hopen : op ≠ .closeScanner s) :
    Step.Ensures (fun _ => True) (ws.perform E op)
      fun r _ => (r.2.scanners.find? s).map Scanner.stage = some (.allocated k) := by
  by_cases halloc : ∃ db, op = .alloc s db
  · obtain ⟨db, rfl⟩ := halloc
    refine ensures_withDatabase (fun _ _ => hk) fun d _ => ?_
    refine ensures_withScanner (fun _ _ => hk) fun sc hs => ?_
    have hstage : sc.stage = .allocated k := by
      rw [hs, Option.map_some] at hk
      exact Option.some.inj hk
    refine .bind_attempt (Scanner.alloc_stage hE hstage d) (fun sc' => .pure fun _ hsc' => ?_)
      fun _ => .pure fun _ _ => hk
    rw [Named.find?_put, if_pos rfl, Option.map_some, hsc']
  · refine (ws.perform_effect E op).mono fun r _ h => ?_
    exact (h.find?_stage hop hopen fun db heq => halloc ⟨db, heq⟩).trans hk

theorem performEach_stage (hE : E.GrowsInPlace) {ops : List Operation}
    (hk : (ws.scanners.find? s).map Scanner.stage = some (.allocated k))
    (hops : ∀ op ∈ ops, ¬ op.ReplacesScanner s ∧ op ≠ .closeScanner s) (w : World σ) :
    ((ws.performEach E ops w).1.2.scanners.find? s).map Scanner.stage = some (.allocated k) := by
  induction ops generalizing ws w with
  | nil => exact hk
  | cons op ops ih =>
    obtain ⟨⟨hreplaces, hopen⟩, hrest⟩ := List.forall_mem_cons.1 hops
    rw [performEach_cons]
    exact ih (perform_stage hE hk hreplaces hopen w trivial) hrest _

end Workspace

/-! ## Steps -/

/-- An operation neither makes nor closes the database `db` or the scanner `s`. -/
def Operation.Spares (s db : String) : Operation → Prop
  | .compile db' _ _ | .closeDatabase db' | .dropDatabase db' => db' ≠ db
  | .scanner s' | .scannerFor s' _ | .closeScanner s' | .dropScanner s' => s' ≠ s
  | _ => True

/-- The same for a step; scripts change neither of them. -/
def SessionStep.Spares (s db : String) : SessionStep → Prop
  | .operate op => op.Spares s db
  | _ => True

/-- What is spared is neither replaced nor closed. -/
theorem Operation.Spares.scanner {op : Operation} (h : op.Spares s db) :
    ¬ op.ReplacesScanner s ∧ op ≠ .closeScanner s := by
  rcases op <;> simp_all [Operation.Spares, Operation.ReplacesScanner]

theorem Operation.Spares.database {op : Operation} (h : op.Spares s db) :
    ¬ op.ReplacesDatabase db ∧ op ≠ .closeDatabase db := by
  rcases op <;> simp_all [Operation.Spares, Operation.ReplacesDatabase]

namespace Workspace

/-- A database has a name, and a scanner with scratch space has one. -/
structure Has (s db : String) (d : Database) (k : Handle) (ws : Workspace) : Prop where
  database : ws.databases.find? db = some d
  scanner : ∃ sc, ws.scanners.find? s = some sc ∧ sc.stage = .allocated k

namespace Has

/-- **An operation that spares the scanner and the database** leaves them as they
are. -/
theorem perform (hE : E.GrowsInPlace) (h : ws.Has s db d k) {op : Operation}
    (hop : op.Spares s db) (w : World σ) : (ws.perform E op w).1.2.Has s db d k := by
  have hdatabase := (ws.perform_effect E op w trivial).find?_database hop.database.1 hop.database.2
  have hscanner := perform_stage hE (Option.map_eq_some_iff.2 h.scanner) hop.scanner.1 hop.scanner.2
  exact ⟨hdatabase.trans h.database, Option.map_eq_some_iff.1 (hscanner w trivial)⟩

theorem step {S : Session} (h : S.workspace.Has s db d k) {st : SessionStep}
    (hst : st.Spares s db) : (S.step st).2.workspace.Has s db d k := by
  rcases st with op | entries | _
  · exact h.perform (probe_growsInPlace S.setup) hst _
  · exact h
  · exact h

/-- **Steps that spare the scanner and the database** leave them as they are. -/
theorem steps {S : Session} (h : S.workspace.Has s db d k) {sts : List SessionStep}
    (hsts : ∀ st ∈ sts, st.Spares s db) : (S.steps sts).2.workspace.Has s db d k := by
  induction sts generalizing S with
  | nil => exact h
  | cons st rest ih =>
    exact ih (h.step (hsts st List.mem_cons_self)) fun st' hst' =>
      hsts st' (List.mem_cons_of_mem _ hst')

end Has

end Workspace

end Session

end Multiscan
