import Multiscan.Proofs.Session.Effect
/-!
# Custody — bystanders

An operation does not come upon a scanner that it does not name: it does the
same in the workspace without that scanner (`perform_withoutScanner`). So
whatever else is held while it runs, what the scanner stands for or something
that says more, comes out of it as it went in (`perform_frame`).
-/

namespace Multiscan

open Session

variable {σ ι : Type} {E : Engine σ}

namespace Session

namespace Workspace

variable {ws ws' : Workspace} {s : String} {op : Operation} {a : Answer}

/-! ## What becomes of workspaces -/

/-- The names stay in order. -/
theorem Effect.ordered (h : ws.Effect op a ws') (hws : ws.Ordered) : ws'.Ordered := by
  rcases h with _ | ⟨db, groups, hcount, b⟩ | _ | _ | _ | _ | _ | _ | _ | _
  case none => exact hws
  case compile => exact hws.putDatabase db _
  case closeDatabase db d _ => exact hws.putDatabase db _
  case dropDatabase db d _ => exact hws.withoutDatabase db
  case dropScanner s sc _ => exact hws.withoutScanner s
  all_goals exact hws.putScanner _ _

/-! ## What operations come upon -/

theorem put_withoutScanner (h : ws.Ordered) {s' : String} (hne : s' ≠ s) (sc : Scanner) :
    (ws.withoutScanner s).scanners.put s' sc = (ws.scanners.put s' sc).remove s :=
  (Named.remove_put h.scanners hne sc).symm

/-- What a step comes to, without a scanner. -/
def without (s : String) (r : Answer × Workspace) : Answer × Workspace :=
  (r.1, r.2.withoutScanner s)

theorem putScanner_withoutScanner (h : ws.Ordered) {s' : String} (hne : s' ≠ s) (sc : Scanner) :
    (ws.withoutScanner s).putScanner E s' sc =
      (·.withoutScanner s) <$> ws.putScanner E s' sc := by
  have hfind : (ws.withoutScanner s).scanners.find? s' = ws.scanners.find? s' := by
    rw [withoutScanner, Named.find?_remove, if_neg hne]
  rw [putScanner, putScanner, hfind, put_withoutScanner h hne]
  rcases ws.scanners.find? s' with _ | old <;> rfl

theorem withScanner_withoutScanner {s' : String} (hne : s' ≠ s)
    {act act' : Scanner → Step σ (Answer × Workspace)} (h : ∀ sc, act' sc = without s <$> act sc) :
    (ws.withoutScanner s).withScanner s' act' = without s <$> ws.withScanner s' act := by
  have hfind : (ws.withoutScanner s).scanners.find? s' = ws.scanners.find? s' := by
    rw [withoutScanner, Named.find?_remove, if_neg hne]
  rw [withScanner, withScanner, hfind]
  rcases ws.scanners.find? s' with _ | sc
  · rfl
  · exact h sc

theorem withDatabase_withoutScanner {db : String}
    {act act' : Database → Step σ (Answer × Workspace)} (h : ∀ d, act' d = without s <$> act d) :
    (ws.withoutScanner s).withDatabase db act' = without s <$> ws.withDatabase db act := by
  rw [withDatabase, withDatabase, show (ws.withoutScanner s).databases = ws.databases from rfl]
  rcases ws.databases.find? db with _ | d
  · rfl
  · exact h d

theorem report_withoutScanner {α : Type} (act : Act σ α) (f : α → Answer) :
    (ws.withoutScanner s).report act f = without s <$> ws.report act f := by
  rw [report, report, map_bind]
  refine bind_congr fun r => ?_
  rcases r with e | a <;> rfl

/-- **An operation does the same without a scanner that it does not name.** -/
theorem perform_withoutScanner (E : Engine σ) (h : ws.Ordered) (hop : ¬ op.NamesScanner s) :
    (ws.withoutScanner s).perform E op = without s <$> ws.perform E op := by
  rcases op with ⟨db, groups, es⟩ | s' | ⟨s', db⟩ | ⟨s', db⟩ | ⟨s', db, text⟩ | db | s' | s' | db |
    db | s' | s' | db | s' | ⟨db, id⟩ | e | e
  case compile =>
    rw [perform, perform, map_bind]
    refine bind_congr fun r => ?_
    rcases r with e | d
    · rfl
    · simp only [putDatabase, show (ws.withoutScanner s).databases = ws.databases from rfl]
      rcases ws.databases.find? db with _ | old <;> rfl
  case scanner =>
    rw [perform, perform, putScanner_withoutScanner h hop]
    rfl
  case scannerFor =>
    refine withDatabase_withoutScanner fun d => ?_
    rw [map_bind]
    refine bind_congr fun r => ?_
    rcases r with e | sc
    · rfl
    · simp only [putScanner_withoutScanner h hop]
      rfl
  case alloc =>
    refine withDatabase_withoutScanner fun d => withScanner_withoutScanner hop fun sc => ?_
    rw [map_bind]
    refine bind_congr fun r => ?_
    rcases r with e | sc'
    · rfl
    · simp only [put_withoutScanner h hop]
      rfl
  case scan =>
    refine withDatabase_withoutScanner fun d => withScanner_withoutScanner hop fun sc => ?_
    rw [map_bind]
    refine bind_congr fun r => ?_
    obtain ⟨r, sc'⟩ := r
    simp only [put_withoutScanner h hop]
    rcases r with e | ms <;> rfl
  case databaseSize => exact withDatabase_withoutScanner fun d => report_withoutScanner _ _
  case scratchSize => exact withScanner_withoutScanner hop fun sc => report_withoutScanner _ _
  case baseScratchSize => exact withScanner_withoutScanner hop fun sc => report_withoutScanner _ _
  case closeDatabase => exact withDatabase_withoutScanner fun d => rfl
  case dropDatabase => exact withDatabase_withoutScanner fun d => rfl
  case closeScanner =>
    refine withScanner_withoutScanner hop fun sc => ?_
    simp only [put_withoutScanner h hop]
    rfl
  case dropScanner =>
    refine withScanner_withoutScanner hop fun sc => ?_
    rw [map_bind]
    refine bind_congr fun _ => ?_
    simp only [withoutScanner, Named.remove_comm _ s' s]
    rfl
  case databaseState => exact withDatabase_withoutScanner fun d => rfl
  case scannerState => exact withScanner_withoutScanner hop fun sc => rfl
  case expression => exact withDatabase_withoutScanner fun d => rfl
  case info => exact report_withoutScanner _ _
  case validate => rfl

end Workspace

end Session

/-! ## Frames -/

namespace Custody

open Session.Workspace

/-- Something else may be held all the time. -/
def frame (C : Custody E ι) (F : Multiset ι) : Custody E ι where
  holds H := C.holds (H + F)
  database := C.database
  scratch := C.scratch
  record := C.record
  info := C.info
  note H := C.note (H + F)
  compile R jobs mode := by
    simpa only [Multiset.add_assoc] using C.compile (R + F) jobs mode
  facts R pattern flags := by
    simpa only [Multiset.add_assoc] using C.facts (R + F) pattern flags
  alloc R d jobs s hd := by
    simpa only [Multiset.add_assoc] using C.alloc (R + F) d jobs s (Multiset.mem_add.2 (.inl hd))
  freeDatabase R d jobs := by
    simpa only [Multiset.cons_add] using C.freeDatabase (R + F) d jobs
  freeScratch R s := by simpa only [Multiset.cons_add] using C.freeScratch (R + F) s
  freeError R v r := by simpa only [Multiset.cons_add] using C.freeError (R + F) v r
  freeInfo R i := by simpa only [Multiset.cons_add] using C.freeInfo (R + F) i
  databaseSize H d jobs hd := C.databaseSize (H + F) d jobs (Multiset.mem_add.2 (.inl hd))
  scratchSize H s hs := C.scratchSize (H + F) s (Multiset.mem_add.2 (.inl hs))
  baseScratchSize H s hs := C.baseScratchSize (H + F) s (Multiset.mem_add.2 (.inl hs))
  scan H d jobs s data hd hs :=
    C.scan (H + F) d jobs s data (Multiset.mem_add.2 (.inl hd)) (Multiset.mem_add.2 (.inl hs))

/-- **An operation keeps what is held for a scanner that it does not name**,
whatever that is. -/
theorem perform_frame (C : Custody E ι) {ws : Workspace} {s : String} {op : Operation}
    (h : ws.Ordered) (hop : ¬ op.NamesScanner s) (F : Multiset ι) :
    Step.Ensures (C.holds (C.ofWorkspace (ws.withoutScanner s) + F)) (ws.perform E op)
      fun r => C.holds (C.ofWorkspace (r.2.withoutScanner s) + F) := by
  intro w hw
  have hkept := (C.frame F).perform (h.withoutScanner s) op w hw
  rw [perform_withoutScanner E h hop] at hkept
  exact hkept.2

end Custody

end Multiscan
