import Multiscan.Proofs.Custody.Workspace
/-!
# Session — what operations make of a workspace

Whatever an engine answers, there are few things that an operation can do to a
workspace, and its answer tells which (`Effect`). So what becomes of a workspace
can be told from the operations of a run and their answers (`performEach_foldl`). An
operation that fails has left nothing behind that it would come upon again: when
it is repeated, it does what it would have done in the first place
(`Effect.again`).
-/

namespace Multiscan

open Engine Session

variable {σ : Type} {E : Engine σ}

namespace Session

/-- An answer after which nothing was made, closed or given scratch space. -/
def Answer.Quiet : Answer → Prop
  | .done | .length _ => False
  | _ => True

/-- A scanner of this name is made or forgotten. -/
def Operation.ReplacesScanner (s : String) : Operation → Prop
  | .scanner s' | .scannerFor s' _ | .dropScanner s' => s' = s
  | _ => False

/-- A database of this name is made or forgotten. -/
def Operation.ReplacesDatabase (db : String) : Operation → Prop
  | .compile db' _ _ | .dropDatabase db' => db' = db
  | _ => False

/-- An operation has to do with the scanner of a name. -/
def Operation.NamesScanner (s : String) : Operation → Prop
  | .scanner s' | .scannerFor s' _ | .alloc s' _ | .scan s' _ _ | .scratchSize s'
  | .baseScratchSize s' | .closeScanner s' | .dropScanner s' | .scannerState s' => s' = s
  | _ => False

namespace Workspace

variable {ws : Workspace}

/-- What an operation and its answer have made of a workspace. -/
inductive Effect (ws : Workspace) : Operation → Answer → Workspace → Prop
  | none {op : Operation} {a : Answer} (ha : a.Quiet) : Effect ws op a ws
  | compile (db : String) (groups : Bool) {es : List Expression} (hcount : es.length < UInt32.size)
    (h : Handle) :
    Effect ws (.compile db groups es) (.length es.length)
      { ws with databases := ws.databases.put db ⟨some h, es⟩ }
  | scanner (s : String) :
    Effect ws (.scanner s) .done { ws with scanners := ws.scanners.put s .unallocated }
  | scannerFor {db : String} {d : Database} {b : Handle} (hd : ws.databases.find? db = some d)
    (hb : d.handle = some b) (s : String) (k : Handle) :
    Effect ws (.scannerFor s db) .done { ws with scanners := ws.scanners.put s ⟨.allocated k, []⟩ }
  | alloc {s db : String} {d : Database} {b : Handle} {sc : Scanner}
    (hd : ws.databases.find? db = some d) (hb : d.handle = some b)
    (hs : ws.scanners.find? s = some sc) (hlive : sc.stage ≠ .released) (k : Handle) :
    Effect ws (.alloc s db) .done
      { ws with scanners := ws.scanners.put s { sc with stage := .allocated k } }
  | scan {s db text : String} {d : Database} {sc sc' : Scanner} {a : Answer}
    (hd : ws.databases.find? db = some d) (hs : ws.scanners.find? s = some sc)
    (hstage : sc'.stage = sc.stage)
    (hagain : ∀ {τ : Type} (E : Engine τ), sc'.scanStep E d text = sc.scanStep E d text)
    (ha : a.Quiet) :
    Effect ws (.scan s db text) a { ws with scanners := ws.scanners.put s sc' }
  | closeDatabase {db : String} {d : Database} (hd : ws.databases.find? db = some d) :
    Effect ws (.closeDatabase db) .done
      { ws with databases := ws.databases.put db { d with handle := Option.none } }
  | dropDatabase {db : String} {d : Database} (hd : ws.databases.find? db = some d) :
    Effect ws (.dropDatabase db) .done { ws with databases := ws.databases.remove db }
  | closeScanner {s : String} {sc : Scanner} (hs : ws.scanners.find? s = some sc) :
    Effect ws (.closeScanner s) .done
      { ws with scanners := ws.scanners.put s { sc with stage := .released } }
  | dropScanner {s : String} {sc : Scanner} (hs : ws.scanners.find? s = some sc) :
    Effect ws (.dropScanner s) .done { ws with scanners := ws.scanners.remove s }

end Workspace

end Session

/-! ## What operations come to -/

namespace Database

/-- A batch that compiles becomes an open database of its expressions, which are
not too many for their ids. -/
theorem compile_value (groups : Bool) (es : List Expression) :
    (compile E groups es).Ensures (fun _ => True)
      (fun d _ => es.length < UInt32.size ∧ ∃ h, d = ⟨some h, es⟩) fun _ _ => True := by
  rcases es with _ | ⟨first, rest⟩
  · exact .throw fun _ h => h
  rw [compile]
  dsimp only
  split
  · exact .bind_throw fun _ h => h
  next hcount =>
  refine .bind_ofExcept (fun batch _ => ?_) fun _ _ h => h
  refine .bind_lift (Q := fun _ _ => True) (fun _ h => h) fun reply => ?_
  rcases reply with ⟨code, _ | h, error⟩ <;> dsimp only <;> split
  · exact .bind_lift (Q := fun _ _ => True) (fun _ h => h) fun _ => .bind_throw fun _ h => h
  · exact .throw fun _ h => h
  · exact .bind_lift (Q := fun _ _ => True) (fun _ h => h) fun _ => .bind_throw fun _ h => h
  · exact .bind_note (fun _ h => h) (.pure fun _ _ => ⟨Nat.not_le.1 hcount, h, rfl⟩)

theorem close_value (d : Database) :
    Step.Ensures (fun _ => True) (d.close E) fun d' _ => d' = { d with handle := none } := by
  rcases d with ⟨_ | h, es⟩
  · exact .pure fun _ _ => rfl
  · refine .bind_any fun code => ?_
    dsimp only
    split
    · exact .bind_any fun _ => .pure fun _ _ => rfl
    · exact .bind_any fun _ => .pure fun _ _ => rfl

end Database

namespace Scanner

/-- Scratch space is given for an open database to a scanner that was not
closed. -/
theorem alloc_value (s : Scanner) (d : Database) :
    (s.alloc E d).Ensures (fun _ => True)
      (fun s' _ => (∃ b, d.handle = some b) ∧ s.stage ≠ .released ∧
        ∃ k, s' = { s with stage := .allocated k }) fun _ _ => True := by
  refine .bind_ofExcept (fun b hb => ?_) fun _ _ h => h
  refine .bind_ofExcept (fun scratch hgrow => ?_) fun _ _ h => h
  have hopen : ∃ b, d.handle = some b := by
    rcases d with ⟨_ | b', es⟩
    · exact nomatch hb
    · exact ⟨b', rfl⟩
  have hlive : s.stage ≠ .released := by
    intro hreleased
    rw [toGrow, hreleased] at hgrow
    exact nomatch hgrow
  refine .bind_lift (Q := fun _ _ => True) (fun _ h => h) fun reply => ?_
  rcases reply with ⟨code, _ | k⟩ <;> dsimp only <;> split
  · exact .bind_throw fun _ h => h
  · exact .throw fun _ h => h
  · exact .bind_throw fun _ h => h
  · exact .bind_note (fun _ h => h) (.pure fun _ _ => ⟨hopen, hlive, k, rfl⟩)

theorem close_value (s : Scanner) :
    Step.Ensures (fun _ => True) (s.close E) fun s' _ => s' = { s with stage := .released } := by
  rw [close]
  split
  · refine .bind_any fun code => ?_
    dsimp only
    split
    · exact .bind_any fun _ => .pure fun _ _ => rfl
    · exact .bind_any fun _ => .pure fun _ _ => rfl
  · exact .pure fun _ _ => rfl

/-- **A scan leaves the scanner where it is in its life**, and such that the same
scan would do the same again. -/
theorem scanStep_value (s : Scanner) (d : Database) (text : String) :
    Step.Ensures (fun _ => True) (s.scanStep E d text) fun r _ => r.2.stage = s.stage ∧
      ∀ {τ : Type} (E' : Engine τ), r.2.scanStep E' d text = s.scanStep E' d text := by
  have hagain : ∀ {k b : Handle} {data : Text.Bytes} (events : List Event),
      s.toAsk d text = .ok (k, b, data) → ∀ {τ : Type} (E' : Engine τ),
      (s.forget.hear events).scanStep E' d text = s.scanStep E' d text := by
    intro k b data events hask τ E'
    have hask' : (s.forget.hear events).toAsk d text = .ok (k, b, data) := hask
    rw [scanStep, scanStep, hask, hask']
    rfl
  rw [scanStep]
  rcases hask : s.toAsk d text with e | ⟨k, b, data⟩
  · exact .pure fun _ _ => ⟨rfl, fun _ => rfl⟩
  · refine .bind_any fun reply => ?_
    dsimp only
    split
    · exact .pure fun _ _ => ⟨rfl, hagain reply.events hask⟩
    · exact .bind_any fun _ => .pure fun _ _ => ⟨rfl, hagain reply.events hask⟩

end Scanner

namespace Session.Workspace

variable {ws : Workspace}

theorem putDatabase_value (ws : Workspace) (db : String) (d : Database) :
    Step.Ensures (fun _ => True) (ws.putDatabase E db d) fun ws' _ =>
      ws' = { ws with databases := ws.databases.put db d } := by
  rw [putDatabase]
  rcases ws.databases.find? db with _ | old
  · exact .pure fun _ _ => rfl
  · exact .bind_any fun _ => .pure fun _ _ => rfl

theorem putScanner_value (ws : Workspace) (s : String) (sc : Scanner) :
    Step.Ensures (fun _ => True) (ws.putScanner E s sc) fun ws' _ =>
      ws' = { ws with scanners := ws.scanners.put s sc } := by
  rw [putScanner]
  rcases ws.scanners.find? s with _ | old
  · exact .pure fun _ _ => rfl
  · exact .bind_any fun _ => .pure fun _ _ => rfl

/-- What is done with a database is done with the one that has the name. -/
theorem ensures_withDatabase {P : World σ → Prop} {Q : Answer × Workspace → World σ → Prop}
    {db : String} {act : Database → Step σ (Answer × Workspace)}
    (hnone : ∀ w, P w → Q (.noDatabase, ws) w)
    (hact : ∀ d, ws.databases.find? db = some d → Step.Ensures P (act d) Q) :
    Step.Ensures P (ws.withDatabase db act) Q := by
  rw [Workspace.withDatabase]
  rcases hd : ws.databases.find? db with _ | d
  · exact .pure hnone
  · exact hact d hd

/-- The same for scanners. -/
theorem ensures_withScanner {P : World σ → Prop} {Q : Answer × Workspace → World σ → Prop}
    {s : String} {act : Scanner → Step σ (Answer × Workspace)}
    (hnone : ∀ w, P w → Q (.noScanner, ws) w)
    (hact : ∀ sc, ws.scanners.find? s = some sc → Step.Ensures P (act sc) Q) :
    Step.Ensures P (ws.withScanner s act) Q := by
  rw [Workspace.withScanner]
  rcases hs : ws.scanners.find? s with _ | sc
  · exact .pure hnone
  · exact hact sc hs

theorem Effect.withDatabase {op : Operation} {db : String}
    {act : Database → Step σ (Answer × Workspace)}
    (hact : ∀ d, ws.databases.find? db = some d →
      Step.Ensures (fun _ => True) (act d) fun r _ => ws.Effect op r.1 r.2) :
    Step.Ensures (fun _ => True) (ws.withDatabase db act) fun r _ => ws.Effect op r.1 r.2 :=
  ensures_withDatabase (fun _ _ => .none trivial) hact

theorem Effect.withScanner {op : Operation} {s : String}
    {act : Scanner → Step σ (Answer × Workspace)}
    (hact : ∀ sc, ws.scanners.find? s = some sc →
      Step.Ensures (fun _ => True) (act sc) fun r _ => ws.Effect op r.1 r.2) :
    Step.Ensures (fun _ => True) (ws.withScanner s act) fun r _ => ws.Effect op r.1 r.2 :=
  ensures_withScanner (fun _ _ => .none trivial) hact

/-- What is only reported leaves no effect. -/
theorem Effect.report {α : Type} {op : Operation} (act : Act σ α) {f : α → Answer}
    (hf : ∀ a, (f a).Quiet) :
    Step.Ensures (fun _ => True) (ws.report act f) fun r _ => ws.Effect op r.1 r.2 := by
  refine .bind_any fun r => ?_
  rcases r with e | a
  · exact .pure fun _ _ => .none trivial
  · exact .pure fun _ _ => .none (hf a)

/-- **Every operation** has one of the effects, whatever the engine answers. -/
theorem perform_effect (E : Engine σ) (ws : Workspace) (op : Operation) :
    Step.Ensures (fun _ => True) (ws.perform E op) fun r _ => ws.Effect op r.1 r.2 := by
  rcases op with ⟨db, groups, es⟩ | s | ⟨s, db⟩ | ⟨s, db⟩ | ⟨s, db, text⟩ | db | s | s | db | db |
    s | s | db | s | ⟨db, id⟩ | e | e
  case compile =>
    refine .bind_attempt (Database.compile_value groups es) (fun d => ?_)
      fun _ => .pure fun _ _ => .none trivial
    rintro w ⟨hcount, h, rfl⟩
    exact (putDatabase_value ws db ⟨some h, es⟩).bind
      (R := fun (r : Answer × Workspace) _ => ws.Effect (.compile db groups es) r.1 r.2)
      (fun _ => .pure fun _ hws => hws ▸ Effect.compile db groups hcount h) w trivial
  case scanner =>
    exact (putScanner_value ws s _).bind fun _ => .pure fun _ hws => hws ▸ .scanner s
  case scannerFor =>
    refine .withDatabase fun d hd => ?_
    refine .bind_attempt (Scanner.alloc_value .unallocated d) (fun sc => ?_)
      fun _ => .pure fun _ _ => .none trivial
    rintro w ⟨⟨b, hb⟩, -, k, rfl⟩
    exact (putScanner_value ws s ⟨.allocated k, []⟩).bind
      (R := fun (r : Answer × Workspace) _ => ws.Effect (.scannerFor s db) r.1 r.2)
      (fun _ => .pure fun _ hws => hws ▸ Effect.scannerFor hd hb s k) w trivial
  case alloc =>
    refine .withDatabase fun d hd => .withScanner fun sc hs => ?_
    refine .bind_attempt (sc.alloc_value d) (fun sc' => ?_) fun _ => .pure fun _ _ => .none trivial
    rintro w ⟨⟨b, hb⟩, hlive, k, rfl⟩
    exact .alloc hd hb hs hlive k
  case scan =>
    refine .withDatabase fun d hd => .withScanner fun sc hs => ?_
    refine (sc.scanStep_value d text).bind fun (r, sc') => ?_
    rcases r with e | ms
    · exact .pure fun _ hsc => .scan hd hs hsc.1 hsc.2 trivial
    · exact .pure fun _ hsc => .scan hd hs hsc.1 hsc.2 trivial
  case databaseSize => exact .withDatabase fun d _ => .report _ fun _ => trivial
  case scratchSize => exact .withScanner fun sc _ => .report _ fun _ => trivial
  case baseScratchSize => exact .withScanner fun sc _ => .report _ fun _ => trivial
  case closeDatabase =>
    refine .withDatabase fun d hd => d.close_value.bind fun d' => .pure fun _ hd' => ?_
    exact hd' ▸ .closeDatabase hd
  case dropDatabase =>
    exact .withDatabase fun d hd => .bind_any fun _ => .pure fun _ _ => .dropDatabase hd
  case closeScanner =>
    refine .withScanner fun sc hs => sc.close_value.bind fun sc' => .pure fun _ hsc' => ?_
    exact hsc' ▸ .closeScanner hs
  case dropScanner =>
    exact .withScanner fun sc hs => .bind_any fun _ => .pure fun _ _ => .dropScanner hs
  case databaseState => exact .withDatabase fun d _ => .pure fun _ _ => .none trivial
  case scannerState => exact .withScanner fun sc _ => .pure fun _ _ => .none trivial
  case expression => exact .withDatabase fun d _ => .pure fun _ _ => .none trivial
  case info => exact .report _ fun _ => trivial
  case validate => exact .bind_any fun _ => .pure fun _ _ => .none trivial

/-! ## Bystanders -/

variable {ws' : Workspace} {op : Operation} {a : Answer} {s db : String}

theorem find?_scanner_put (ws : Workspace) {s' : String} (hne : s' ≠ s) (sc : Scanner) :
    (ws.scanners.put s' sc).find? s = ws.scanners.find? s := by
  rw [Named.find?_put, if_neg hne.symm]

/-- A scanner that an operation does not name stays as it is. -/
theorem Effect.find?_scanner (h : ws.Effect op a ws') (hop : ¬ op.NamesScanner s) :
    ws'.scanners.find? s = ws.scanners.find? s := by
  rcases h with _ | _ | _ | _ | _ | _ | _ | _ | _ | _
  case none | compile | closeDatabase | dropDatabase => rfl
  case dropScanner s' sc _ => rw [Named.find?_remove, if_neg (Ne.symm hop)]
  all_goals exact find?_scanner_put ws hop _

/-! ## Runs -/

/-- A run of operations with their answers, and the workspace after it. -/
def performEach (E : Engine σ) (ws : Workspace) :
    List Operation → Step σ (List (Operation × Answer) × Workspace)
  | [] => return ([], ws)
  | op :: ops => do
    let (answer, ws) ← ws.perform E op
    let (history, ws) ← ws.performEach E ops
    return ((op, answer) :: history, ws)

theorem performEach_cons (E : Engine σ) (ws : Workspace) (op : Operation) (ops : List Operation)
    (w : World σ) :
    ws.performEach E (op :: ops) w =
      let first := ws.perform E op w
      let rest := first.1.2.performEach E ops first.2
      (((op, first.1.1) :: rest.1.1, rest.1.2), rest.2) := rfl

theorem performEach_append (E : Engine σ) (ws : Workspace) (ops more : List Operation)
    (w : World σ) :
    ws.performEach E (ops ++ more) w =
      let first := ws.performEach E ops w
      let rest := first.1.2.performEach E more first.2
      ((first.1.1 ++ rest.1.1, rest.1.2), rest.2) := by
  induction ops generalizing ws w with
  | nil => rfl
  | cons op ops ih => simp only [List.cons_append, performEach_cons, ih]

/-- The operations of a run are those that it was given. -/
theorem mem_of_mem_performEach {E : Engine σ} {ops : List Operation} {ws : Workspace} {w : World σ}
    {x : Operation × Answer} (h : x ∈ (ws.performEach E ops w).1.1) : x.1 ∈ ops := by
  induction ops generalizing ws w with
  | nil => exact nomatch h
  | cons op ops ih =>
    rw [performEach_cons] at h
    rcases List.mem_cons.1 h with rfl | h
    · exact List.mem_cons_self
    · exact List.mem_cons_of_mem _ (ih h)

/-- **What can be followed through one operation** and its answer can be followed
through a run. -/
theorem performEach_foldl {γ : Type} (view : Workspace → γ) {next : γ → Operation × Answer → γ}
    (hview : ∀ {ws ws' : Workspace} {op : Operation} {a : Answer},
      ws.Effect op a ws' → view ws' = next (view ws) (op, a))
    (E : Engine σ) (ws : Workspace) (ops : List Operation) (w : World σ) :
    view (ws.performEach E ops w).1.2 = (ws.performEach E ops w).1.1.foldl next (view ws) := by
  induction ops generalizing ws w with
  | nil => rfl
  | cons op ops ih =>
    rw [performEach_cons, List.foldl_cons, ← hview (ws.perform_effect E op w trivial)]
    exact ih _ _

/-! ## Failures -/

/-- **An operation that failed** does the same again in the workspace that it has
left as it would have done in the first place. -/
theorem Effect.again {ws' : Workspace} {op : Operation} {e : Error}
    (h : ws.Effect op (.failed e) ws') (E : Engine σ) : ws'.perform E op = ws.perform E op := by
  rcases h with _ | _ | _ | _ | _ | ⟨hd, hs, -, hagain, -⟩
  case none => rfl
  case scan s db text d sc sc' =>
    have hs' : (ws.scanners.put s sc').find? s = some sc' := by rw [Named.find?_put, if_pos rfl]
    simp only [perform, Workspace.withDatabase, hd, Workspace.withScanner, hs, hs', hagain,
      Named.put_put]

end Session.Workspace

end Multiscan
