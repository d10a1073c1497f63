import Multiscan.Proofs.Ledger.Contract
import Multiscan.Proofs.Session.Effect
/-!
# Session — the life cycle of databases and scanners

Where a scanner is in its life, and whether a database is open, is told by the
operations of a run and their answers, and neither ever goes back. What has no
scratch space or no handle is refused without a word to the engine, and a failure
of whatever kind leaves everything where it was (`life_cycle`).
-/

namespace Multiscan

open Engine Session

variable {σ : Type}

/-! ## Where things are in their lives -/

/-- Where a scanner is in its life, whichever scratch space it has. -/
inductive Life
  | unallocated
  | allocated
  | released
  deriving DecidableEq, Repr

namespace Life

/-- Scratch space is given to a scanner that was not closed. -/
def alloc : Life → Life
  | released => released
  | _ => allocated

/-- The ways of a life: scratch space is given once, and everything ends. -/
def Leads (l l' : Life) : Prop := l' = l ∨ (l = unallocated ∧ l' = allocated) ∨ l' = released

theorem Leads.trans {l l' l'' : Life} (h : l.Leads l') (h' : l'.Leads l'') : l.Leads l'' := by
  rcases h with rfl | ⟨rfl, rfl⟩ | rfl
  · exact h'
  · rcases h' with rfl | ⟨h, -⟩ | rfl
    · exact .inr (.inl ⟨rfl, rfl⟩)
    · exact nomatch h
    · exact .inr (.inr rfl)
  · rcases h' with rfl | ⟨h, -⟩ | rfl
    · exact .inr (.inr rfl)
    · exact nomatch h
    · exact .inr (.inr rfl)

theorem leads_alloc (l : Life) : l.Leads l.alloc := by
  cases l
  · exact .inr (.inl ⟨rfl, rfl⟩)
  · exact .inl rfl
  · exact .inl rfl

end Life

/-- Where a scanner is in its life. -/
def Stage.life : Stage → Life
  | .unallocated => .unallocated
  | .allocated _ => .allocated
  | .released => .released

namespace Stage

variable {stage : Stage}

theorem eq_unallocated (h : stage.life = .unallocated) : stage = .unallocated := by
  cases stage <;> first | rfl | cases h

theorem eq_released (h : stage.life = .released) : stage = .released := by
  cases stage <;> first | rfl | cases h

theorem exists_allocated (h : stage.life = .allocated) : ∃ k, stage = .allocated k := by
  cases stage <;> first | exact ⟨_, rfl⟩ | cases h

end Stage

namespace Session

/-- The life of the scanner of a name after an operation with its answer. -/
def lifeAfter (s : String) (life : Option Life) : Operation × Answer → Option Life
  | (.scanner s', .done) => if s' = s then some .unallocated else life
  | (.scannerFor s' _, .done) => if s' = s then some .allocated else life
  | (.alloc s' _, .done) => if s' = s then life.map .alloc else life
  | (.closeScanner s', .done) => if s' = s then life.map fun _ => .released else life
  | (.dropScanner s', .done) => if s' = s then none else life
  | _ => life

/-- Whether the database of a name is open after an operation with its answer. -/
def openAfter (db : String) (isOpen : Option Bool) : Operation × Answer → Option Bool
  | (.compile db' _ _, .length _) => if db' = db then some true else isOpen
  | (.closeDatabase db', .done) => if db' = db then isOpen.map fun _ => false else isOpen
  | (.dropDatabase db', .done) => if db' = db then none else isOpen
  | _ => isOpen

namespace Workspace

variable {ws ws' : Workspace} {op : Operation} {a : Answer}

/-- Where the scanner of a name is in its life. -/
def life? (ws : Workspace) (s : String) : Option Life :=
  (ws.scanners.find? s).map fun sc => sc.stage.life

/-- Whether the database of a name is open. -/
def open? (ws : Workspace) (db : String) : Option Bool :=
  (ws.databases.find? db).map fun d => !d.isClosed

/-! ## Through one operation -/

theorem lifeAfter_of_quiet (ha : a.Quiet) (s : String) (life : Option Life) (op : Operation) :
    lifeAfter s life (op, a) = life := by
  cases op <;> cases a <;> first | rfl | exact ha.elim

theorem openAfter_of_quiet (ha : a.Quiet) (db : String) (isOpen : Option Bool) (op : Operation) :
    openAfter db isOpen (op, a) = isOpen := by
  cases op <;> cases a <;> first | rfl | exact ha.elim

/-- A scanner put under a name has its life there. -/
theorem life?_putScanner (ws : Workspace) (s' : String) (sc : Scanner) (s : String) :
    life? { ws with scanners := ws.scanners.put s' sc } s =
      if s' = s then some sc.stage.life else ws.life? s := by
  rw [life?, Named.find?_put]
  by_cases h : s = s'
  · rw [if_pos h, if_pos h.symm]
    rfl
  · rw [if_neg h, if_neg (Ne.symm h)]
    rfl

theorem open?_putDatabase (ws : Workspace) (db' : String) (d : Database) (db : String) :
    open? { ws with databases := ws.databases.put db' d } db =
      if db' = db then some (!d.isClosed) else ws.open? db := by
  rw [open?, Named.find?_put]
  by_cases h : db = db'
  · rw [if_pos h, if_pos h.symm]
    rfl
  · rw [if_neg h, if_neg (Ne.symm h)]
    rfl

theorem life?_of_find? {s : String} {sc : Scanner} (hs : ws.scanners.find? s = some sc) :
    ws.life? s = some sc.stage.life := by
  rw [life?, hs]
  rfl

theorem open?_of_find? {db : String} {d : Database} (hd : ws.databases.find? db = some d) :
    ws.open? db = some (!d.isClosed) := by
  rw [open?, hd]
  rfl

theorem life?_removeScanner (ws : Workspace) (s' s : String) :
    life? { ws with scanners := ws.scanners.remove s' } s =
      if s' = s then none else ws.life? s := by
  rw [life?, Named.find?_remove]
  by_cases h : s = s'
  · rw [if_pos h, if_pos h.symm]
    rfl
  · rw [if_neg h, if_neg (Ne.symm h)]
    rfl

theorem open?_removeDatabase (ws : Workspace) (db' db : String) :
    open? { ws with databases := ws.databases.remove db' } db =
      if db' = db then none else ws.open? db := by
  rw [open?, Named.find?_remove]
  by_cases h : db = db'
  · rw [if_pos h, if_pos h.symm]
    rfl
  · rw [if_neg h, if_neg (Ne.symm h)]
    rfl

/-- **The life of a scanner** goes on as the operation and its answer tell. -/
theorem Effect.life (h : ws.Effect op a ws') (s : String) :
    ws'.life? s = lifeAfter s (ws.life? s) (op, a) := by
  rcases h with ha | ⟨db, groups, hcount, h⟩ | s' | ⟨hd, hb, s', k⟩ | ⟨hd, hb, hs, hlive, k⟩ |
    ⟨hd, hs, hstage, -, ha⟩ | hd | hd | hs | hs
  case none => exact (lifeAfter_of_quiet ha s _ op).symm
  case compile => rfl
  case scanner => exact life?_putScanner ws s' _ s
  case scannerFor => exact life?_putScanner ws s' _ s
  case alloc s' db d b sc =>
    rw [life?_putScanner, lifeAfter]
    split
    · next heq =>
      subst heq
      rw [life?_of_find? hs, Option.map_some]
      rcases hstage : sc.stage with _ | k' | _
      · rfl
      · rfl
      · exact absurd hstage hlive
    · rfl
  case scan s' db text d sc sc' =>
    rw [life?_putScanner, lifeAfter_of_quiet ha]
    split
    · next heq => rw [← heq, life?_of_find? hs, hstage]
    · rfl
  case closeDatabase => rfl
  case dropDatabase => rfl
  case closeScanner s' sc =>
    rw [life?_putScanner, lifeAfter]
    split
    · next heq =>
      rw [← heq, life?_of_find? hs]
      rfl
    · rfl
  case dropScanner s' sc => exact life?_removeScanner ws s' s

/-- **Whether a database is open** is told in the same way. -/
theorem Effect.isOpen (h : ws.Effect op a ws') (db : String) :
    ws'.open? db = openAfter db (ws.open? db) (op, a) := by
  rcases h with ha | ⟨db', groups, hcount, h⟩ | s | ⟨hd, hb, s, k⟩ | ⟨hd, hb, hs, hlive, k⟩ |
    ⟨hd, hs, hstage, -, ha⟩ | hd | hd | hs | hs
  case none => exact (openAfter_of_quiet ha db _ op).symm
  case compile => exact open?_putDatabase ws db' _ db
  case scan => exact (openAfter_of_quiet ha db _ _).symm
  case closeDatabase db' d =>
    rw [open?_putDatabase, openAfter]
    split
    · next heq =>
      rw [← heq, open?_of_find? hd]
      rfl
    · rfl
  case dropDatabase db' d => exact open?_removeDatabase ws db' db
  all_goals rfl

/-! ## Neither goes back -/

/-- An operation leads a scanner that it does not replace on its way. -/
theorem leads_lifeAfter {s : String} (life : Life) (hop : ¬ op.ReplacesScanner s) (a : Answer) :
    ∃ life', lifeAfter s (some life) (op, a) = some life' ∧ life.Leads life' := by
  by_cases ha : a.Quiet
  · exact ⟨life, lifeAfter_of_quiet ha s _ op, .inl rfl⟩
  rcases a with _ | n | _ | _ | _ | _ | _ | _ | _ | _ | _ | _ | _ <;>
    try exact absurd trivial ha
  case length => exact ⟨life, by cases op <;> rfl, .inl rfl⟩
  case done =>
    cases op
    case scanner s' => exact ⟨life, if_neg hop, .inl rfl⟩
    case scannerFor s' db => exact ⟨life, if_neg hop, .inl rfl⟩
    case dropScanner s' => exact ⟨life, if_neg hop, .inl rfl⟩
    case alloc s' db =>
      by_cases hs : s' = s
      · exact ⟨life.alloc, if_pos hs, life.leads_alloc⟩
      · exact ⟨life, if_neg hs, .inl rfl⟩
    case closeScanner s' =>
      by_cases hs : s' = s
      · exact ⟨.released, if_pos hs, .inr (.inr rfl)⟩
      · exact ⟨life, if_neg hs, .inl rfl⟩
    all_goals exact ⟨life, rfl, .inl rfl⟩

/-- A database that is closed stays closed unless it is replaced. -/
theorem openAfter_of_closed {db : String} (hop : ¬ op.ReplacesDatabase db) (a : Answer) :
    openAfter db (some false) (op, a) = some false := by
  by_cases ha : a.Quiet
  · exact openAfter_of_quiet ha db _ op
  rcases a with _ | n | _ | _ | _ | _ | _ | _ | _ | _ | _ | _ | _ <;>
    try exact absurd trivial ha
  case length =>
    cases op
    case compile db' groups es => exact if_neg hop
    all_goals rfl
  case done =>
    cases op
    case closeDatabase db' => exact ite_self _
    case dropDatabase db' => exact if_neg hop
    all_goals rfl

/-- **A scanner goes on its way** through a run that does not replace it. -/
theorem leads_foldl {s : String} {history : List (Operation × Answer)}
    (h : ∀ x ∈ history, ¬ x.1.ReplacesScanner s) (life : Life) :
    ∃ life', history.foldl (lifeAfter s) (some life) = some life' ∧ life.Leads life' := by
  induction history generalizing life with
  | nil => exact ⟨life, rfl, .inl rfl⟩
  | cons x history ih =>
    obtain ⟨hx, hrest⟩ := List.forall_mem_cons.1 h
    obtain ⟨life', hlife', hleads⟩ := leads_lifeAfter life hx x.2
    obtain ⟨life'', hlife'', hleads'⟩ := ih hrest life'
    exact ⟨life'', by rw [List.foldl_cons, hlife', hlife''], hleads.trans hleads'⟩

/-- **A closed database** stays closed through a run that does not replace it. -/
theorem closed_foldl {db : String} {history : List (Operation × Answer)}
    (h : ∀ x ∈ history, ¬ x.1.ReplacesDatabase db) :
    history.foldl (openAfter db) (some false) = some false := by
  induction history with
  | nil => rfl
  | cons x history ih =>
    obtain ⟨hx, hrest⟩ := List.forall_mem_cons.1 h
    rw [List.foldl_cons, openAfter_of_closed hx, ih hrest]

/-! ## Refusals -/

/-- An operation is refused in a workspace: something that it needs was closed, or is
not there yet. -/
inductive Refuses (ws : Workspace) : Operation → Error → Prop
  | databaseSize {db : String} (hd : ws.open? db = some false) :
    Refuses ws (.databaseSize db) (.released .database)
  | scannerFor {db : String} (hd : ws.open? db = some false) (s : String) :
    Refuses ws (.scannerFor s db) (.released .database)
  | allocForClosed {s db : String} {life : Life} (hd : ws.open? db = some false)
    (hs : ws.life? s = some life) : Refuses ws (.alloc s db) (.released .database)
  | allocToReleased {s db : String} (hd : ws.open? db = some true)
    (hs : ws.life? s = some .released) : Refuses ws (.alloc s db) (.released .scratch)
  | scanUnallocated {s db : String} {isOpen : Bool} (hd : ws.open? db = some isOpen)
    (hs : ws.life? s = some .unallocated) (text : String) :
    Refuses ws (.scan s db text) .notAllocated
  | scanReleased {s db : String} {isOpen : Bool} (hd : ws.open? db = some isOpen)
    (hs : ws.life? s = some .released) (text : String) :
    Refuses ws (.scan s db text) (.released .scratch)
  | scanClosed {s db : String} (hd : ws.open? db = some false)
    (hs : ws.life? s = some .allocated) (text : String) :
    Refuses ws (.scan s db text) (.released .database)
  | scratchSize {s : String} {life : Life} (hs : ws.life? s = some life)
    (hlife : life ≠ .allocated) : Refuses ws (.scratchSize s) (.released .scratch)
  | baseScratchSize {s : String} {life : Life} (hs : ws.life? s = some life)
    (hlife : life ≠ .allocated) : Refuses ws (.baseScratchSize s) (.released .scratch)

theorem exists_scanner {s : String} {life : Life} (h : ws.life? s = some life) :
    ∃ sc, ws.scanners.find? s = some sc ∧ sc.stage.life = life :=
  Option.map_eq_some_iff.1 h

theorem exists_database {db : String} {isOpen : Bool} (h : ws.open? db = some isOpen) :
    ∃ d, ws.databases.find? db = some d ∧ d.isClosed = !isOpen := by
  obtain ⟨d, hd, hopen⟩ := Option.map_eq_some_iff.1 h
  exact ⟨d, hd, by rw [← hopen, Bool.not_not]⟩

/-- A database that is closed has no handle to give. -/
theorem handle?_of_closed {d : Database} (hd : d.isClosed = true) :
    d.handle? = .error (.released .database) := by
  rcases d with ⟨_ | h, es⟩
  · rfl
  · exact absurd hd Bool.false_ne_true

/-- A scanner without scratch space has nothing to measure. -/
theorem toMeasure_of_not_allocated {sc : Scanner} (h : sc.stage.life ≠ .allocated) :
    sc.toMeasure = .error (.released .scratch) := by
  rcases sc with ⟨_ | k | _, events⟩
  · rfl
  · exact absurd rfl h
  · rfl

/-- A scan with nothing to ask for is refused at once. -/
theorem perform_scan_of_error {s db text : String} {d : Database} {sc : Scanner} {e : Error}
    (hd : ws.databases.find? db = some d) (hs : ws.scanners.find? s = some sc)
    (hask : sc.toAsk d text = .error e) (E : Engine σ) (w : World σ) :
    (ws.perform E (.scan s db text) w).1.1 = .failed e ∧
      (ws.perform E (.scan s db text) w).2 = w := by
  simp only [Workspace.perform, withDatabase, hd, withScanner, hs, Scanner.scanStep, hask]
  exact ⟨rfl, rfl⟩

/-- **What is refused is refused at once**, without a word to the engine. -/
theorem Refuses.perform {e : Error} (h : ws.Refuses op e) (E : Engine σ) (w : World σ) :
    (ws.perform E op w).1.1 = .failed e ∧ (ws.perform E op w).2 = w := by
  rcases h with hd | ⟨hd, s⟩ | ⟨hd, hs⟩ | ⟨hd, hs⟩ | ⟨hd, hs, text⟩ | ⟨hd, hs, text⟩ |
    ⟨hd, hs, text⟩ | ⟨hs, hlife⟩ | ⟨hs, hlife⟩
  case databaseSize =>
    obtain ⟨d, hd, hd'⟩ := exists_database hd
    simp only [Workspace.perform, withDatabase, hd, Database.size, handle?_of_closed hd']
    exact ⟨rfl, rfl⟩
  case scannerFor =>
    obtain ⟨d, hd, hd'⟩ := exists_database hd
    simp only [Workspace.perform, withDatabase, hd, Scanner.ofDatabase, Scanner.alloc,
      handle?_of_closed hd']
    exact ⟨rfl, rfl⟩
  case allocForClosed =>
    obtain ⟨d, hd, hd'⟩ := exists_database hd
    obtain ⟨sc, hs, -⟩ := exists_scanner hs
    simp only [Workspace.perform, withDatabase, hd, withScanner, hs, Scanner.alloc,
      handle?_of_closed hd']
    exact ⟨rfl, rfl⟩
  case allocToReleased =>
    obtain ⟨d, hd, hd'⟩ := exists_database hd
    obtain ⟨sc, hs, hsc⟩ := exists_scanner hs
    have hhandle : ∃ b, d.handle? = .ok b := by
      rcases d with ⟨_ | b, es⟩
      · exact absurd hd'.symm Bool.false_ne_true
      · exact ⟨b, rfl⟩
    obtain ⟨b, hb⟩ := hhandle
    have hgrow : sc.toGrow = .error (.released .scratch) := by
      rw [Scanner.toGrow, Stage.eq_released hsc]
    simp only [Workspace.perform, withDatabase, hd, withScanner, hs, Scanner.alloc, hb, hgrow]
    exact ⟨rfl, rfl⟩
  case scanUnallocated =>
    obtain ⟨d, hd, -⟩ := exists_database hd
    obtain ⟨sc, hs, hsc⟩ := exists_scanner hs
    refine perform_scan_of_error hd hs ?_ E w
    rw [Scanner.toAsk, Scanner.toScan, Stage.eq_unallocated hsc]
    rfl
  case scanReleased =>
    obtain ⟨d, hd, -⟩ := exists_database hd
    obtain ⟨sc, hs, hsc⟩ := exists_scanner hs
    refine perform_scan_of_error hd hs ?_ E w
    rw [Scanner.toAsk, Scanner.toScan, Stage.eq_released hsc]
    rfl
  case scanClosed =>
    obtain ⟨d, hd, hd'⟩ := exists_database hd
    obtain ⟨sc, hs, hsc⟩ := exists_scanner hs
    obtain ⟨k, hk⟩ := Stage.exists_allocated hsc
    refine perform_scan_of_error hd hs ?_ E w
    rw [Scanner.toAsk, Scanner.toScan, hk, handle?_of_closed hd']
    rfl
  case scratchSize =>
    obtain ⟨sc, hs, hsc⟩ := exists_scanner hs
    simp only [Workspace.perform, withScanner, hs, Scanner.scratchSize,
      toMeasure_of_not_allocated (hsc ▸ hlife)]
    exact ⟨rfl, rfl⟩
  case baseScratchSize =>
    obtain ⟨sc, hs, hsc⟩ := exists_scanner hs
    simp only [Workspace.perform, withScanner, hs, Scanner.baseScratchSize,
      toMeasure_of_not_allocated (hsc ▸ hlife)]
    exact ⟨rfl, rfl⟩

/-! ## Failures -/

/-- **A failure leaves everything where it was**: every database, and the stage of
every scanner. -/
theorem Effect.keeps {e : Error} (h : ws.Effect op (.failed e) ws') :
    ws'.databases = ws.databases ∧ ∀ s, (ws'.scanners.find? s).map Scanner.stage =
      (ws.scanners.find? s).map Scanner.stage := by
  rcases h with _ | _ | _ | _ | _ | ⟨hd, hs, hstage, -, -⟩
  case none => exact ⟨rfl, fun _ => rfl⟩
  case scan s' db text d sc sc' =>
    refine ⟨rfl, fun s => ?_⟩
    rw [Named.find?_put]
    by_cases heq : s = s'
    · rw [if_pos heq, heq, hs, Option.map_some, Option.map_some, hstage]
    · rw [if_neg heq]

/-! ## The life cycle -/

/-- **The life cycle**, for every engine and every run of operations. Where a scanner
is in its life, and whether a database is open, is told by the operations and
their answers. As long as they are not replaced, the scanner only goes on its way,
and the database stays closed if it is closed. After the run, an operation that
needs what was closed, or is not there yet, is refused without a word to the
engine. And one that fails, in whatever way, leaves every database, and the stage of
every scanner, as it was, and does the same again when it is repeated. -/
theorem life_cycle (E : Engine σ) (ws : Workspace) (ops : List Operation)
    (w : World (σ × Transcript)) :
    let done := ws.performEach E.recorded ops w
    let history := done.1.1
    let ws' := done.1.2
    let w' := done.2
    (∀ s, ws'.life? s = history.foldl (lifeAfter s) (ws.life? s)) ∧
    (∀ db, ws'.open? db = history.foldl (openAfter db) (ws.open? db)) ∧
    (∀ s life, ws.life? s = some life → (∀ op ∈ ops, ¬ op.ReplacesScanner s) →
      ∃ life', ws'.life? s = some life' ∧ life.Leads life') ∧
    (∀ db, ws.open? db = some false → (∀ op ∈ ops, ¬ op.ReplacesDatabase db) →
      ws'.open? db = some false) ∧
    (∀ op e, ws'.Refuses op e →
      (ws'.perform E.recorded op w').1.1 = .failed e ∧ (ws'.perform E.recorded op w').2 = w') ∧
    (∀ op e, (ws'.perform E.recorded op w').1.1 = .failed e →
      let ws'' := (ws'.perform E.recorded op w').1.2
      ws''.databases = ws'.databases ∧
        (∀ s, (ws''.scanners.find? s).map Scanner.stage =
          (ws'.scanners.find? s).map Scanner.stage) ∧
        ws''.perform E.recorded op = ws'.perform E.recorded op) := by
  intro done history ws' w'
  have hlife : ∀ s, ws'.life? s = history.foldl (lifeAfter s) (ws.life? s) := fun s =>
    performEach_foldl (life? · s) (fun h => h.life s) E.recorded ws ops w
  have hopen : ∀ db, ws'.open? db = history.foldl (openAfter db) (ws.open? db) := fun db =>
    performEach_foldl (open? · db) (fun h => h.isOpen db) E.recorded ws ops w
  refine ⟨hlife, hopen, ?_, ?_, fun op e h => h.perform _ w', ?_⟩
  · intro s life hs hops
    rw [hlife, hs]
    exact leads_foldl (fun x hx => hops x.1 (mem_of_mem_performEach hx)) life
  · intro db hdb hops
    rw [hopen, hdb]
    exact closed_foldl fun x hx => hops x.1 (mem_of_mem_performEach hx)
  · intro op e h
    have heffect := ws'.perform_effect E.recorded op w' trivial
    dsimp only at heffect
    rw [h] at heffect
    exact ⟨heffect.keeps.1, heffect.keeps.2, heffect.again E.recorded⟩

/-- An engine that grants everything. -/
def granting : Engine Unit where
  version := "granting"
  label := "Granting"
  runsHere := true
  answer
    | .compile _ _ => pure ⟨Code.success, some 0, none⟩
    | .info _ _ => pure ⟨Code.success, some (0, ⟨0, 0, false, false, false⟩), none⟩
    | .allocScratch _ _ => pure ⟨Code.success, some 0⟩
    | .databaseSize _ | .scratchSize _ | .baseScratchSize _ => pure ⟨Code.success, 0⟩
    | .scan _ _ _ => pure ⟨Code.success, []⟩
    | .freeInfo _ => pure ()
    | .freeDatabase _ | .freeScratch _ | .freeError _ _ => pure Code.success

/-- A scanner with scratch space for a database that was closed since: a scan is
refused, leaves everything as it is, and is refused again; and closing the scanner
leads it on. -/
theorem life_cycle_of_granting :
    let E := granting.recorded
    let made := empty.performEach E [.compile "db" false [.ofPattern "a" .empty], .scanner "s",
      .alloc "s" "db", .closeDatabase "db"] (.start ((), []))
    let ws := made.1.2
    let scanned := ws.perform E (.scan "s" "db" "a") made.2
    let closed := ws.performEach E [.closeScanner "s", .databaseSize "db"] made.2
    ws.life? "s" = some .allocated ∧ ws.open? "db" = some false ∧
      scanned.1.1 = .failed (.released .database) ∧ scanned.2 = made.2 ∧
      scanned.1.2.databases = ws.databases ∧
      scanned.1.2.perform E (.scan "s" "db" "a") = ws.perform E (.scan "s" "db" "a") ∧
      (∃ life, closed.1.2.life? "s" = some life ∧ Life.allocated.Leads life) ∧
      closed.1.2.open? "db" = some false := by
  intro E made ws scanned closed
  have hlife : ws.life? "s" = some .allocated := by decide +kernel
  have hopen : ws.open? "db" = some false := by decide +kernel
  have hspared : ∀ op ∈ [Operation.closeScanner "s", .databaseSize "db"],
      ¬ op.ReplacesScanner "s" ∧ ¬ op.ReplacesDatabase "db" := by
    intro op hop
    rcases List.mem_cons.1 hop with rfl | hop
    · exact ⟨id, id⟩
    · rw [List.mem_singleton.1 hop]
      exact ⟨id, id⟩
  clear_value made
  obtain ⟨-, -, -, -, hrefused, hkept⟩ := life_cycle granting ws [] made.2
  obtain ⟨hfailed, hsame⟩ := hrefused _ _ (.scanClosed hopen hlife "a")
  obtain ⟨hdatabases, -, hagain⟩ := hkept _ _ hfailed
  obtain ⟨-, -, hleads, hstays, -⟩ :=
    life_cycle granting ws [.closeScanner "s", .databaseSize "db"] made.2
  exact ⟨hlife, hopen, hfailed, hsame, hdatabases, hagain,
    hleads "s" _ hlife fun op hop => (hspared op hop).1,
    hstays "db" hopen fun op hop => (hspared op hop).2⟩

end Workspace

end Session

end Multiscan
