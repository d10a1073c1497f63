import Multiscan.Proofs.Custody.Workspace
import Multiscan.Proofs.Ledger.Contract
/-!
# Ledger — writing down changes nothing

Operations see an engine only through its replies. So if one engine answers
as another does, its own state put aside, every operation does with the one
what it does with the other. An engine that is recorded is such a one.
-/

namespace Multiscan

variable {σ τ α β : Type} {f : τ → σ} {E' : Engine τ} {E : Engine σ}

/-- One engine answers as another does, seen through a function between
their states. -/
def Engine.Mirrors (f : τ → σ) (E' : Engine τ) (E : Engine σ) : Prop :=
  ∀ r s, E.answer r (f s) = Prod.map id f (E'.answer r s)

/-- Another state for the engine of a world. -/
def World.map (f : τ → σ) (w : World τ) : World σ := ⟨f w.engine, w.notes⟩

/-- One operation does as another does, seen through a function between the
states of their engines. -/
def Step.Mirrors (f : τ → σ) (a : Step τ α) (b : Step σ α) : Prop :=
  ∀ w, b (w.map f) = Prod.map id (World.map f) (a w)

/-- The same for operations that can fail. -/
def Act.Mirrors (f : τ → σ) (a : Act τ α) (b : Act σ α) : Prop :=
  Step.Mirrors f a.attempt b.attempt

/-! ## Parts of operations -/

namespace Step.Mirrors

protected theorem pure (x : α) : Mirrors f (pure x) (pure x) := fun _ => rfl

protected theorem bind {a : Step τ α} {b : Step σ α} {g : α → Step τ β} {h : α → Step σ β}
    (ha : Mirrors f a b) (hg : ∀ x, Mirrors f (g x) (h x)) : Mirrors f (a >>= g) (b >>= h) := by
  intro w
  rw [Step.bind_apply, Step.bind_apply, ha w]
  exact hg _ _

protected theorem note (n : Note) : Mirrors f (World.note n) (World.note n) := fun _ => rfl

protected theorem ask (hE : Engine.Mirrors f E' E) (r : Engine.Request) :
    Mirrors f (World.ask E' r) (World.ask E r) := by
  intro w
  change ((E.answer r (f w.engine)).1, (⟨(E.answer r (f w.engine)).2, w.notes⟩ : World σ)) = _
  rw [hE]
  rfl

end Step.Mirrors

namespace Act.Mirrors

protected theorem pure (x : α) : Mirrors f (pure x) (pure x) := fun _ => rfl

protected theorem throw (e : Error) : Mirrors f (throw e : Act τ α) (throw e : Act σ α) := fun _ => rfl

protected theorem ofExcept (x : Except Error α) : Mirrors f (ofExcept x) (ofExcept x) := fun _ => rfl

protected theorem note (n : Note) : Mirrors f (note n) (note n) := fun _ => rfl

protected theorem lift {a : Step τ α} {b : Step σ α} (h : Step.Mirrors f a b) :
    Mirrors f (liftM a) (liftM b) := by
  intro w
  change (Except.ok (b (w.map f)).1, (b (w.map f)).2) = _
  rw [h w]
  rfl

protected theorem bind {a : Act τ α} {b : Act σ α} {g : α → Act τ β} {h : α → Act σ β}
    (ha : Mirrors f a b) (hg : ∀ x, Mirrors f (g x) (h x)) : Mirrors f (a >>= g) (b >>= h) := by
  rw [Mirrors, attempt, attempt, ExceptT.run_bind, ExceptT.run_bind]
  refine Step.Mirrors.bind ha fun x => ?_
  rcases x with e | x
  · exact .pure _
  · exact hg x

end Act.Mirrors

/-! ## Operations -/

section

variable (hE : Engine.Mirrors f E' E)
include hE

theorem takeRecord_mirrors (v : Variant) (e : Engine.ErrorRecord) :
    (takeRecord E' v e).Mirrors f (takeRecord E v e) := by
  refine .bind (.ask hE _) fun code => ?_
  dsimp only
  split
  · exact .bind (.note _) fun _ => .pure _
  · exact .pure _

namespace Database

theorem refusal_mirrors (first : Expression) (rest : List Expression)
    (reply : Engine.CompileReply) :
    (refusal E' first rest reply).Mirrors f (refusal E first rest reply) := by
  rcases reply with ⟨code, database, _ | record⟩
  · exact .pure _
  · refine .bind (takeRecord_mirrors hE _ record) fun (message, index) => ?_
    dsimp only
    split
    · exact .bind (.note _) fun _ => .pure _
    · exact .pure _

theorem compile_mirrors (groups : Bool) (es : List Expression) :
    (compile E' groups es).Mirrors f (compile E groups es) := by
  rcases es with _ | ⟨first, rest⟩
  · exact .throw _
  rw [compile, compile]
  dsimp only
  split
  · exact .throw _
  refine .bind (.ofExcept _) fun batch => .bind (.lift (.ask hE _)) fun reply => ?_
  rcases reply with ⟨code, _ | h, error⟩ <;> dsimp only <;> split
  · exact .bind (.lift (refusal_mirrors hE first rest _)) fun _ => .throw _
  · exact .throw _
  · exact .bind (.lift (refusal_mirrors hE first rest _)) fun _ => .throw _
  · exact .bind (.note _) fun _ => .pure _

theorem size_mirrors (d : Database) : (d.size E').Mirrors f (d.size E) := by
  refine .bind (.ofExcept _) fun h => .bind (.lift (.ask hE _)) fun reply => ?_
  dsimp only
  split
  · exact .throw _
  · exact .pure _

theorem close_mirrors (d : Database) : (d.close E').Mirrors f (d.close E) := by
  rcases d with ⟨_ | h, es⟩
  · exact .pure _
  · refine .bind (.ask hE _) fun code => ?_
    dsimp only
    split <;> exact .bind (.note _) fun _ => .pure _

end Database

namespace Scanner

theorem alloc_mirrors (s : Scanner) (d : Database) :
    (s.alloc E' d).Mirrors f (s.alloc E d) := by
  refine .bind (.ofExcept _) fun database => .bind (.ofExcept _) fun scratch =>
    .bind (.lift (.ask hE _)) fun reply => ?_
  rcases reply with ⟨code, _ | h⟩ <;> dsimp only <;> split
  · exact .throw _
  · exact .throw _
  · exact .throw _
  · exact .bind (.note _) fun _ => .pure _

theorem sizes_mirror (s : Scanner) :
    (s.scratchSize E').Mirrors f (s.scratchSize E) ∧
      (s.baseScratchSize E').Mirrors f (s.baseScratchSize E) := by
  constructor <;>
    refine .bind (.ofExcept _) fun h => .bind (.lift (.ask hE _)) fun reply => ?_ <;>
    dsimp only <;>
    split
  · exact .throw _
  · exact .pure _
  · exact .throw _
  · exact .pure _

theorem close_mirrors (s : Scanner) : (s.close E').Mirrors f (s.close E) := by
  rcases s with ⟨_ | h | _, events⟩
  · exact .pure _
  · refine .bind (.ask hE _) fun code => ?_
    dsimp only
    split <;> exact .bind (.note _) fun _ => .pure _
  · exact .pure _

theorem scanStep_mirrors (s : Scanner) (d : Database) (text : String) :
    (s.scanStep E' d text).Mirrors f (s.scanStep E d text) := by
  rw [scanStep, scanStep]
  rcases s.toAsk d text with e | ⟨scratch, database, data⟩
  · exact .pure _
  · refine .bind (.ask hE _) fun reply => ?_
    dsimp only
    split
    · exact .pure _
    · exact .bind (.note _) fun _ => .pure _

end Scanner

namespace Expression

theorem info_mirrors (e : Expression) : (e.info E').Mirrors f (e.info E) := by
  refine .bind (.ofExcept _) fun flags => .bind (.ofExcept _) fun pattern =>
    .bind (.lift (.ask hE _)) fun reply => ?_
  rcases reply with ⟨code, _ | ⟨h, raw⟩, _ | record⟩ <;> dsimp only <;> split
  · exact .throw _
  · exact .throw _
  · exact .bind (.lift (takeRecord_mirrors hE _ record)) fun _ => .throw _
  · exact .throw _
  · exact .throw _
  · exact .bind (.lift (.ask hE _)) fun _ => .pure _
  · exact .bind (.lift (takeRecord_mirrors hE _ record)) fun _ => .throw _
  · exact .bind (.lift (.ask hE _)) fun _ => .pure _

theorem validate_mirrors (e : Expression) : (e.validate E').Mirrors f (e.validate E) := by
  have hbase : (e.judgeBase E').Mirrors f (e.judgeBase E) :=
    .bind (info_mirrors hE e) fun r => by rcases r with e | i <;> exact .pure _
  have hextended : (e.judgeExtended E').Mirrors f (e.judgeExtended E) :=
    .bind (Database.compile_mirrors hE true [e]) fun r => by
      rcases r with e | d
      · exact .pure _
      · exact .bind (Database.close_mirrors hE d) fun _ => .pure _
  exact .bind hbase fun _ => .bind hextended fun _ => .pure _

end Expression

namespace Session.Workspace

theorem putDatabase_mirrors (ws : Workspace) (db : String) (d : Database) :
    (ws.putDatabase E' db d).Mirrors f (ws.putDatabase E db d) := by
  rw [putDatabase, putDatabase]
  rcases ws.databases.find? db with _ | old
  · exact .pure _
  · exact .bind (Database.close_mirrors hE old) fun _ => .pure _

theorem putScanner_mirrors (ws : Workspace) (s : String) (sc : Scanner) :
    (ws.putScanner E' s sc).Mirrors f (ws.putScanner E s sc) := by
  rw [putScanner, putScanner]
  rcases ws.scanners.find? s with _ | old
  · exact .pure _
  · exact .bind (Scanner.close_mirrors hE old) fun _ => .pure _

omit hE in
theorem report_mirrors (ws : Workspace) {a : Act τ α} {b : Act σ α} (h : a.Mirrors f b)
    (g : α → Answer) : (ws.report a g).Mirrors f (ws.report b g) :=
  .bind h fun r => by rcases r with e | x <;> exact .pure _

omit hE in
theorem withDatabase_mirrors (ws : Workspace) (db : String)
    {a : Database → Step τ (Answer × Workspace)} {b : Database → Step σ (Answer × Workspace)}
    (h : ∀ d, (a d).Mirrors f (b d)) : (ws.withDatabase db a).Mirrors f (ws.withDatabase db b) := by
  rw [withDatabase, withDatabase]
  rcases ws.databases.find? db with _ | d
  · exact .pure _
  · exact h d

omit hE in
theorem withScanner_mirrors (ws : Workspace) (s : String)
    {a : Scanner → Step τ (Answer × Workspace)} {b : Scanner → Step σ (Answer × Workspace)}
    (h : ∀ sc, (a sc).Mirrors f (b sc)) : (ws.withScanner s a).Mirrors f (ws.withScanner s b) := by
  rw [withScanner, withScanner]
  rcases ws.scanners.find? s with _ | sc
  · exact .pure _
  · exact h sc

/-- **One operation** does the same with both engines. -/
theorem perform_mirrors (ws : Workspace) (op : Operation) :
    (ws.perform E' op).Mirrors f (ws.perform E op) := by
  rcases op with ⟨db, groups, es⟩ | s | ⟨s, db⟩ | ⟨s, db⟩ | ⟨s, db, text⟩ | db | s | s | db | db | s |
    s | db | s | ⟨db, id⟩ | e | e
  case compile =>
    refine .bind (Database.compile_mirrors hE groups es) fun r => ?_
    rcases r with e | d
    · exact .pure _
    · exact .bind (putDatabase_mirrors hE ws db d) fun _ => .pure _
  case scanner => exact .bind (putScanner_mirrors hE ws s _) fun _ => .pure _
  case scannerFor =>
    refine withDatabase_mirrors ws db fun d => .bind (Scanner.alloc_mirrors hE _ d) fun r => ?_
    rcases r with e | sc
    · exact .pure _
    · exact .bind (putScanner_mirrors hE ws s sc) fun _ => .pure _
  case alloc =>
    refine withDatabase_mirrors ws db fun d => withScanner_mirrors ws s fun sc =>
      .bind (Scanner.alloc_mirrors hE sc d) fun r => ?_
    rcases r with e | sc' <;> exact .pure _
  case scan =>
    refine withDatabase_mirrors ws db fun d => withScanner_mirrors ws s fun sc =>
      .bind (Scanner.scanStep_mirrors hE sc d text) fun (r, sc') => ?_
    rcases r with e | ms <;> exact .pure _
  case databaseSize =>
    exact withDatabase_mirrors ws db fun d => report_mirrors ws (Database.size_mirrors hE d) _
  case scratchSize =>
    exact withScanner_mirrors ws s fun sc => report_mirrors ws (Scanner.sizes_mirror hE sc).1 _
  case baseScratchSize =>
    exact withScanner_mirrors ws s fun sc => report_mirrors ws (Scanner.sizes_mirror hE sc).2 _
  case closeDatabase | dropDatabase =>
    exact withDatabase_mirrors ws db fun d => .bind (Database.close_mirrors hE d) fun _ => .pure _
  case closeScanner | dropScanner =>
    exact withScanner_mirrors ws s fun sc => .bind (Scanner.close_mirrors hE sc) fun _ => .pure _
  case databaseState | expression => exact withDatabase_mirrors ws db fun _ => .pure _
  case scannerState => exact withScanner_mirrors ws s fun _ => .pure _
  case info => exact report_mirrors ws (Expression.info_mirrors hE e) _
  case validate => exact .bind (Expression.validate_mirrors hE e) fun _ => .pure _

theorem closeAll_mirrors (ws : Workspace) : (ws.closeAll E').Mirrors f (ws.closeAll E) := by
  have hscanners : ∀ ns, (closeScanners E' ns).Mirrors f (closeScanners E ns) := by
    intro ns
    induction ns with
    | nil => exact .pure _
    | cons head rest ih => exact .bind (Scanner.close_mirrors hE head.2) fun _ => ih
  have hdatabases : ∀ ns, (closeDatabases E' ns).Mirrors f (closeDatabases E ns) := by
    intro ns
    induction ns with
    | nil => exact .pure _
    | cons head rest ih => exact .bind (Database.close_mirrors hE head.2) fun _ => ih
  exact .bind (hscanners ws.scanners) fun _ => hdatabases ws.databases

end Session.Workspace

end

/-! ## Runs -/

namespace Session.Workspace

/-- **A run of operations** does the same with both engines. -/
theorem performAll_mirrors (hE : Engine.Mirrors f E' E) (ops : List Operation) (ws : Workspace) :
    (ws.performAll E' ops).Mirrors f (ws.performAll E ops) := by
  induction ops generalizing ws with
  | nil => exact .pure _
  | cons op ops ih => exact .bind (perform_mirrors hE ws op) fun (_, ws') => ih ws'

end Session.Workspace

/-- A recorded engine answers as it does without being recorded. -/
theorem Engine.recorded_mirrors (E : Engine σ) : Engine.Mirrors Prod.fst (recorded E) E :=
  fun _ _ => rfl

end Multiscan
