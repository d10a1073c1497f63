import Multiscan.Proofs.Engine.Run
import Multiscan.Proofs.Ledger.Contract
import Multiscan.Scanner
import Multiscan.Validation
/-!
# Errors — where they come from

A task that may need the engine looks first at what it was given (`request?`). If
something is wrong with it, the engine is not asked, and the error has no code. If
not, the engine is asked once, and then at most to take back what it handed out
meanwhile. A code other than success becomes an error with just that code; what
is wrong with a reply of success is found here and has no code
(`error_provenance`).
-/

namespace Multiscan

open Engine Engine.Exchange

variable {σ α β : Type}

/-! ## Codes and causes -/

/-- The codes that there is a cause for. -/
def Code.Listed (code : Int) : Prop := -12 ≤ code ∧ code < 0

/-- There are twelve of them. -/
theorem Code.Listed.exists_fin {code : Int} (h : Code.Listed code) :
    ∃ n : Fin 12, code = -1 - (n.val : Int) := by
  obtain ⟨hle, hlt⟩ := h
  exact ⟨⟨(-1 - code).toNat, by omega⟩, by dsimp only; omega⟩

namespace ErrorKind

theorem ofCode_of_not_listed {code : Code} (h : ¬ Code.Listed code) :
    ofCode code = .unexpected code := by
  have hne : ∀ n : Int, -12 ≤ n → n < 0 → ¬ code = n := fun n hle hlt heq => h (heq ▸ ⟨hle, hlt⟩)
  unfold ofCode
  simp (disch := decide) only [hne, if_false]

/-- A cause has the code that it was made for. -/
theorem code?_ofCode (code : Code) : (ofCode code).code? = some code := by
  by_cases h : Code.Listed code
  · have hlisted : ∀ n : Fin 12,
        (ofCode (-1 - (n.val : Int))).code? = some (-1 - (n.val : Int)) := by
      decide
    obtain ⟨n, rfl⟩ := h.exists_fin
    exact hlisted n
  · rw [ofCode_of_not_listed h]
    rfl

/-- So it determines that code. -/
theorem ofCode_inj {code code' : Code} (h : ofCode code = ofCode code') : code = code' := by
  have hcode := congrArg ErrorKind.code? h
  rw [code?_ofCode, code?_ofCode] at hcode
  exact Option.some.inj hcode

/-- A code alone says of no expression that it failed. -/
theorem ofCode_ne_patternCompileFailed (code : Code) (f : CompileError) :
    ofCode code ≠ .patternCompileFailed f := by
  have hnone : (Error.ofCode code).compileError?.isNone = true := by
    by_cases h : Code.Listed code
    · have hlisted : ∀ n : Fin 12,
          (Error.ofCode (-1 - (n.val : Int))).compileError?.isNone = true := by decide
      obtain ⟨n, rfl⟩ := h.exists_fin
      exact hlisted n
    · rw [Error.ofCode, ofCode_of_not_listed h]
      rfl
  intro hsame
  rw [Error.ofCode, hsame] at hnone
  exact nomatch hnone

end ErrorKind

namespace Error

theorem code?_ofCode (code : Code) : (ofCode code).code? = some code :=
  ErrorKind.code?_ofCode code

/-- An error that was found here has no code. -/
theorem code?_of_own {e : Error} (h : e.fromEngine = false) : e.code? = none := by
  rw [code?, h]
  rfl

/-- **Context changes neither the cause nor the code**, however much of it there
is. -/
theorem foldl_within (contexts : List String) (e : Error) :
    (contexts.foldl within e).kind = e.kind ∧ (contexts.foldl within e).code? = e.code? := by
  induction contexts generalizing e with
  | nil => exact ⟨rfl, rfl⟩
  | cons context rest ih => exact ih (e.within context)

end Error

/-! ## Checks -/

/-- A check whose errors are found here. -/
def OwnErrors (x : Except Error α) : Prop := ∀ e, x = .error e → e.fromEngine = false

namespace OwnErrors

protected theorem ok (a : α) : OwnErrors (.ok a) := fun _ h => nomatch h

protected theorem error {e : Error} (h : e.fromEngine = false) :
    OwnErrors (.error e : Except Error α) := by
  rintro _ ⟨⟩
  exact h

protected theorem bind {x : Except Error α} {f : α → Except Error β} (hx : OwnErrors x)
    (hf : ∀ a, OwnErrors (f a)) : OwnErrors (x >>= f) := by
  rcases x with e | a
  · exact .error (hx e rfl)
  · exact hf a

protected theorem map {x : Except Error α} (f : α → β) (hx : OwnErrors x) :
    OwnErrors (x.map f) := by
  rcases x with e | a
  · exact .error (hx e rfl)
  · exact .ok _

end OwnErrors

theorem patternBytes_own (pattern : String) : OwnErrors (patternBytes pattern) := by
  unfold patternBytes
  dsimp only
  split
  · exact .ok _
  · exact .error rfl

theorem FlagSet.encode_own (s : FlagSet) (v : Variant) : OwnErrors (s.encode v) := by
  unfold encode
  split
  · exact .ok _
  · exact .error rfl

namespace Database

theorem handle?_own (d : Database) : OwnErrors d.handle? := by
  unfold handle?
  split
  · exact .ok _
  · exact .error rfl

theorem jobs_own (i : Nat) (es : List Expression) : OwnErrors (jobs i es) := by
  induction es generalizing i with
  | nil => exact .ok _
  | cons e es ih =>
    have hjob : OwnErrors (job i e) :=
      (patternBytes_own _).bind fun _ => (e.flags.encode_own _).bind fun _ => .ok _
    rw [jobs]
    split
    · next err herr => exact .error (hjob err herr)
    · exact (ih (i + 1)).map _

end Database

namespace Scanner

theorem toGrow_own (s : Scanner) : OwnErrors s.toGrow := by
  unfold toGrow
  split
  · exact .ok _
  · exact .ok _
  · exact .error rfl

theorem toScan_own (s : Scanner) : OwnErrors s.toScan := by
  unfold toScan
  split
  · exact .error rfl
  · exact .ok _
  · exact .error rfl

theorem toMeasure_own (s : Scanner) : OwnErrors s.toMeasure := by
  unfold toMeasure
  split
  · exact .ok _
  · exact .error rfl

theorem toAsk_own (s : Scanner) (d : Database) (text : String) : OwnErrors (s.toAsk d text) := by
  refine s.toScan_own.bind fun _ => d.handle?_own.bind fun _ => ?_
  dsimp only
  split
  · exact .error rfl
  · exact .ok _

theorem translateAll_own (d : Database) (text : List Char) (events : List Event) :
    OwnErrors (translateAll d text events) := by
  have hone : ∀ map ev, OwnErrors (translate d map text ev) := by
    intro map ev
    unfold translate
    dsimp only
    split
    · exact .error rfl
    · exact .ok _
  unfold translateAll
  dsimp only
  induction events with
  | nil => exact .ok _
  | cons ev events ih =>
    rw [List.mapM_cons]
    exact (hone _ ev).bind fun _ => ih.bind fun _ => .ok _

end Scanner

/-! ## Errors and the replies that they come from -/

namespace Engine

/-- The result code of an exchange. Facts are taken back without one. -/
def Exchange.code : Exchange → Code
  | ⟨.compile _ _, reply⟩ => reply.code
  | ⟨.allocScratch _ _, reply⟩ => reply.code
  | ⟨.databaseSize _, reply⟩ | ⟨.scratchSize _, reply⟩ | ⟨.baseScratchSize _, reply⟩ => reply.code
  | ⟨.scan _ _ _, reply⟩ => reply.code
  | ⟨.info _ _, reply⟩ => reply.code
  | ⟨.freeInfo _, _⟩ => Code.success
  | ⟨.freeDatabase _, code⟩ | ⟨.freeScratch _, code⟩ | ⟨.freeError _ _, code⟩ => code

/-- A batch is refused on account of an expression: the pattern compiler failed,
and there is a record of it. -/
def Exchange.BlamesExpression : Exchange → Prop
  | ⟨.compile _ _, reply⟩ => reply.code = Code.compilerError ∧ reply.error.isSome = true
  | _ => False

/-- An error comes from an exchange: it has the code of the exchange if that is
not success, and the cause that goes with it; otherwise it has none. -/
def Exchange.Accounts (x : Exchange) (e : Error) : Prop :=
  if x.code = Code.success then e.code? = none
  else e.code? = some x.code ∧ ((∃ f, e.kind = .patternCompileFailed f) ↔ x.BlamesExpression) ∧
    (¬ x.BlamesExpression → e.kind = .ofCode x.code)

/-- A request to take back what came with a reply: a record, or facts. -/
def Request.TakesBack : Request → Prop
  | .freeError _ _ | .freeInfo _ => True
  | _ => False

/-- The transcript has gone on with an exchange, and then with nothing but what
came with its reply being taken back. -/
def Follows (t : Transcript) (x : Exchange) (w : World (σ × Transcript)) : Prop :=
  ∃ back, w.engine.2 = t ++ x :: back ∧ ∀ y ∈ back, y.request.TakesBack

namespace Exchange.Accounts

variable {x : Exchange} {e : Error}

theorem of_own (hx : x.code = Code.success) (he : e.fromEngine = false) : x.Accounts e := by
  rw [Accounts, if_pos hx]
  exact Error.code?_of_own he

theorem ofCode {code : Code} (hcode : code ≠ Code.success) (hx : x.code = code)
    (hblame : ¬ x.BlamesExpression) : x.Accounts (.ofCode code) := by
  subst hx
  rw [Accounts, if_neg hcode]
  refine ⟨Error.code?_ofCode _, iff_of_false ?_ hblame, fun _ => rfl⟩
  rintro ⟨f, hf⟩
  exact ErrorKind.ofCode_ne_patternCompileFailed _ _ hf

/-- Context makes no difference. -/
theorem within (h : x.Accounts e) (context : String) : x.Accounts (e.within context) := h

theorem compile {jobs : List Job} {mode : UInt32} {reply : CompileReply}
    (hcode : reply.code = Code.compilerError) (hrecord : reply.error.isSome = true)
    (f : CompileError) : Accounts ⟨.compile jobs mode, reply⟩ (.compile f) := by
  rw [Accounts, Exchange.code, if_neg (by rw [hcode]; decide), hcode]
  have hblame : BlamesExpression ⟨.compile jobs mode, reply⟩ := ⟨hcode, hrecord⟩
  exact ⟨rfl, iff_of_true ⟨f, rfl⟩ hblame, fun hnot => absurd hblame hnot⟩

end Exchange.Accounts

namespace Follows

variable {t : Transcript} {x : Exchange} {w : World (σ × Transcript)}

theorem note (h : Follows t x w) (n : Note) : Follows t x (World.note n w).2 := h

theorem ask (h : Follows t x w) (E : Engine σ) {r : Request} (hr : r.TakesBack) :
    Follows t x (World.ask E.recorded r w).2 := by
  obtain ⟨back, ht, hback⟩ := h
  refine ⟨back ++ [⟨r, (E.answer r w.engine.1).1⟩], ?_, ?_⟩
  · change w.engine.2 ++ [_] = _
    rw [ht, List.append_assoc, List.cons_append]
  · intro y hy
    obtain hy | hy := List.mem_append.1 hy
    · exact hback y hy
    · rwa [List.mem_singleton.1 hy]

end Follows

end Engine

/-- Reading a record takes it back and does no more. -/
theorem takeRecord_follows (E : Engine σ) {t : Transcript} {x : Exchange} (v : Variant)
    (record : ErrorRecord) :
    Step.Ensures (Follows t x) (takeRecord E.recorded v record) fun _ => Follows t x := by
  refine .bind (Q := fun _ => Follows t x) (fun _ hw => hw.ask E trivial) fun code => ?_
  dsimp only
  split
  · exact .bind (fun _ hw => hw.note _) fun _ => .pure fun _ h => h
  · exact .pure fun _ h => h

/-- What an operation comes to goes back to an exchange: it succeeds only if the
engine did, and its error comes from the exchange. -/
def Act.AnswersTo (t : Transcript) (x : Exchange) (a : Act (σ × Transcript) α) : Prop :=
  a.Ensures (Follows t x) (fun _ w => Follows t x w ∧ x.code = Code.success)
    fun e w => Follows t x w ∧ x.Accounts e

namespace Act.AnswersTo

variable {t : Transcript} {x : Exchange} {E : Engine σ}

protected theorem pure (hx : x.code = Code.success) (a : α) :
    AnswersTo t x (pure a : Act (σ × Transcript) α) :=
  Act.Ensures.pure fun _ h => ⟨h, hx⟩

protected theorem throw {e : Error} (he : x.Accounts e) :
    AnswersTo t x (throw e : Act (σ × Transcript) α) :=
  Act.Ensures.throw fun _ h => ⟨h, he⟩

theorem bind_throw {e : Error} (he : x.Accounts e) (f : β → Act (σ × Transcript) α) :
    AnswersTo t x ((throw e : Act (σ × Transcript) β) >>= f) :=
  Act.Ensures.bind_throw fun _ h => ⟨h, he⟩

theorem bind_note {n : Note} {f : Unit → Act (σ × Transcript) α} (hf : (f ()).AnswersTo t x) :
    AnswersTo t x (Act.note n >>= f) :=
  Act.Ensures.bind_note (fun _ h => h.note n) hf

/-- What comes with a reply may be taken back. -/
theorem bind_ask {r : Request} (hr : r.TakesBack) {f : Reply r → Act (σ × Transcript) α}
    (hf : ∀ reply, (f reply).AnswersTo t x) :
    AnswersTo t x ((liftM (World.ask E.recorded r) : Act (σ × Transcript) _) >>= f) :=
  fun _ hw => hf _ _ (hw.ask E hr)

/-- A record may be read, which takes it back. -/
theorem bind_takeRecord (v : Variant) (record : ErrorRecord)
    {f : String × Int → Act (σ × Transcript) α} (hf : ∀ said, (f said).AnswersTo t x) :
    AnswersTo t x ((liftM (takeRecord E.recorded v record) : Act (σ × Transcript) _) >>= f) :=
  Act.Ensures.bind_lift (takeRecord_follows E v record) hf

end Act.AnswersTo

/-! ## Tasks -/

theorem exists_of_map_eq_ok {x : Except Error α} {f : α → β} {b : β} (h : x.map f = .ok b) :
    ∃ a, x = .ok a ∧ f a = b := by
  rcases x with e | a
  · exact nomatch h
  · exact ⟨a, rfl, Except.ok.inj h⟩

theorem eq_error_of_map {x : Except Error α} {f : α → β} {e : Error} (h : x.map f = .error e) :
    x = .error e := by
  rcases x with e' | a
  · exact congrArg Except.error (Except.error.inj h)
  · exact nomatch h

/-- A computation in two steps fails in the first or in the second. -/
theorem eq_error_or_of_bind {x : Except Error α} {f : α → Except Error β} {e : Error}
    (h : x >>= f = .error e) : x = .error e ∨ ∃ a, x = .ok a ∧ f a = .error e := by
  rcases x with e' | a
  · exact .inl (congrArg Except.error (Except.error.inj h))
  · exact .inr ⟨a, rfl, h⟩

/-- What the library does with the help of an engine. -/
inductive Task
  | compile (groups : Bool) (es : List Expression)
  | databaseSize (d : Database)
  | alloc (s : Scanner) (d : Database)
  | scan (s : Scanner) (d : Database) (text : String)
  | scratchSize (s : Scanner)
  | baseScratchSize (s : Scanner)
  | info (e : Expression)

namespace Task

/-- What comes of a task. -/
abbrev Result : Task → Type
  | .compile _ _ => Database
  | .databaseSize _ | .scratchSize _ | .baseScratchSize _ => Nat
  | .alloc _ _ => Scanner
  | .scan _ _ _ => List Match
  | .info _ => Info

/-- A task done. -/
def run (E : Engine σ) : (task : Task) → Act σ task.Result
  | .compile groups es => Database.compile E groups es
  | .databaseSize d => d.size E
  | .alloc s d => s.alloc E d
  | .scan s d text => s.scan E d text
  | .scratchSize s => s.scratchSize E
  | .baseScratchSize s => s.baseScratchSize E
  | .info e => e.info E

/-- The request that a task makes, unless something is wrong with what it was
given. -/
def request? : Task → Except Error Request
  | .compile _ [] => .error (.invalid "at least one expression is required")
  | .compile groups (first :: rest) =>
    if UInt32.size ≤ rest.length + 1 then .error (.invalid "too many expressions")
    else (Database.jobs 0 (first :: rest)).map (.compile · (modeOf groups))
  | .databaseSize d => d.handle?.map .databaseSize
  | .alloc s d => do return .allocScratch (← d.handle?) (← s.toGrow)
  | .scan s d text => (s.toAsk d text).map fun (scratch, database, data) =>
    .scan database scratch data
  | .scratchSize s => s.toMeasure.map .scratchSize
  | .baseScratchSize s => s.toMeasure.map .baseScratchSize
  | .info e => do
    let flags ← e.flags.encode .base
    return .info (← patternBytes e.pattern) flags

theorem request?_own (task : Task) : OwnErrors task.request? := by
  rcases task with ⟨groups, _ | ⟨first, rest⟩⟩ | d | ⟨s, d⟩ | ⟨s, d, text⟩ | s | s | e
  · exact .error rfl
  · rw [request?]
    split
    · exact .error rfl
    · exact (Database.jobs_own 0 _).map _
  · exact d.handle?_own.map _
  · exact d.handle?_own.bind fun _ => s.toGrow_own.bind fun _ => .ok _
  · exact (s.toAsk_own d text).map _
  · exact s.toMeasure_own.map _
  · exact s.toMeasure_own.map _
  · exact (e.flags.encode_own _).bind fun _ => (patternBytes_own _).bind fun _ => .ok _

/-! ## What tasks do with replies -/

/-- A task that finds something wrong does nothing. -/
theorem run_of_error {task : Task} {e : Error} (h : task.request? = .error e) (E : Engine σ)
    (w : World σ) : (task.run E).attempt w = (.error e, w) := by
  rcases task with ⟨groups, _ | ⟨first, rest⟩⟩ | d | ⟨s, d⟩ | ⟨s, d, text⟩ | s | s | e'
  case compile.nil =>
    obtain rfl := Except.error.inj h
    rfl
  case compile.cons =>
    rw [request?] at h
    rw [run, Database.compile]
    dsimp only
    split at h
    · next hmany =>
      obtain rfl := Except.error.inj h
      rw [if_pos hmany]
      rfl
    · next hmany =>
      rw [if_neg hmany, eq_error_of_map h]
      rfl
  case databaseSize =>
    rw [run, Database.size, eq_error_of_map h]
    rfl
  case alloc =>
    rw [run, Scanner.alloc]
    rcases eq_error_or_of_bind h with hd | ⟨b, hd, h⟩
    · rw [hd]
      rfl
    · rcases eq_error_or_of_bind h with hs | ⟨k, -, h⟩
      · rw [hd, hs]
        rfl
      · cases h
  case scan =>
    rw [run, Scanner.scan, Scanner.scanStep, eq_error_of_map h]
    rfl
  case scratchSize =>
    rw [run, Scanner.scratchSize, eq_error_of_map h]
    rfl
  case baseScratchSize =>
    rw [run, Scanner.baseScratchSize, eq_error_of_map h]
    rfl
  case info =>
    rw [run, Expression.info]
    rcases eq_error_or_of_bind h with hflags | ⟨flags, hflags, h⟩
    · rw [hflags]
      rfl
    · rcases eq_error_or_of_bind h with hpattern | ⟨pattern, -, h⟩
      · rw [hflags, hpattern]
        rfl
      · cases h

/-- Whatever the engine replies to a request, what the task comes to goes back to
that reply. -/
def Answers (E : Engine σ) (task : Task) (r : Request) : Prop :=
  ∀ w : World (σ × Transcript),
    let x : Exchange := ⟨r, (E.answer r w.engine.1).1⟩
    let done := (task.run E.recorded).attempt w
    Act.either (fun _ w' => Follows w.engine.2 x w' ∧ x.code = Code.success)
      (fun e w' => Follows w.engine.2 x w' ∧ x.Accounts e) done.1 done.2

/-- A task makes its request first, and what it does then answers to the reply. -/
theorem answers_of_ask {E : Engine σ} {task : Task} {r : Request}
    {f : Reply r → Act (σ × Transcript) task.Result}
    (hrun : task.run E.recorded = (liftM (World.ask E.recorded r) : Act (σ × Transcript) _) >>= f)
    (hf : ∀ t reply, (f reply).AnswersTo t ⟨r, reply⟩) : Answers E task r := by
  intro w
  rw [hrun]
  exact hf w.engine.2 _ _ ⟨[], rfl, fun _ h => nomatch h⟩

/-- The error for a batch that was refused comes from the reply. -/
theorem refusal_accounts {E : Engine σ} {t : Transcript} (jobs : List Job) (mode : UInt32)
    (first : Expression) (rest : List Expression) {reply : CompileReply}
    (hcode : reply.code ≠ Code.success) :
    let x : Exchange := ⟨.compile jobs mode, reply⟩
    Step.Ensures (Follows t x) (Database.refusal E.recorded first rest reply) fun e w =>
      Follows t x w ∧ x.Accounts e := by
  intro x
  rcases reply with ⟨code, database, _ | record⟩
  · have hblame : ¬ x.BlamesExpression := fun h => nomatch h.2
    exact .pure fun w hw => ⟨hw, .within (.ofCode hcode rfl hblame) _⟩
  · refine .bind (takeRecord_follows E .extended record) fun (message, index) => ?_
    dsimp only
    split
    · next hcompiler =>
      exact .bind (fun _ hw => hw.note _) fun _ => .pure fun _ hw => ⟨hw, .compile hcompiler rfl _⟩
    · next hcompiler =>
      have hblame : ¬ x.BlamesExpression := fun h => hcompiler h.1
      exact .pure fun w hw => ⟨hw, .within (.ofCode hcode rfl hblame) _⟩

theorem answers_compile {E : Engine σ} (groups : Bool) {first : Expression}
    {rest : List Expression} {jobs : List Job} (hmany : ¬ UInt32.size ≤ rest.length + 1)
    (hjobs : Database.jobs 0 (first :: rest) = .ok jobs) :
    Answers E (.compile groups (first :: rest)) (.compile jobs (modeOf groups)) := by
  refine answers_of_ask (f := ?_) ?_ ?_
  rotate_left
  · rw [run, Database.compile]
    dsimp only
    rw [if_neg hmany, hjobs, Act.ofExcept_bind]
  intro t reply
  rcases reply with ⟨code, _ | h, error⟩ <;> dsimp only <;> split
  · next hcode =>
    exact Act.Ensures.bind_lift (refusal_accounts _ _ first rest hcode) fun _ =>
      .bind_throw fun _ hw => hw
  · next hcode => exact .throw (.of_own (not_not.1 hcode) rfl)
  · next hcode =>
    exact Act.Ensures.bind_lift (refusal_accounts _ _ first rest hcode) fun _ =>
      .bind_throw fun _ hw => hw
  · next hcode =>
    refine .bind_note (.pure ?_ _)
    exact not_not.1 hcode

theorem answers_alloc {E : Engine σ} {s : Scanner} {d : Database} {b : Handle} {k : Option Handle}
    (hb : d.handle? = .ok b) (hk : s.toGrow = .ok k) :
    Answers E (.alloc s d) (.allocScratch b k) := by
  refine answers_of_ask (by rw [run, Scanner.alloc, hb, hk, Act.ofExcept_bind,
    Act.ofExcept_bind]) ?_
  intro t reply
  rcases reply with ⟨code, _ | h⟩ <;> dsimp only <;> split
  · next hcode => exact .bind_throw (.within (.ofCode hcode rfl id) _) _
  · next hcode => exact .throw (.of_own (not_not.1 hcode) rfl)
  · next hcode => exact .bind_throw (.within (.ofCode hcode rfl id) _) _
  · next hcode =>
    refine .bind_note (.pure ?_ _)
    exact not_not.1 hcode

/-- A question for a size. -/
theorem answersTo_size {t : Transcript} {x : Exchange} {reply : SizeReply}
    (hx : x.code = reply.code) (hblame : ¬ x.BlamesExpression) :
    Act.AnswersTo t x (show Act (σ × Transcript) Nat from do
      if reply.code ≠ Code.success then
        throw (.ofCode reply.code)
      return reply.size) := by
  dsimp only
  split
  · next hcode => exact .bind_throw (.ofCode hcode hx hblame) _
  · next hcode => exact .pure (hx.trans (not_not.1 hcode)) _

theorem answers_databaseSize {E : Engine σ} {d : Database} {b : Handle} (hb : d.handle? = .ok b) :
    Answers E (.databaseSize d) (.databaseSize b) :=
  answers_of_ask (by rw [run, Database.size, hb, Act.ofExcept_bind])
    fun _ _ => answersTo_size rfl id

theorem answers_scratchSize {E : Engine σ} {s : Scanner} {k : Handle} (hk : s.toMeasure = .ok k) :
    Answers E (.scratchSize s) (.scratchSize k) :=
  answers_of_ask (by rw [run, Scanner.scratchSize, hk, Act.ofExcept_bind])
    fun _ _ => answersTo_size rfl id

theorem answers_baseScratchSize {E : Engine σ} {s : Scanner} {k : Handle}
    (hk : s.toMeasure = .ok k) : Answers E (.baseScratchSize s) (.baseScratchSize k) :=
  answers_of_ask (by rw [run, Scanner.baseScratchSize, hk, Act.ofExcept_bind])
    fun _ _ => answersTo_size rfl id

theorem answers_info {E : Engine σ} {e : Expression} {flags : UInt32} {pattern : Text.Bytes}
    (hflags : e.flags.encode .base = .ok flags) (hpattern : patternBytes e.pattern = .ok pattern) :
    Answers E (.info e) (.info pattern flags) := by
  refine answers_of_ask (by rw [run, Expression.info, hflags, hpattern, Act.ofExcept_bind,
    Act.ofExcept_bind]) ?_
  intro t reply
  rcases reply with ⟨code, info, error⟩
  dsimp only
  split
  · next hcode =>
    rcases error with _ | record
    · exact .bind_throw (.ofCode hcode rfl id) _
    · exact .bind_takeRecord _ _ fun _ => .bind_throw (.within (.ofCode hcode rfl id) _) _
  · next hcode =>
    rcases info with _ | ⟨h, raw⟩
    · exact .throw (.of_own (not_not.1 hcode) rfl)
    · refine .bind_ask (r := .freeInfo h) trivial fun _ => .pure ?_ _
      exact not_not.1 hcode

theorem answers_scan {E : Engine σ} {s : Scanner} {d : Database} {text : String}
    {k b : Handle} {data : Text.Bytes} (hask : s.toAsk d text = .ok (k, b, data)) :
    Answers E (.scan s d text) (.scan b k data) := by
  intro w x
  have hfollows : Follows w.engine.2 x (World.ask E.recorded (.scan b k data) w).2 :=
    ⟨[], rfl, fun _ h => nomatch h⟩
  have hstep : Step.Ensures (· = w) (s.scanStep E.recorded d text) fun r w' =>
      Act.either (fun _ w' => Follows w.engine.2 x w' ∧ x.code = Code.success)
        (fun e w' => Follows w.engine.2 x w' ∧ x.Accounts e) r.1 w' := by
    rw [Scanner.scanStep, hask]
    refine .bind (Q := fun reply w' => x = ⟨.scan b k data, reply⟩ ∧ Follows w.engine.2 x w')
      (fun w' hw' => ?_) fun reply => .assume fun hreply => ?_
    · subst hw'
      exact ⟨rfl, hfollows⟩
    · dsimp only
      split
      · next hcode =>
        refine .pure fun _ hw' => ⟨hw', .within (.ofCode hcode ?_ ?_) _⟩
        · rw [hreply, Exchange.code]
        · rw [hreply]
          exact id
      · next hcode =>
        have hx : x.code = Code.success := by
          rw [hreply]
          exact not_not.1 hcode
        refine .bind (Q := fun _ => Follows w.engine.2 x) (fun _ hw' => hw'.note _) fun _ =>
          .pure fun w' hw' => ?_
        rcases hms : Scanner.translateAll d text.toList _ with e | ms
        · exact ⟨hw', .of_own hx (Scanner.translateAll_own _ _ _ e hms)⟩
        · exact ⟨hw', hx⟩
  exact hstep w rfl

/-- **Every task** that makes a request answers to the reply. -/
theorem answers_of_request {task : Task} {r : Request} (h : task.request? = .ok r) (E : Engine σ) :
    Answers E task r := by
  rcases task with ⟨groups, _ | ⟨first, rest⟩⟩ | d | ⟨s, d⟩ | ⟨s, d, text⟩ | s | s | e
  case compile.nil => exact nomatch h
  case compile.cons =>
    rw [request?] at h
    split at h
    · exact nomatch h
    · next hmany =>
      obtain ⟨jobs, hjobs, rfl⟩ := exists_of_map_eq_ok h
      exact answers_compile groups hmany hjobs
  case databaseSize =>
    obtain ⟨b, hb, rfl⟩ := exists_of_map_eq_ok h
    exact answers_databaseSize hb
  case alloc =>
    rw [request?] at h
    rcases hb : d.handle? with err | b
    · rw [hb] at h
      exact nomatch h
    · rcases hk : s.toGrow with err | k
      · rw [hb, hk] at h
        exact nomatch h
      · rw [hb, hk] at h
        obtain rfl := Except.ok.inj h
        exact answers_alloc hb hk
  case scan =>
    obtain ⟨⟨k, b, data⟩, hask, rfl⟩ := exists_of_map_eq_ok h
    exact answers_scan hask
  case scratchSize =>
    obtain ⟨k, hk, rfl⟩ := exists_of_map_eq_ok h
    exact answers_scratchSize hk
  case baseScratchSize =>
    obtain ⟨k, hk, rfl⟩ := exists_of_map_eq_ok h
    exact answers_baseScratchSize hk
  case info =>
    rw [request?] at h
    rcases hflags : e.flags.encode .base with err | flags
    · rw [hflags] at h
      exact nomatch h
    · rcases hpattern : patternBytes e.pattern with err | pattern
      · rw [hflags, hpattern] at h
        exact nomatch h
      · rw [hflags, hpattern] at h
        obtain rfl := Except.ok.inj h
        exact answers_info hflags hpattern

end Task

/-- **Where errors come from.** A task in which something is found wrong does not
ask the engine, and its error has no code. Any other task asks the engine once, and
then at most to take back what came with the reply. If the code of the reply is
not success, the task fails with that code, and with the cause that the code
stands for, unless an expression of a batch is to blame. If it is success, an error
has no code. Causes determine their codes, and context changes neither. -/
theorem error_provenance (E : Engine σ) (task : Task) (w : World (σ × Transcript)) :
    let done := (task.run E.recorded).attempt w
    (∀ e, task.request? = .error e → done = (.error e, w) ∧ e.code? = none) ∧
    (∀ r, task.request? = .ok r →
      let x : Exchange := ⟨r, (E.answer r w.engine.1).1⟩
      (∃ back, done.2.engine.2 = w.engine.2 ++ x :: back ∧ ∀ y ∈ back, y.request.TakesBack) ∧
      (x.code ≠ Code.success → ∃ e, done.1 = .error e ∧ e.code? = some x.code ∧
        ((∃ f, e.kind = .patternCompileFailed f) ↔ x.BlamesExpression) ∧
        (¬ x.BlamesExpression → e.kind = .ofCode x.code)) ∧
      (x.code = Code.success → ∀ e, done.1 = .error e → e.code? = none)) ∧
    (∀ code code', ErrorKind.ofCode code = .ofCode code' → code = code') ∧
    (∀ code, ¬ Code.Listed code → ErrorKind.ofCode code = .unexpected code) ∧
    (∀ (e : Error) (contexts : List String), (contexts.foldl Error.within e).kind = e.kind ∧
      (contexts.foldl Error.within e).code? = e.code?) := by
  intro done
  refine ⟨fun e he => ⟨task.run_of_error he E.recorded w, ?_⟩, fun r hr => ?_,
    fun _ _ => ErrorKind.ofCode_inj, fun _ => ErrorKind.ofCode_of_not_listed,
    fun e contexts => Error.foldl_within contexts e⟩
  · exact Error.code?_of_own (task.request?_own e he)
  · intro x
    have hanswers := Task.answers_of_request hr E w
    change Act.either _ _ done.1 done.2 at hanswers
    rcases hdone : done.1 with e | a
    · rw [hdone] at hanswers
      obtain ⟨hfollows, haccounts⟩ := hanswers
      refine ⟨hfollows, fun hcode => ⟨e, rfl, ?_⟩, ?_⟩
      · rwa [Accounts, if_neg hcode] at haccounts
      · rintro hcode _ ⟨⟩
        rwa [Accounts, if_pos hcode] at haccounts
    · rw [hdone] at hanswers
      obtain ⟨hfollows, hsuccess⟩ := hanswers
      exact ⟨hfollows, fun hcode => absurd hsuccess hcode, fun _ _ h => nomatch h⟩

/-- An engine that refuses every batch with a record, and knows no databases. -/
def refusing : Engine Unit where
  version := "refusing"
  label := "Refusing"
  runsHere := true
  answer
    | .compile _ _ => pure ⟨Code.compilerError, none, some ⟨0, some "no", 0⟩⟩
    | .info _ _ => pure ⟨Code.compilerError, none, none⟩
    | .allocScratch _ scratch => pure ⟨Code.invalid, scratch⟩
    | .databaseSize _ | .scratchSize _ | .baseScratchSize _ => pure ⟨Code.invalid, 0⟩
    | .scan _ _ _ => pure ⟨Code.invalid, []⟩
    | .freeInfo _ => pure ()
    | .freeDatabase _ | .freeScratch _ | .freeError _ _ => pure Code.success

/-- The same code has a cause of its own in a batch with a record, and the general
one in a question for facts; a parameter that the engine finds invalid has a
code, and one that is found so before has none. -/
theorem error_provenance_of_refusing :
    let e := Expression.ofPattern "a" .empty
    let failed (task : Task) (code : Option Code) (blames : Bool) : Prop :=
      ∃ err, ((task.run refusing.recorded).attempt (.start ((), []))).1 = .error err ∧
        err.code? = code ∧ (blames = true ↔ ∃ f, err.kind = .patternCompileFailed f)
    failed (.compile false [e]) (some Code.compilerError) true ∧
      failed (.info e) (some Code.compilerError) false ∧
      failed (.databaseSize ⟨some 0, [e]⟩) (some Code.invalid) false ∧
      (∃ err, ((Task.run refusing.recorded (.compile false [])).attempt (.start ((), []))).1 =
        .error err ∧ err.code? = none) := by
  intro e failed
  have hasked : ∀ {task : Task} {r : Request}, task.request? = .ok r →
      Exchange.code ⟨r, (refusing.answer r ()).1⟩ ≠ Code.success →
      ∀ blames, (blames = true ↔ BlamesExpression ⟨r, (refusing.answer r ()).1⟩) →
      failed task (some (Exchange.code ⟨r, (refusing.answer r ()).1⟩)) blames := by
    intro task r hr hcode blames hblames
    obtain ⟨err, herr, hcode, hfault, -⟩ :=
      ((error_provenance refusing task (.start ((), []))).2.1 r hr).2.1 hcode
    exact ⟨err, herr, hcode, hblames.trans hfault.symm⟩
  have hpattern : patternBytes "a" = .ok (Text.bytesOf "a") := by
    have hnul : (Text.bytesOf "a").findIdx? (· == 0) = none := by decide +kernel
    rw [patternBytes, hnul]
  have hbatch : Task.request? (.compile false [e]) =
      .ok (.compile [⟨Text.bytesOf "a", 0, 0⟩] plainMode) := by
    have hjobs : Database.jobs 0 [e] = .ok [⟨Text.bytesOf "a", 0, 0⟩] := by
      rw [Database.jobs, Database.job, show e.pattern = "a" from rfl, hpattern]
      rfl
    rw [Task.request?, hjobs]
    rfl
  have hfacts : Task.request? (.info e) = .ok (.info (Text.bytesOf "a") 0) := by
    rw [Task.request?, show e.pattern = "a" from rfl, hpattern]
    rfl
  refine ⟨?_, ?_, ?_, ?_⟩
  · exact hasked hbatch (by decide) true (iff_of_true rfl ⟨rfl, rfl⟩)
  · exact hasked hfacts (by decide) false (iff_of_false Bool.false_ne_true id)
  · exact hasked (r := .databaseSize 0) rfl (by decide) false (iff_of_false Bool.false_ne_true id)
  · obtain ⟨hdone, hcode⟩ :=
      (error_provenance refusing (.compile false []) (.start ((), []))).1 _ rfl
    exact ⟨_, congrArg Prod.fst hdone, hcode⟩

end Multiscan
