import Multiscan.Proofs.Batch
import Multiscan.Proofs.Provenance
import Multiscan.Proofs.Session.Probe
/-!
# Refused batches — which expression is to blame

An engine that refuses a batch replies with a code and perhaps with a record,
which holds a message and an index. Any index is put up with: one of the batch
names its expression, and otherwise the first expression is blamed
(`getElem?_blame`). A record is taken back once whatever it says, and what it says
counts only if the code is that of the pattern compiler (`failure_attributed`).
-/

namespace Multiscan

open Engine

namespace Database

variable {σ : Type}

/-! ## Positions -/

/-- An index of an engine is a position of the batch or none at all. -/
theorem batchIndex_eq_some {count k : Nat} {index : Int} :
    batchIndex count index = some k ↔ index = k ∧ k < count := by
  rw [batchIndex]
  split
  · next h =>
    rw [Option.some_inj]
    omega
  · next h =>
    refine iff_of_false (fun hnone => nomatch hnone) ?_
    omega

/-- **There is an expression to blame** whatever index an engine gives, and it is
the one at the position that the error has. -/
theorem getElem?_blame (message : String) (index : Int) (first : Expression)
    (rest : List Expression) :
    let c := blame message (batchIndex (rest.length + 1) index) first rest
    (first :: rest)[c.index]? = some c.expression := by
  intro c
  have hlt : c.index < (first :: rest).length := by
    rcases hk : batchIndex (rest.length + 1) index with _ | k
    · have hzero : c.index = 0 := congrArg (Option.getD · 0) hk
      rw [hzero]
      exact Nat.succ_pos _
    · have hindex : c.index = k := congrArg (Option.getD · 0) hk
      rw [hindex]
      exact (batchIndex_eq_some.1 hk).2
  have hexpression : c.expression = ((first :: rest)[c.index]?).getD first := rfl
  rw [hexpression, List.getElem?_eq_getElem hlt, Option.getD_some]

/-! ## Records -/

/-- What is noted when a record is taken back: the code, if it is not success. -/
def takenBackNotes (code : Code) : List Note :=
  ([code].filter (· ≠ Code.success)).map .keptRecord

/-- A record is read and taken back. -/
theorem takeRecord_apply (E : Engine σ) (v : Variant) (record : ErrorRecord) (w : World σ) :
    let asked := E.answer (.freeError v record.handle) w.engine
    takeRecord E v record w = ((record.message.getD "unknown compile error", record.index),
      ⟨asked.2, w.notes ++ takenBackNotes asked.1⟩) := by
  intro asked
  rw [takeRecord, Step.bind_apply, World.ask_apply, takenBackNotes]
  by_cases hcode : asked.1 = Code.success
  · rw [List.filter_cons_of_neg (by simpa using hcode), if_neg (not_not.2 hcode), List.filter_nil,
      List.map_nil, List.append_nil]
    rfl
  · rw [List.filter_cons_of_pos (by simpa using hcode), if_pos hcode]
    rfl

/-- The error for a batch that is refused, if no expression is to blame. -/
def generalRefusal (count : Nat) (code : Code) : Error :=
  (Error.ofCode code).within ("failed to compile " ++ Nat.repr count ++ " expression(s)")

/-- It blames no expression. -/
theorem compileError?_generalRefusal (count : Nat) (code : Code) :
    (generalRefusal count code).compileError? = none := by
  have hkind : (generalRefusal count code).kind = .ofCode code := rfl
  rw [Error.compileError?, hkind]
  split
  · next c hc => exact absurd hc (ErrorKind.ofCode_ne_patternCompileFailed code c)
  · rfl

theorem refusal_of_no_record {E : Engine σ} {reply : CompileReply} (h : reply.error = none)
    (first : Expression) (rest : List Expression) (w : World σ) :
    refusal E first rest reply w = (generalRefusal (rest.length + 1) reply.code, w) := by
  rw [refusal, h]
  rfl

/-- A record is taken back, and is of account only if the pattern compiler failed. -/
theorem refusal_of_record {E : Engine σ} {reply : CompileReply} {record : ErrorRecord}
    (h : reply.error = some record) (first : Expression) (rest : List Expression) (w : World σ) :
    let asked := E.answer (.freeError .extended record.handle) w.engine
    let message := record.message.getD "unknown compile error"
    let index := batchIndex (rest.length + 1) record.index
    let notes := w.notes ++ takenBackNotes asked.1
    refusal E first rest reply w = if reply.code = Code.compilerError then
        (.compile (blame message index first rest),
          ⟨asked.2, notes ++ [.refused (rest.length + 1) index message]⟩)
      else (generalRefusal (rest.length + 1) reply.code, ⟨asked.2, notes⟩) := by
  intro asked message index notes
  have htake := takeRecord_apply E .extended record w
  rw [refusal, h]
  dsimp only
  rw [Step.bind_apply, htake]
  dsimp only
  split
  · rfl
  · rfl

/-! ## Batches -/

/-- **Who is blamed for a refused batch.** Whatever an engine says when it refuses
a batch, the record that comes with its reply is taken back once, and nothing else
is asked of it. If the pattern compiler failed and there is a record, the error has
the message of the record and the expression at the index of the record, or the
first one if there is none at that index. Otherwise the error is the one that the
code stands for, and nothing of the record is kept. -/
theorem failure_attributed (E : Engine σ) (groups : Bool) {es : List Expression} (hes : es ≠ [])
    (hcount : es.length < UInt32.size) (hfit : ∀ e ∈ es, e.Presentable)
    (w : World (σ × Transcript)) :
    let asked : Request := .compile (jobsFrom 0 es) (modeOf groups)
    let reply : CompileReply := (E.answer asked w.engine.1).1
    let done := (compile E.recorded groups es).attempt w
    reply.code ≠ Code.success →
      (∃ back, done.2.engine.2 = w.engine.2 ++ ⟨asked, reply⟩ :: back ∧
        back.map Exchange.request =
          reply.error.toList.map fun record => .freeError .extended record.handle) ∧
      (∀ record, reply.error = some record → reply.code = Code.compilerError →
        ∃ c, done.1 = .error (.compile c) ∧
          c.message = record.message.getD "unknown compile error" ∧
          (∀ k : Nat, c.engineIndex = some k ↔ record.index = k ∧ k < es.length) ∧
          c.index = c.engineIndex.getD 0 ∧ es[c.index]? = some c.expression) ∧
      (reply.error = none ∨ reply.code ≠ Code.compilerError →
        ∃ err kept, done.1 = .error err ∧ err.kind = .ofCode reply.code ∧
          err.context = some ("failed to compile " ++ Nat.repr es.length ++ " expression(s)") ∧
          err.code? = some reply.code ∧ err.compileError? = none ∧
          done.2.notes = w.notes ++ List.map Note.keptRecord kept) := by
  intro asked reply done hcode
  obtain ⟨first, rest, rfl⟩ := List.exists_cons_of_ne_nil hes
  -- The world in which the reply has come.
  let w' : World (σ × Transcript) := ⟨(E.recorded.answer asked w.engine).2, w.notes⟩
  have hdone : done = (.error (refusal E.recorded first rest reply w').1,
      (refusal E.recorded first rest reply w').2) :=
    (compile_apply hcount (jobs_of_presentable hfit 0) groups w).trans (if_neg hcode)
  clear_value done
  rcases herror : reply.error with _ | record
  · rw [refusal_of_no_record herror] at hdone
    subst hdone
    refine ⟨⟨[], rfl, rfl⟩, ?_, ?_⟩
    · rintro _ ⟨⟩
    · intro _
      exact ⟨_, [], rfl, rfl, rfl, Error.code?_ofCode _, compileError?_generalRefusal _ _,
        (List.append_nil _).symm⟩
  · rw [refusal_of_record herror] at hdone
    by_cases hcompiler : reply.code = Code.compilerError
    · rw [if_pos hcompiler] at hdone
      subst hdone
      refine ⟨⟨[_], List.append_assoc _ _ _, rfl⟩, ?_, ?_⟩
      · rintro _ ⟨⟩ -
        exact ⟨_, rfl, rfl, fun k => batchIndex_eq_some, rfl, getElem?_blame _ _ _ _⟩
      · rintro (hnone | hother)
        · exact nomatch hnone
        · exact absurd hcompiler hother
    · rw [if_neg hcompiler] at hdone
      subst hdone
      refine ⟨⟨[_], List.append_assoc _ _ _, rfl⟩, fun _ _ h => absurd h hcompiler, ?_⟩
      intro _
      exact ⟨_, _, rfl, rfl, rfl, Error.code?_ofCode _, compileError?_generalRefusal _ _, rfl⟩

/-- A record without a message and with an index that the batch does not have, one
that names the second expression, and one that comes with another code. -/
theorem failure_attributed_of_probe :
    let es := [Expression.ofPattern "a" .empty, Expression.ofPattern "b" .empty]
    let done (r : Session.Refusal) := (compile Session.probe.recorded true es).attempt
      (.start (⟨.empty, { Session.Script.empty with compile := some r }, .zero⟩, []))
    (∃ c, (done ⟨Code.compilerError, some (none, 2)⟩).1 = .error (.compile c) ∧
      c.message = "unknown compile error" ∧ c.engineIndex = none ∧ es[0]? = some c.expression) ∧
    (∃ c, (done ⟨Code.compilerError, some (some "no", 1)⟩).1 = .error (.compile c) ∧
      c.message = "no" ∧ c.engineIndex = some 1 ∧ es[1]? = some c.expression) ∧
    ∃ err, (done ⟨Code.noMemory, some (some "no", 1)⟩).1 = .error err ∧
      err.kind = .outOfMemory ∧ err.compileError? = none := by
  intro es done
  have hfit : ∀ e ∈ es, e.Presentable := List.forall_mem_cons.2
    ⟨Expression.presentable_ofPattern (by decide),
      List.forall_mem_singleton.2 (Expression.presentable_ofPattern (by decide))⟩
  have hes : es ≠ [] := List.cons_ne_nil _ _
  have hattributed := fun r => failure_attributed Session.probe true hes (by decide) hfit
    (.start (⟨.empty, { Session.Script.empty with compile := some r }, .zero⟩, []))
  refine ⟨?_, ?_, ?_⟩
  · obtain ⟨-, hblamed, -⟩ := hattributed ⟨Code.compilerError, some (none, 2)⟩ (by decide)
    obtain ⟨c, hc, hmessage, hindex, hzero, hexpression⟩ := hblamed _ rfl rfl
    have hnone : c.engineIndex = none := by
      refine Option.eq_none_iff_forall_ne_some.2 fun k hk => ?_
      obtain ⟨hk, hlt⟩ := (hindex k).1 hk
      have htwo : (2 : Int) = k := hk
      have hlt : k < 2 := hlt
      omega
    rw [hzero, hnone] at hexpression
    exact ⟨c, hc, hmessage, hnone, hexpression⟩
  · obtain ⟨-, hblamed, -⟩ := hattributed ⟨Code.compilerError, some (some "no", 1)⟩ (by decide)
    obtain ⟨c, hc, hmessage, hindex, hone, hexpression⟩ := hblamed _ rfl rfl
    have hsome : c.engineIndex = some 1 := (hindex 1).2 ⟨rfl, by decide⟩
    rw [hone, hsome] at hexpression
    exact ⟨c, hc, hmessage, hsome, hexpression⟩
  · obtain ⟨-, -, hgeneral⟩ := hattributed ⟨Code.noMemory, some (some "no", 1)⟩ (by decide)
    obtain ⟨err, -, herr, hkind, -, -, hnone, -⟩ := hgeneral (.inr (by decide))
    exact ⟨err, herr, hkind, hnone⟩

end Database

end Multiscan
