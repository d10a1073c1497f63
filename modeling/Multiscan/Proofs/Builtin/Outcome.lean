import Multiscan.Proofs.Attribution
import Multiscan.Proofs.Builtin.Once
import Multiscan.Proofs.Ledger.Recording
/-!
# Built-in engine — what becomes of a batch

A batch is looked at twice. The library looks for expressions that no engine can be
given, and the engine then compiles the patterns one by one; both stop at the first
that will not do. So what becomes of a batch follows from what becomes of its
expressions alone (`batch_outcome`): the engine reads each of them as it would read
it by itself, at whatever position it stands (`compileOne_id`), and so are the
matches in a text those of the expressions alone, each under its position
(`filter_once`).
-/

namespace Multiscan

open Engine Builtin
open Text (bytesOf)

/-! ## The first that will not do -/

/-- If not all elements of a list have a property, there is a first that has not. -/
theorem exists_first {α : Type} {P : α → Prop} {l : List α} (h : ¬ ∀ a ∈ l, P a) :
    ∃ before a after, l = before ++ a :: after ∧ (∀ b ∈ before, P b) ∧ ¬ P a := by
  induction l with
  | nil => exact absurd (List.forall_mem_nil P) h
  | cons a l ih =>
    by_cases ha : P a
    · have hl : ¬ ∀ b ∈ l, P b := fun hl => h (List.forall_mem_cons.2 ⟨ha, hl⟩)
      obtain ⟨before, b, after, rfl, hbefore, hb⟩ := ih hl
      exact ⟨a :: before, b, after, rfl, List.forall_mem_cons.2 ⟨ha, hbefore⟩, hb⟩
    · exact ⟨[], a, l, rfl, List.forall_mem_nil P, ha⟩

namespace Scanner

variable {d d' : Database} {text : String} {ev : Event} {m m' : Match}

/-- Only one match stands for an event. -/
theorem Stands.unique (h : Stands d text ev m) (h' : Stands d text ev m') : m = m' := by
  have hspan := h.span.trans h'.span.symm
  obtain ⟨hstart, hstop⟩ := Prod.mk.inj hspan
  have hexpression := Option.some.inj (h.expression.symm.trans h'.expression)
  have hmatched := h.matched
  rw [hexpression, hstart, hstop, ← h'.matched] at hmatched
  have hid := h.id.trans h'.id.symm
  obtain ⟨id, start, stop, matched, expression⟩ := m
  obtain ⟨id', start', stop', matched', expression'⟩ := m'
  dsimp only at *
  rw [hid, hstart, hstop, hmatched, hexpression]

/-- A match of an expression stands for the same event wherever the expression is,
with another id. -/
theorem Stands.moved {id : UInt32} {k : Nat} (h : Stands d text ev m) (hid : id.toNat = k)
    (hexpression : d'.expression? k = some m.expression) :
    Stands d' text { ev with id := id } { m with id := k } where
  id := hid.symm
  expression := hid ▸ hexpression
  span := h.span
  start_le := h.start_le
  stop_le := h.stop_le
  matched := h.matched
  checked := h.checked

/-- Every match has the expression at the position that is its id. -/
theorem expression?_of_mem {events : List Event} {ms : List Match}
    (h : List.Forall₂ (Stands d text) events ms) :
    ∀ m ∈ ms, d.expression? m.id = some m.expression := by
  induction h with
  | nil => exact List.forall_mem_nil _
  | cons hstands _ ih =>
    exact List.forall_mem_cons.2 ⟨(congrArg _ hstands.id).trans hstands.expression, ih⟩

end Scanner

namespace Builtin

variable {setup : Setup} {es before after : List Expression} {e : Expression}
variable {p : Compiled} {message : String} {k : Nat}

/-! ## Compiling one by one -/

/-- One expression is not too many. -/
theorem length_singleton_lt (e : Expression) : [e].length < UInt32.size := by
  rw [List.length_singleton]
  decide

/-- A pattern is compiled the same under every id. -/
theorem compileOne_id (setup : Setup) (pattern : Option Text.Bytes) (flags id : UInt32) :
    compileOne setup pattern flags id =
      (compileOne setup pattern flags 0).map fun p => { p with id := id } := by
  rcases hread : readPattern pattern with message | text
  · rw [compileOne, compileOne, hread]
    rfl
  rcases hflags : readFlags .extended flags with message | ok
  · rw [compileOne, compileOne, hread, hflags]
    rfl
  have hbuild : ∀ id, compileOne setup pattern flags id = (build setup text flags).map fun r =>
      ⟨id, FlagWord.has flags .singleMatch, FlagWord.has flags .utf8, r⟩ := by
    intro id
    rw [compileOne, hread, hflags]
    rfl
  rw [hbuild id, hbuild 0]
  rcases build setup text flags with message | r
  · rfl
  · rfl

/-- A batch stops at its first pattern that is refused. -/
theorem compileAll_of_refused {sources rest : List Source} {s : Source} {patterns : List Compiled}
    (hsources : List.Forall₂ (Source.Compiles setup) sources patterns)
    (hs : compileOne setup s.pattern s.flags s.id = .error message) (i : Nat) :
    compileAll setup i (sources ++ s :: rest) = .error (i + sources.length, message) := by
  induction hsources generalizing i with
  | nil =>
    rw [List.nil_append, compileAll, hs]
    rfl
  | cons ht hsources ih =>
    rw [Source.Compiles] at ht
    rw [List.cons_append, compileAll, ht]
    dsimp only
    rw [ih, List.length_cons, Nat.add_right_comm, Nat.add_assoc]
    rfl

/-- What the engine makes of an expression that it is given, but for the id. -/
def verdict (setup : Setup) (e : Expression) : Except String Compiled :=
  compileOne setup (some (bytesOf e.pattern)) (FlagWord.ofList e.flags.toList) 0

/-- The engine makes the same of an expression at every position. -/
theorem compileOne_jobAt (setup : Setup) (e : Expression) (i : Nat) :
    compileOne setup (sourceOf (e.jobAt i)).pattern (sourceOf (e.jobAt i)).flags
        (sourceOf (e.jobAt i)).id =
      (verdict setup e).map fun p => { p with id := UInt32.ofNat i } :=
  compileOne_id setup _ _ _

theorem compiles_jobAt (h : verdict setup e = .ok p) (i : Nat) :
    (sourceOf (e.jobAt i)).Compiles setup { p with id := UInt32.ofNat i } := by
  rw [Source.Compiles, compileOne_jobAt, h]
  rfl

/-- So a batch compiles if its expressions do. -/
theorem exists_patterns (h : ∀ e ∈ es, ∃ p, verdict setup e = .ok p) (i : Nat) :
    ∃ patterns,
      List.Forall₂ (Source.Compiles setup) ((Database.jobsFrom i es).map sourceOf) patterns := by
  induction es generalizing i with
  | nil => exact ⟨[], .nil⟩
  | cons e es ih =>
    obtain ⟨⟨p, hp⟩, hes⟩ := List.forall_mem_cons.1 h
    obtain ⟨patterns, hpatterns⟩ := ih hes (i + 1)
    exact ⟨_, .cons (compiles_jobAt hp i) hpatterns⟩

/-- **The first expression that is refused** is the one that the engine names. -/
theorem compileAll_of_first (hbefore : ∀ e ∈ before, ∃ p, verdict setup e = .ok p)
    (he : verdict setup e = .error message) (after : List Expression) :
    compileAll setup 0 ((Database.jobsFrom 0 (before ++ e :: after)).map sourceOf) =
      .error (before.length, message) := by
  have hsplit : (Database.jobsFrom 0 (before ++ e :: after)).map sourceOf =
      (Database.jobsFrom 0 before).map sourceOf ++ sourceOf (e.jobAt before.length) ::
        (Database.jobsFrom (before.length + 1) after).map sourceOf := by
    rw [Database.jobsFrom_append, List.map_append, Nat.zero_add]
    rfl
  obtain ⟨patterns, hpatterns⟩ := exists_patterns hbefore 0
  have hrefused := compileOne_jobAt setup e before.length
  rw [he] at hrefused
  rw [hsplit, compileAll_of_refused hpatterns hrefused, Nat.zero_add, List.length_map,
    Database.length_jobsFrom]

/-- A record has the position of the first 2 ^ 31 expressions, and of no others. -/
theorem batchIndex_recordIndex {i count : Nat} (hi : i < count) (hcount : count < UInt32.size) :
    Database.batchIndex count (recordIndex i) = if i < 2 ^ 31 then some i else none := by
  split
  · next hsmall =>
    rw [Database.batchIndex_eq_some, recordIndex, Int32.toInt_ofNat_of_lt hsmall]
    exact ⟨rfl, hi⟩
  · next hlarge =>
    have hsize : UInt32.size = 4294967296 := rfl
    have hneg : recordIndex i < 0 := by
      rw [recordIndex, Int32.toInt_ofNat', Int.bmod_def]
      have h32 : Int32.size = 4294967296 := rfl
      rw [h32]
      split <;> omega
    rw [Database.batchIndex, if_neg (by omega)]

/-! ## Matches -/

variable {patterns : List Compiled} {text : String}

/-- One pattern has the id of a position: that of the expression there. -/
theorem filter_patterns (hcount : es.length < UInt32.size)
    (hpatterns : compileAll setup 0 ((Database.jobsFrom 0 es).map sourceOf) = .ok patterns)
    (hk : es[k]? = some e) (hp : verdict setup e = .ok p) :
    patterns.filter (·.id == UInt32.ofNat k) = [{ p with id := UInt32.ofNat k }] := by
  have hsource : ((Database.jobsFrom 0 es).map sourceOf).filter (·.id == UInt32.ofNat k) =
      [sourceOf (e.jobAt k)] := by
    rw [List.filter_map]
    exact congrArg (List.map sourceOf) (Database.filter_jobsFrom hcount hk)
  have hfilter := compileAll_filter hpatterns (UInt32.ofNat k)
  have hone := (compileAll_iff 0).2 (.cons (compiles_jobAt hp k) .nil)
  rw [hsource] at hfilter
  exact Except.ok.inj (hfilter.symm.trans hone)

/-- Its events are those of the expression alone, with its id. -/
theorem filter_events (hcount : es.length < UInt32.size)
    (hpatterns : compileAll setup 0 ((Database.jobsFrom 0 es).map sourceOf) = .ok patterns)
    (hk : es[k]? = some e) (hp : verdict setup e = .ok p) {data : Text.Bytes}
    (hsize : data.size < UInt32.size) :
    (orderedEvents patterns data).filter (·.id == UInt32.ofNat k) =
      (orderedEvents [p] data).map fun ev => { ev with id := UInt32.ofNat k } := by
  rw [filter_orderedEvents, filter_patterns hcount hpatterns hk hp, orderedEvents_singleton _ hsize,
    orderedEvents_singleton _ hsize, Compiled.events_eq, Compiled.events_eq, List.map_map]
  rfl

/-- **What a batch matches** is what its expressions match alone, each under its
position. -/
theorem filter_once (hcount : es.length < UInt32.size) (hfit : ∀ e ∈ es, e.Presentable)
    (hverdicts : ∀ e ∈ es, ∃ p, verdict setup e = .ok p) (hes : es ≠ [])
    (hsize : (bytesOf text).size < UInt32.size) (groups : Bool) (w : World Heap) :
    ∃ ms events, ((once (engine setup) groups es text).attempt w).1 = .ok (ms, events) ∧
      (∀ m ∈ ms, es[m.id]? = some m.expression) ∧
      ∀ k e, es[k]? = some e → ∀ u : World Heap,
        ∃ alone events',
          ((once (engine setup) groups [e] text).attempt u).1 = .ok (alone, events') ∧
          ms.filter (·.id == k) = alone.map fun m => { m with id := k } := by
  obtain ⟨patterns, hforall⟩ := exists_patterns hverdicts 0
  have hpatterns := (compileAll_iff 0).2 hforall
  have hjobs := Database.jobs_of_presentable hfit 0
  obtain ⟨ms, w', honce, hstands⟩ := once_ok hes hcount hjobs hpatterns hsize groups w
  refine ⟨ms, _, congrArg Prod.fst honce, Scanner.expression?_of_mem hstands,
    fun k e hk u => ?_⟩
  have he : e ∈ es := List.mem_of_getElem? hk
  have hfit' : ∀ e' ∈ [e], e'.Presentable := by
    rintro _ (_ | ⟨_, ⟨⟩⟩)
    exact hfit e he
  obtain ⟨p, hp⟩ := hverdicts e he
  have hpattern : compileAll setup 0 ((Database.jobsFrom 0 [e]).map sourceOf) = .ok [p] :=
    (compileAll_iff 0).2 (.cons hp .nil)
  obtain ⟨alone, u', halone, hstands'⟩ := once_ok (List.cons_ne_nil _ _) (length_singleton_lt e)
    (Database.jobs_of_presentable hfit' 0) hpattern hsize groups u
  refine ⟨alone, _, congrArg Prod.fst halone, ?_⟩
  have hid : (UInt32.ofNat k).toNat = k :=
    UInt32.toNat_ofNat_of_lt' (Nat.lt_trans (List.getElem?_eq_some_iff.1 hk).1 hcount)
  -- Both sides stand for the events with the id, one by one.
  have hfilter : List.Forall₂ (Scanner.Stands ⟨some w.engine.cells.size, es⟩ text)
      ((orderedEvents [p] (bytesOf text)).map fun ev => { ev with id := UInt32.ofNat k })
      (ms.filter (·.id == k)) := by
    rw [← filter_events hcount hpatterns hk hp hsize]
    refine List.rel_filter (fun ev m h => ?_) hstands
    change (ev.id == UInt32.ofNat k) = true ↔ (m.id == k) = true
    rw [beq_iff_eq, beq_iff_eq, h.id, ← UInt32.toNat_inj, hid]
  have hmoved : List.Forall₂ (Scanner.Stands ⟨some w.engine.cells.size, es⟩ text)
      ((orderedEvents [p] (bytesOf text)).map fun ev => { ev with id := UInt32.ofNat k })
      (alone.map fun m => { m with id := k }) := by
    rw [List.forall₂_map_left_iff, List.forall₂_map_right_iff]
    refine hstands'.imp fun ev m h => ?_
    have hsame : m.expression = e := List.mem_singleton.1 (List.mem_of_getElem? h.expression)
    exact h.moved hid (hsame ▸ hk)
  exact List.right_unique_forall₂' (fun _ _ _ h h' => h.unique h') hfilter hmoved

/-! ## Batches -/

variable {i : Nat}

/-- The engine compiles what it is given for a batch. -/
theorem answer_compile (setup : Setup) (hes : es ≠ []) (groups : Bool) (heap : Heap) :
    (engine setup).answer (.compile (Database.jobsFrom 0 es) (modeOf groups)) heap =
      match compileAll setup 0 ((Database.jobsFrom 0 es).map sourceOf) with
      | .ok patterns => (⟨Code.success, some heap.cells.size, none⟩,
          (heap.give (.database patterns)).2)
      | .error (i, message) =>
          (⟨Code.compilerError, none, some ⟨heap.cells.size, some message, recordIndex i⟩⟩,
            (heap.give (.record (some message) (recordIndex i))).2) := by
  refine compileBatch_apply ?_ groups heap
  rwa [ne_eq, List.map_eq_nil_iff, ← List.length_eq_zero_iff, Database.length_jobsFrom,
    List.length_eq_zero_iff]

/-- A batch that the engine refuses is put down to the expression at the position that
it gives, or to the first one. -/
theorem compile_of_refused (hes : es ≠ []) (hcount : es.length < UInt32.size)
    (hfit : ∀ e ∈ es, e.Presentable)
    (hbatch : compileAll setup 0 ((Database.jobsFrom 0 es).map sourceOf) = .error (i, message))
    (groups : Bool) (w : World Heap) :
    ∃ c, ((Database.compile (engine setup) groups es).attempt w).1 = .error (.compile c) ∧
      c.message = message ∧ c.engineIndex = Database.batchIndex es.length (recordIndex i) ∧
      c.index = c.engineIndex.getD 0 ∧ es[c.index]? = some c.expression := by
  have hanswer := answer_compile setup hes groups w.engine
  rw [hbatch] at hanswer
  obtain ⟨first, rest, rfl⟩ := List.exists_cons_of_ne_nil hes
  have happly := Database.compile_apply (E := engine setup) hcount
    (Database.jobs_of_presentable hfit 0) groups w
  rw [hanswer] at happly
  dsimp only at happly
  rw [if_neg (by decide), Database.refusal_of_record rfl, if_pos rfl] at happly
  exact ⟨_, congrArg Prod.fst happly, rfl, rfl, rfl, Database.getElem?_blame _ _ _ _⟩

/-- A batch that the engine compiles costs one request. -/
theorem compile_of_compiled {patterns : List Compiled} (hes : es ≠ [])
    (hcount : es.length < UInt32.size) (hfit : ∀ e ∈ es, e.Presentable)
    (hbatch : compileAll setup 0 ((Database.jobsFrom 0 es).map sourceOf) = .ok patterns)
    (groups : Bool) (w : World (Heap × Transcript)) :
    ∃ (h : Handle) (reply : CompileReply) (w' : World (Heap × Transcript)),
      (Database.compile (engine setup).recorded groups es).attempt w = (.ok ⟨some h, es⟩, w') ∧
      w'.engine.2 = w.engine.2 ++
        [⟨.compile (Database.jobsFrom 0 es) (modeOf groups), reply⟩] := by
  have hanswer := answer_compile setup hes groups w.engine.1
  rw [hbatch] at hanswer
  have hreply : ((engine setup).recorded.answer
      (.compile (Database.jobsFrom 0 es) (modeOf groups)) w.engine).1 =
      ⟨Code.success, some w.engine.1.cells.size, none⟩ := congrArg Prod.fst hanswer
  obtain ⟨first, rest, rfl⟩ := List.exists_cons_of_ne_nil hes
  have happly := Database.compile_apply (E := (engine setup).recorded) hcount
    (Database.jobs_of_presentable hfit 0) groups w
  dsimp only at happly
  rw [hreply, if_pos rfl] at happly
  exact ⟨_, _, _, happly, rfl⟩

/-! ## Outcomes -/

/-- An expression that is refused alone is refused with what the engine has against
it. -/
theorem compile_alone_of_error (he : e.Presentable) (h : verdict setup e = .error message)
    (groups : Bool) (w : World Heap) :
    ∃ c, ((Database.compile (engine setup) groups [e]).attempt w).1 = .error (.compile c) ∧
      c.message = message := by
  have hfirst := compileAll_of_first (List.forall_mem_nil _) h []
  obtain ⟨c, hc, hmessage, -⟩ := compile_of_refused (List.cons_ne_nil _ _) (length_singleton_lt e)
    (List.forall_mem_singleton.2 he) hfirst groups w
  exact ⟨c, hc, hmessage⟩

/-- An expression compiles alone if the engine has nothing against it. -/
theorem compile_alone_iff (he : e.Presentable) (groups : Bool) (w : World Heap) :
    (∃ d, ((Database.compile (engine setup) groups [e]).attempt w).1 = .ok d) ↔
      ∃ p, verdict setup e = .ok p := by
  rcases hverdict : verdict setup e with message | p
  · obtain ⟨c, hc, -⟩ := compile_alone_of_error he hverdict groups w
    rw [hc]
    exact iff_of_false (fun ⟨_, h⟩ => nomatch h) (fun ⟨_, h⟩ => nomatch h)
  · have hpattern : compileAll setup 0 ((Database.jobsFrom 0 [e]).map sourceOf) = .ok [p] :=
      (compileAll_iff 0).2 (.cons hverdict .nil)
    have hjobs := Database.jobs_of_presentable (List.forall_mem_singleton.2 he) 0
    obtain ⟨notes, hcompile⟩ := compile_of_compileAll (List.cons_ne_nil _ _)
      (length_singleton_lt e) hjobs hpattern groups w
    exact iff_of_true ⟨_, congrArg Prod.fst hcompile⟩ ⟨p, rfl⟩

/-- **The first expression that is refused alone is blamed**, with what the engine has
against it, as long as its position has a place in a record. -/
theorem compile_of_first (hcount : (before ++ e :: after).length < UInt32.size)
    (hfit : ∀ e' ∈ before ++ e :: after, e'.Presentable)
    (hbefore : ∀ e' ∈ before, ∃ p, verdict setup e' = .ok p)
    (he : verdict setup e = .error message) (groups : Bool) (w : World Heap) :
    ∃ c, ((Database.compile (engine setup) groups (before ++ e :: after)).attempt w).1 =
        .error (.compile c) ∧ c.message = message ∧
      (before.length < 2 ^ 31 → c.engineIndex = some before.length ∧ c.index = before.length ∧
        c.expression = e) ∧
      (2 ^ 31 ≤ before.length → c.engineIndex = none ∧ c.index = 0 ∧
        (before ++ e :: after)[0]? = some c.expression) := by
  have hes := List.append_ne_nil_of_right_ne_nil before (List.cons_ne_nil e after)
  have hlt : before.length < (before ++ e :: after).length := by
    rw [List.length_append, List.length_cons]
    omega
  obtain ⟨c, hc, hmessage, hengine, hindex, hblamed⟩ := compile_of_refused hes hcount hfit
    (compileAll_of_first hbefore he after) groups w
  rw [batchIndex_recordIndex hlt hcount] at hengine
  refine ⟨c, hc, hmessage, fun hsmall => ?_, fun hlarge => ?_⟩
  · rw [if_pos hsmall] at hengine
    rw [hengine, Option.getD_some] at hindex
    rw [hindex, List.getElem?_append_right (Nat.le_refl _), Nat.sub_self] at hblamed
    exact ⟨hengine, hindex, (Option.some.inj hblamed).symm⟩
  · rw [if_neg (Nat.not_lt.2 hlarge)] at hengine
    rw [hengine, Option.getD_none] at hindex
    rw [hindex] at hblamed
    exact ⟨hengine, hindex, hblamed⟩

/-- An operation is declined: a parameter is found to be invalid before the engine is
asked, and nothing happens. -/
def Declines {σ α : Type} (a : Act σ α) (w : World σ) (context : String) : Prop :=
  ∃ err, a.attempt w = (.error err, w) ∧ err.kind = .invalidParameter ∧ err.code? = none ∧
    err.context = some context

/-- What the library finds wrong with a batch does not reach the engine. -/
theorem declines_of_request {groups : Bool} {context : String}
    (h : (Task.compile groups es).request? = .error (.invalid context)) {σ : Type} (E : Engine σ)
    (w : World σ) : Declines (Database.compile E groups es) w context :=
  ⟨_, Task.run_of_error h E w, rfl, rfl, rfl⟩

theorem request?_of_many (groups : Bool) (hmany : UInt32.size ≤ es.length) :
    (Task.compile groups es).request? = .error (.invalid "too many expressions") := by
  rcases es with _ | ⟨first, rest⟩
  · exact absurd hmany (by decide)
  · exact if_pos hmany

theorem request?_of_unfit (groups : Bool) (hcount : (before ++ e :: after).length < UInt32.size)
    (hbefore : ∀ e' ∈ before, e'.Presentable) {reason : String} (he : e.Unfit reason) :
    (Task.compile groups (before ++ e :: after)).request? =
      .error (.invalid ("expression " ++ Nat.repr before.length ++ ": " ++ reason)) := by
  have hjobs := Database.jobs_of_unfit hbefore he after 0
  rw [Nat.zero_add] at hjobs
  obtain ⟨first, rest, hes⟩ := List.exists_cons_of_ne_nil
    (List.append_ne_nil_of_right_ne_nil before (List.cons_ne_nil e after))
  rw [hes] at hcount hjobs ⊢
  have hfew : ¬ UInt32.size ≤ rest.length + 1 := Nat.not_le.2 hcount
  rw [Task.request?, if_neg hfew, hjobs]
  rfl

/-- **What becomes of a batch.** Compiling it is declined if it is empty or has more
expressions than there are ids, and if there is an expression that an engine cannot be
given; the error then names the first of these, and what is wrong with it, whatever the
engine would have to say of others. Otherwise the batch is refused if one of its
expressions is refused alone: the error has the message that the first of these gets
alone, and blames that expression, provided that its position has a place in 32 bits
with a sign. If all of them compile alone, so does the batch, with one request that has
every pattern in full. The database has the expressions at their positions, and its
matches in a text are those that the expressions have alone, each with its position as
its id. -/
theorem batch_outcome (setup : Setup) (groups : Bool) (es : List Expression)
    (w : World (Heap × Transcript)) (w₀ : World Heap) :
    let compiling := Database.compile (engine setup).recorded groups es
    let done := compiling.attempt w
    let alone (e : Expression) := ((Database.compile (engine setup) groups [e]).attempt w₀).1
    (es = [] → Declines compiling w "at least one expression is required") ∧
    (UInt32.size ≤ es.length → Declines compiling w "too many expressions") ∧
    (es.length < UInt32.size → (¬ ∀ e ∈ es, e.Presentable) →
      ∃ before e after reason, es = before ++ e :: after ∧ (∀ e' ∈ before, e'.Presentable) ∧
        ¬ e.Presentable ∧ e.Unfit reason ∧
        Declines compiling w ("expression " ++ Nat.repr before.length ++ ": " ++ reason)) ∧
    (es.length < UInt32.size → (∀ e ∈ es, e.Presentable) → (¬ ∀ e ∈ es, ∃ d, alone e = .ok d) →
      ∃ before e after c c', es = before ++ e :: after ∧ (∀ e' ∈ before, ∃ d, alone e' = .ok d) ∧
        alone e = .error (.compile c') ∧ done.1 = .error (.compile c) ∧ c.message = c'.message ∧
        (before.length < 2 ^ 31 → c.engineIndex = some before.length ∧ c.index = before.length ∧
          c.expression = e) ∧
        (2 ^ 31 ≤ before.length → c.engineIndex = none ∧ c.index = 0 ∧
          es[0]? = some c.expression)) ∧
    (es ≠ [] → es.length < UInt32.size → (∀ e ∈ es, e.Presentable) →
      (∀ e ∈ es, ∃ d, alone e = .ok d) →
      ∃ d reply, done.1 = .ok d ∧ d.length = es.length ∧ (∀ i, d.expression? i = es[i]?) ∧
        done.2.engine.2 = w.engine.2 ++
          [⟨.compile (Database.jobsFrom 0 es) (modeOf groups), reply⟩] ∧
        (∀ i e, es[i]? = some e → ∃ j, (Database.jobsFrom 0 es)[i]? = some j ∧
          readPattern (some j.pattern) = .ok e.pattern.toList ∧ j.id = UInt32.ofNat i) ∧
        ∀ text, (bytesOf text).size < UInt32.size → ∀ w₁ : World Heap,
          ∃ ms events, ((once (engine setup) groups es text).attempt w₁).1 = .ok (ms, events) ∧
            (∀ m ∈ ms, es[m.id]? = some m.expression) ∧
            ∀ i e, es[i]? = some e → ∀ w₂ : World Heap, ∃ ms' events',
              ((once (engine setup) groups [e] text).attempt w₂).1 = .ok (ms', events') ∧
                ms.filter (·.id == i) = ms'.map fun m => { m with id := i }) := by
  intro compiling done alone
  -- Writing down what is asked makes no difference to what comes of it.
  have hvalue : done.1 =
      ((Database.compile (engine setup) groups es).attempt (w.map Prod.fst)).1 :=
    (congrArg Prod.fst (Database.compile_mirrors (Engine.recorded_mirrors _) groups es w)).symm
  have halone : (∀ e ∈ es, e.Presentable) →
      ((∀ e ∈ es, ∃ d, alone e = .ok d) ↔ ∀ e ∈ es, ∃ p, verdict setup e = .ok p) :=
    fun hfit => forall₂_congr fun e he => compile_alone_iff (hfit e he) groups w₀
  refine ⟨?_, fun hmany => ?_, fun hcount hunfit => ?_, fun hcount hfit hrefused => ?_,
    fun hes hcount hfit haccepted => ?_⟩
  · rintro rfl
    exact declines_of_request rfl _ w
  · exact declines_of_request (request?_of_many groups hmany) _ w
  · obtain ⟨before, e, after, rfl, hbefore, he⟩ := exists_first hunfit
    obtain ⟨reason, hreason⟩ := (e.presentable_or_unfit).resolve_left he
    exact ⟨before, e, after, reason, rfl, hbefore, he, hreason,
      declines_of_request (request?_of_unfit groups hcount hbefore hreason) _ w⟩
  · rw [halone hfit] at hrefused
    obtain ⟨before, e, after, rfl, hbefore, he⟩ := exists_first hrefused
    obtain ⟨message, hmessage⟩ : ∃ message, verdict setup e = .error message := by
      rcases hverdict : verdict setup e with message | p
      · exact ⟨message, rfl⟩
      · exact absurd ⟨p, hverdict⟩ he
    obtain ⟨c', hc', hmessage'⟩ := compile_alone_of_error (hfit e List.mem_append_cons_self)
      hmessage groups w₀
    obtain ⟨c, hc, hsame, hblamed, hlarge⟩ := compile_of_first hcount hfit hbefore hmessage groups
      (w.map Prod.fst)
    refine ⟨before, e, after, c, c', rfl, fun e' he' => ?_, hc', hvalue.trans hc,
      hsame.trans hmessage'.symm, hblamed, hlarge⟩
    have hfit' := hfit e' (List.mem_append_left _ he')
    exact (compile_alone_iff hfit' groups w₀).2 (hbefore e' he')
  · rw [halone hfit] at haccepted
    obtain ⟨patterns, hpatterns⟩ := exists_patterns haccepted 0
    obtain ⟨h, reply, w', hdone, htranscript⟩ := compile_of_compiled hes hcount hfit
      ((compileAll_iff 0).2 hpatterns) groups w
    have hdone : done = (.ok ⟨some h, es⟩, w') := hdone
    rw [hdone]
    refine ⟨⟨some h, es⟩, reply, rfl, rfl, fun _ => rfl, htranscript, fun i e hi => ?_,
      fun text hsize w₁ => filter_once hcount hfit haccepted hes hsize groups w₁⟩
    have he := hfit e (List.mem_of_getElem? hi)
    have hplace := Database.getElem?_jobsFrom hi 0
    rw [Nat.zero_add] at hplace
    exact ⟨e.jobAt i, hplace, readPattern_of_patternBytes (patternBytes_of_not_mem he.nul), rfl⟩

/-- A batch with a NUL after a pattern that is wrong, one whose second pattern is wrong,
and one with nothing wrong. -/
theorem batch_outcome_of_two :
    let good := Expression.ofPattern "a" .empty
    let bad := Expression.ofPattern "(" .empty
    let nul := Expression.ofPattern "a\x00" .empty
    let w : World (Heap × Transcript) := .start (.empty, [])
    let compiling := fun es => Database.compile (engine .unlimited).recorded false es
    (∃ reason, nul.Unfit reason ∧
      Declines (compiling [bad, nul]) w ("expression " ++ Nat.repr 1 ++ ": " ++ reason)) ∧
    (∃ c c', ((Database.compile (engine .unlimited) false [bad]).attempt world).1 =
        .error (.compile c') ∧ ((compiling [good, bad]).attempt w).1 = .error (.compile c) ∧
      c.message = c'.message ∧ c.engineIndex = some 1 ∧ c.expression = bad) ∧
    ∃ d, ((compiling [good, good]).attempt w).1 = .ok d ∧ d.length = 2 ∧
      d.expression? 1 = some good := by
  intro good bad nul w compiling
  -- The first of two that will not do, the first of them being all right, is the second.
  have hsecond : ∀ {P : Expression → Prop} {x y e : Expression} {before after : List Expression},
      P x → [x, y] = before ++ e :: after → ¬ P e → before = [x] ∧ e = y := by
    intro P x y e before after hx hsplit he
    rcases before with _ | ⟨b, _ | ⟨b', before⟩⟩
    · obtain rfl := (List.cons.inj hsplit).1
      exact absurd hx he
    · obtain ⟨rfl, hrest⟩ := List.cons.inj hsplit
      exact ⟨rfl, (List.cons.inj hrest).1.symm⟩
    · have hlength := congrArg List.length hsplit
      simp at hlength
  have hgood : good.Presentable := Expression.presentable_ofPattern (by decide)
  have hbad : bad.Presentable := Expression.presentable_ofPattern (by decide)
  have hnul : ¬ nul.Presentable := fun h => h.nul (by decide)
  have haccepted : ((Database.compile (engine .unlimited) false [good]).attempt
      world).1.toOption.isSome = true := by decide +kernel
  have hrefused : ((Database.compile (engine .unlimited) false [bad]).attempt
      world).1.toOption.isSome = false := by decide +kernel
  obtain ⟨d, hd⟩ := Option.isSome_iff_exists.1 haccepted
  have hd := eq_ok_of_toOption hd
  have hnone : ¬ ∃ d, ((Database.compile (engine .unlimited) false [bad]).attempt world).1 =
      .ok d := by
    rintro ⟨d, hd⟩
    rw [hd] at hrefused
    exact nomatch hrefused
  refine ⟨?_, ?_, ?_⟩
  · obtain ⟨before, e, after, reason, hes, -, he, hreason, hdeclines⟩ :=
      (batch_outcome .unlimited false [bad, nul] w world).2.2.1 (by decide)
        fun h => hnul (h nul (by simp))
    obtain ⟨rfl, rfl⟩ := hsecond hbad hes he
    exact ⟨reason, hreason, hdeclines⟩
  · obtain ⟨before, e, after, c, c', hes, -, hc', hc, hmessage, hblamed, -⟩ :=
      (batch_outcome .unlimited false [good, bad] w world).2.2.2.1 (by decide)
        (List.forall_mem_cons.2 ⟨hgood, List.forall_mem_singleton.2 hbad⟩)
        fun h => hnone (h bad (by simp))
    obtain ⟨rfl, rfl⟩ := hsecond (P := fun e =>
      ∃ d, ((Database.compile (engine .unlimited) false [e]).attempt world).1 = .ok d) ⟨d, hd⟩ hes
      fun ⟨_, h⟩ => nomatch h.symm.trans hc'
    obtain ⟨hengine, -, hexpression⟩ := hblamed (by decide)
    exact ⟨c, c', hc', hc, hmessage, hengine, hexpression⟩
  · obtain ⟨d', -, hd', hlength, hexpressions, -⟩ :=
      (batch_outcome .unlimited false [good, good] w world).2.2.2.2 (List.cons_ne_nil _ _)
        (by decide) (List.forall_mem_cons.2 ⟨hgood, List.forall_mem_singleton.2 hgood⟩)
        (List.forall_mem_cons.2 ⟨⟨d, hd⟩, List.forall_mem_singleton.2 ⟨d, hd⟩⟩)
    exact ⟨d', hd', hlength, hexpressions 1⟩

end Builtin

end Multiscan
