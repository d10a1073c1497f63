import Multiscan.Proofs.Builtin.Growth
import Multiscan.Proofs.Builtin.Outcome
import Multiscan.Proofs.Cli.Expressions
import Multiscan.Proofs.Text.Decimal
/-!
# Command line — scanning and how it is reported

A scan says the same whichever way it is asked to say it. What is printed is read off
one list of matches, those of a single scan of the text (`runScan_eq`): scanning it
again and again with the same scratch space finds them again (`Ready.scanRounds`). The
main statement is `outputs_agree`.
-/

namespace Multiscan.Cli

open Builtin Engine
open Text (Bytes bytesOf)

variable {setup : Setup} {d : Database} {sc : Scanner} {w : World Heap}
variable {patterns : List Compiled} {b k : Handle} {n : Nat}

/-! ## Scanning again and again -/

/-- A database is there, and scratch space with room for it that is not in use. -/
structure Ready (patterns : List Compiled) (b k : Handle) (n : Nat) (d : Database) (sc : Scanner)
    (w : World Heap) : Prop where
  handle : d.handle = some b
  database : w.engine.database? (some b) = some patterns
  stage : sc.stage = .allocated k
  scratch : w.engine.scratch? (some k) = some (n, false)
  room : patterns.length ≤ n

/-- A scan does to the engine what the engine does in its answer. -/
theorem engine_scanStep {σ : Type} {E : Engine σ} {v : World σ} {text : String} {data : Bytes}
    (hask : sc.toAsk d text = .ok (k, b, data)) :
    (sc.scanStep E d text v).2.engine = (E.answer (.scan b k data) v.engine).2 := by
  rw [Scanner.scanStep, hask]
  rcases hanswer : E.answer (.scan b k data) v.engine with ⟨⟨code, events⟩, e⟩
  simp only [Step.bind_apply, World.ask_apply, hanswer]
  by_cases hcode : code = Code.success
  · rw [if_neg (not_not.2 hcode)]
    rfl
  · rw [if_pos hcode]
    rfl

namespace Ready

/-- The answer to a scan, and the heap after it. -/
theorem answer (h : Ready patterns b k n d sc w) (setup : Setup) (data : Bytes) :
    (engine setup).answer (.scan b k data) w.engine =
      (⟨Code.success, orderedEvents patterns data⟩,
        w.engine.put k (.scratch n false (orderedEvents patterns data))) := by
  change collectScan b k data w.engine = _
  rw [collectScan_apply, h.database, h.scratch]
  dsimp only
  rw [if_neg (Nat.not_lt.2 h.room), if_neg Bool.false_ne_true]

/-- It is also ready in a heap whose scratch space has other matches in its buffer. -/
theorem put (h : Ready patterns b k n d sc w) (events : List Event) {w' : World Heap}
    {buffer : List Event} (hw : w'.engine = w.engine.put k (.scratch n false buffer)) :
    Ready patterns b k n d (sc.forget.hear events) w' := by
  obtain ⟨buffer', hk⟩ := Heap.scratch?_some.1 h.scratch
  have hb := (Heap.database?_some patterns).1 h.database
  have hne : b ≠ k := by
    rintro rfl
    rw [hk] at hb
    cases hb
  refine ⟨h.handle, ?_, h.stage, ?_, h.room⟩
  · rw [Heap.database?_some, hw, Heap.cell?_put (Heap.lt_of_cell? hk), if_neg hne]
    exact hb
  · rw [hw]
    exact Heap.scratch?_some.2 ⟨buffer, Heap.cell?_put_self hk _⟩

/-- **A scan leaves everything ready** for the next one. -/
theorem scanStep (h : Ready patterns b k n d sc w) (setup : Setup) {text : String}
    (hsize : (bytesOf text).size < UInt32.size) :
    ∃ sc' w', sc.scanStep (engine setup) d text w =
        ((Scanner.translateAll d text.toList (orderedEvents patterns (bytesOf text)), sc'), w') ∧
      Ready patterns b k n d sc' w' := by
  have hask := Scanner.toAsk_eq h.stage h.handle text
  rw [if_neg (Nat.not_le.2 hsize)] at hask
  have hanswer := h.answer setup (bytesOf text)
  have hstep := Scanner.scanStep_of_answer hask hanswer
  rw [if_pos rfl] at hstep
  exact ⟨_, _, Prod.ext hstep rfl,
    h.put _ ((engine_scanStep hask).trans (congrArg Prod.snd hanswer))⟩

/-- **Scanning again and again** finds the same matches. -/
theorem scanRounds (h : Ready patterns b k n d sc w) (setup : Setup) {text : String}
    (hsize : (bytesOf text).size < UInt32.size) {ms : List Match}
    (hms : Scanner.translateAll d text.toList (orderedEvents patterns (bytesOf text)) = .ok ms)
    (rounds : Nat) (last : List Match) :
    ((Cli.scanRounds (engine setup) sc d text (rounds + 1) last).attempt w).1 = .ok ms := by
  induction rounds generalizing sc w last with
  | zero =>
    obtain ⟨sc', w', hstep, -⟩ := h.scanStep setup hsize
    rw [Cli.scanRounds, Act.attempt_bind_lift, hstep, hms]
    rfl
  | succ rounds ih =>
    obtain ⟨sc', w', hstep, h'⟩ := h.scanStep setup hsize
    rw [Cli.scanRounds, Act.attempt_bind_lift, hstep, hms]
    exact ih h' ms

/-- A text that is too long is refused in the first round. -/
theorem scanRounds_tooLong (h : Ready patterns b k n d sc w) (setup : Setup) {text : String}
    (hsize : UInt32.size ≤ (bytesOf text).size) (rounds : Nat) (last : List Match) :
    ((Cli.scanRounds (engine setup) sc d text (rounds + 1) last).attempt w).1 =
      .error (Scanner.tooLong (bytesOf text).size) := by
  have hask := Scanner.toAsk_eq h.stage h.handle text
  rw [if_pos hsize] at hask
  rw [Cli.scanRounds, Act.attempt_bind_lift, Scanner.scanStep, hask]
  rfl

/-- What the sizes are that are told of a database and scratch space. -/
theorem sizes (h : Ready patterns b k n d sc w) (setup : Setup) :
    (sc.scratchSize (engine setup)).attempt w = (.ok (wholeShare n), w) :=
  (scratchSize_apply setup (by rw [Scanner.scratch?, h.stage]) h.scratch).1

end Ready

/-- The size of a database that is there. -/
theorem size_apply (setup : Setup) (hd : d.handle = some b)
    (hb : w.engine.database? (some b) = some patterns) :
    (d.size (engine setup)).attempt w = (.ok (databaseShare setup.builder patterns), w) := by
  have hhandle : d.handle? = .ok b := by rw [Database.handle?, hd]
  have hask : World.ask (engine setup) (.databaseSize b) w =
      (⟨Code.success, databaseShare setup.builder patterns⟩, w) := by
    have hanswer : (engine setup).answer (.databaseSize b) w.engine =
        databaseSize setup.builder (some b) w.engine := rfl
    rw [World.ask_apply, hanswer, databaseSize_apply, hb]
  rw [Database.size, hhandle, Act.attempt_bind_ok, Act.attempt_bind_lift, hask]
  rfl

/-- **What compiles can be made ready.** -/
theorem exists_ready {jobs : List Job} {es : List Expression} (hes : es ≠ [])
    (hcount : es.length < UInt32.size) (hjobs : Database.jobs 0 es = .ok jobs)
    (hpatterns : compileAll setup 0 (jobs.map sourceOf) = .ok patterns) (groups : Bool)
    (w : World Heap) :
    ∃ b k w₁ sc w₂,
      (Database.compile (engine setup) groups es).attempt w = (.ok ⟨some b, es⟩, w₁) ∧
      (Database.size (engine setup) ⟨some b, es⟩).attempt w₁ =
        (.ok (databaseShare setup.builder patterns), w₁) ∧
      (Scanner.ofDatabase (engine setup) ⟨some b, es⟩).attempt w₁ = (.ok sc, w₂) ∧
      Ready patterns b k patterns.length ⟨some b, es⟩ sc w₂ := by
  obtain ⟨notes, hcompile⟩ := compile_of_compileAll hes hcount hjobs hpatterns groups w
  let b := w.engine.cells.size
  let heap := (w.engine.give (.database patterns)).2
  let heap' := (heap.give (.scratch patterns.length false [])).2
  have hb : heap.database? (some b) = some patterns := by
    rw [Heap.database?_some, Heap.cell?_give, if_pos rfl]
  have halloc : (engine setup).answer (.allocScratch b none) heap =
      (⟨Code.success, some heap.cells.size⟩, heap') := by
    change allocScratch (some b) none heap = _
    rw [allocScratch_apply, hb]
  have hscanner : (Scanner.ofDatabase (engine setup) ⟨some b, es⟩).attempt ⟨heap, notes⟩ = _ :=
    Scanner.alloc_of_answer rfl rfl halloc
  refine ⟨b, heap.cells.size, ⟨heap, notes⟩, ⟨.allocated heap.cells.size, []⟩, _, hcompile,
    size_apply setup rfl hb, hscanner.trans (if_pos rfl), rfl, ?_, rfl, ?_, Nat.le_refl _⟩
  · have hne : b ≠ heap.cells.size := by
      rw [Heap.size_give]
      exact Nat.ne_of_lt (Nat.lt_succ_self _)
    rw [Heap.database?_some] at hb ⊢
    rw [Heap.cell?_give, if_neg hne]
    exact hb
  · exact Heap.scratch?_some.2 ⟨[], by rw [Heap.cell?_give, if_pos rfl]⟩

/-! ## The report on a scan -/

variable {builder : Builder} {files : Files} {s : Settings} {es : List Expression}
variable {jobs : List Job} {text : String} {ms : List Match}

section Runs

variable {α β : Type}

theorem run_always (step : Step Heap α) (w : World Heap) :
    (always step).run w = (.ok (step w).1, (step w).2) := rfl

theorem run_given (x : Except String α) (w : World Heap) :
    (ExceptT.mk (pure x) : Try α).run w = (x, w) := rfl

theorem run_orChain (act : Act Heap α) (w : World Heap) :
    (orChain act).run w = ((act.attempt w).1.mapError chain, (act.attempt w).2) := by
  rw [orChain, run_bind, run_always]
  rcases act.attempt w with ⟨e | a, w'⟩ <;> rfl

theorem run_bind_orChain {act : Act Heap α} {a : α} {w w' : World Heap}
    (h : act.attempt w = (.ok a, w')) (f : α → Try β) :
    (orChain act >>= f).run w = (f a).run w' := by
  rw [run_bind, run_orChain, h]
  rfl

/-- What succeeds as a whole succeeds at its first step. -/
theorem exists_of_run_orChain_bind {act : Act Heap α} {f : α → Try β} {w : World Heap} {r : β}
    (h : ((orChain act >>= f).run w).1 = .ok r) :
    ∃ a w', act.attempt w = (.ok a, w') ∧ ((f a).run w').1 = .ok r := by
  rw [run_bind, run_orChain] at h
  rcases hact : act.attempt w with ⟨e | a, w'⟩
  · rw [hact] at h
    cases h
  · rw [hact] at h
    exact ⟨a, w', rfl, h⟩

theorem exists_of_reported {t : Try Report} (h : (reported t).failure = none) :
    ∃ r, (t.run Builtin.world).1 = .ok r := by
  rw [reported] at h
  split at h
  · next r hr => exact ⟨r, hr⟩
  · cases h

theorem reported_eq {t : Try Report} {r : Report} (h : (t.run Builtin.world).1 = .ok r) :
    reported t = r := by
  rw [reported, h]

end Runs

/-- The table on a scan. -/
def scanRows (builder : Builder) (patterns : List Compiled) (es : List Expression) (text : String)
    (ms : List Match) : List Row :=
  [⟨"compile time", .time .compile⟩, ⟨"patterns", .number es.length⟩,
    ⟨"database size", .number (databaseShare builder patterns)⟩,
    ⟨"scratch alloc time", .time .allocation⟩,
    ⟨"scratch size", .number (wholeShare patterns.length)⟩,
    ⟨"haystack characters", .number text.length⟩, ⟨"scan time", .time .scan⟩,
    ⟨"total matches", .number ms.length⟩]

/-- The table ends with the number of matches. -/
theorem filter_scanRows (builder : Builder) (patterns : List Compiled) (es : List Expression)
    (text : String) (ms : List Match) :
    (scanRows builder patterns es text ms).filter (·.label == "total matches") =
      [⟨"total matches", .number ms.length⟩] := rfl

/-- What is left to a scan once everything is ready for it: the text has to be there, and
scanning it to come to an end. -/
theorem runScan_of_ready {b k : Handle} {w₁ w₂ : World Heap}
    (hcompile : (Database.compile (s.engine builder) (!s.noGroups) es).attempt w =
      (.ok ⟨some b, es⟩, w₁))
    (hsize : (Database.size (s.engine builder) ⟨some b, es⟩).attempt w₁ =
      (.ok (databaseShare builder patterns), w₁))
    (hscanner : (Scanner.ofDatabase (s.engine builder) ⟨some b, es⟩).attempt w₁ = (.ok sc, w₂))
    (hready : Ready patterns b k patterns.length ⟨some b, es⟩ sc w₂) (files : Files) :
    ((runScan builder files s es).run w).1 =
      s.haystackText files >>= fun text =>
        match ((scanRounds (s.engine builder) sc ⟨some b, es⟩ text s.rounds []).attempt w₂).1 with
        | .error e => .error ("scan failed: " ++ chain e)
        | .ok ms =>
          .ok ⟨scanLines s es.length ms,
            if s.table then scanRows builder patterns es text ms else [], none⟩ := by
  have hscratch : (sc.scratchSize (s.engine builder)).attempt w₂ =
    (.ok (wholeShare patterns.length), w₂) := hready.sizes (s.setup builder)
  rw [runScan, Settings.compile, run_bind_orChain hcompile, run_bind_orChain hsize,
    run_bind_orChain hscanner, run_bind_orChain hscratch, run_bind, run_given]
  rcases s.haystackText files with m | text
  · rfl
  dsimp only
  rw [run_bind, run_always]
  change _ = (match ((scanRounds (s.engine builder) sc ⟨some b, es⟩ text s.rounds []).attempt w₂).1
    with | .error e => _ | .ok ms => _)
  rcases ((scanRounds (s.engine builder) sc ⟨some b, es⟩ text s.rounds []).attempt w₂).1 with e | ms
  · rfl
  · rfl

theorem exists_rounds (s : Settings) : ∃ rounds, s.rounds = rounds + 1 :=
  Nat.exists_eq_succ_of_ne_zero (Nat.one_le_iff_ne_zero.1 (Nat.le_max_right _ _))

/-- **The report on a scan** is read off the matches of one scan. -/
theorem runScan_eq (hes : es ≠ []) (hcount : es.length < UInt32.size)
    (hjobs : Database.jobs 0 es = .ok jobs)
    (hpatterns : compileAll (s.setup builder) 0 (jobs.map sourceOf) = .ok patterns)
    (htext : s.haystackText files = .ok text) (hsize : (bytesOf text).size < UInt32.size)
    (hms : Scanner.translateAll ⟨none, es⟩ text.toList (orderedEvents patterns (bytesOf text)) =
      .ok ms) (w : World Heap) :
    ((runScan builder files s es).run w).1 =
      .ok ⟨scanLines s es.length ms, if s.table then scanRows builder patterns es text ms else [],
        none⟩ := by
  obtain ⟨b, k, w₁, sc, w₂, hcompile, hdatabase, hscanner, hready⟩ :=
    exists_ready hes hcount hjobs hpatterns (!s.noGroups) w
  obtain ⟨rounds, hrounds⟩ := exists_rounds s
  rw [runScan_of_ready hcompile hdatabase hscanner hready, htext, hrounds]
  change (match ((scanRounds (engine (s.setup builder)) sc ⟨some b, es⟩ text (rounds + 1)
    []).attempt w₂).1 with | .error e => _ | .ok ms => _) = _
  rw [hready.scanRounds (s.setup builder) hsize hms rounds []]

/-- **What a scan that succeeds had to be given**: expressions that compile, and a text that
is not too long. -/
theorem exists_of_runScan {r : Report} (h : ((runScan builder files s es).run w).1 = .ok r) :
    es ≠ [] ∧ es.length < UInt32.size ∧ ∃ jobs patterns text, Database.jobs 0 es = .ok jobs ∧
      compileAll (s.setup builder) 0 (jobs.map sourceOf) = .ok patterns ∧
      s.haystackText files = .ok text ∧ (bytesOf text).size < UInt32.size := by
  obtain ⟨d, w', hcompile, -⟩ := exists_of_run_orChain_bind h
  obtain ⟨hes, hcount, jobs, patterns, hjobs, hpatterns⟩ := compileAll_of_compile hcompile
  obtain ⟨b, k, w₁, sc, w₂, hcompile, hdatabase, hscanner, hready⟩ :=
    exists_ready hes hcount hjobs hpatterns (!s.noGroups) w
  obtain ⟨rounds, hrounds⟩ := exists_rounds s
  rw [runScan_of_ready hcompile hdatabase hscanner hready, hrounds] at h
  rcases htext : s.haystackText files with m | text
  · rw [htext] at h
    cases h
  refine ⟨hes, hcount, jobs, patterns, text, hjobs, hpatterns, rfl, ?_⟩
  refine Nat.lt_of_not_le fun hlong => ?_
  rw [htext] at h
  change (match ((scanRounds (engine (s.setup builder)) sc ⟨some b, es⟩ text (rounds + 1)
    []).attempt w₂).1 with | .error e => _ | .ok ms => _) = _ at h
  rw [hready.scanRounds_tooLong (s.setup builder) hlong rounds []] at h
  cases h

/-- Expressions that compile and a text that is not too long are enough for a scan to
succeed. -/
theorem succeeds_of_compile {d : Database} {w' : World Heap}
    (h : (Database.compile (s.engine builder) (!s.noGroups) es).attempt Builtin.world = (.ok d, w'))
    (htext : s.haystackText files = .ok text) (hsize : (bytesOf text).size < UInt32.size) :
    (reported (runScan builder files s es)).failure = none := by
  obtain ⟨hes, hcount, jobs, patterns, hjobs, hpatterns⟩ := compileAll_of_compile h
  obtain ⟨ms, hms, -⟩ := translateAll_orderedEvents (h := none) hcount hjobs hpatterns text
  rw [reported_eq (runScan_eq hes hcount hjobs hpatterns htext hsize hms Builtin.world)]

/-- **A scan that succeeds** has found matches that stand for what one scan of its text
reports, and reports them; and it would, told in another way. -/
theorem exists_scanned {arguments : List Bytes} {ts : List Token}
    (hts : Splits arguments .scan ts) (h : (run files arguments builder).failure = none) :
    let s := Settings.ofTokens .scan ts
    ∃ es text ms events patterns,
      commandExpressions files .scan ts = .ok es ∧ s.haystackText files = .ok text ∧
      ((once (s.engine builder) (!s.noGroups) es text).attempt Builtin.world).1 = .ok (ms, events) ∧
      ∃ d : Database, d.expressions = es ∧ List.Forall₂ (Scanner.Stands d text) events ms ∧
        ∀ s', s'.setup builder = s.setup builder → s'.haystackText files = .ok text → ∀ w,
          ((runScan builder files s' es).run w).1 =
            .ok ⟨scanLines s' es.length ms,
              if s'.table then scanRows builder patterns es text ms else [], none⟩ := by
  intro s
  have hrun := run_eq_carryOut builder (c := .scan) files nofun hts
  rcases hexpressions : commandExpressions files .scan ts with m | es
  · rw [hrun, hexpressions] at h
    cases h
  rw [hexpressions] at hrun
  obtain ⟨r, hr⟩ := exists_of_reported (hrun ▸ h)
  obtain ⟨hes, hcount, jobs, patterns, text, hjobs, hpatterns, htext, hsize⟩ :=
    exists_of_runScan hr
  obtain ⟨ms, w', honce, hstands⟩ :=
    once_ok hes hcount hjobs hpatterns hsize (!s.noGroups) Builtin.world
  have hms : Scanner.translateAll ⟨none, es⟩ text.toList (orderedEvents patterns (bytesOf text)) =
      .ok ms := by
    obtain ⟨ms', hms', hstands'⟩ := translateAll_orderedEvents
      (h := some Builtin.world.engine.cells.size) hcount hjobs hpatterns text
    obtain rfl : ms' = ms :=
      List.right_unique_forall₂' (fun _ _ _ h h' => h.unique h') hstands' hstands
    exact hms'
  exact ⟨es, text, ms, _, patterns, rfl, htext, congrArg Prod.fst honce, _, rfl, hstands,
    fun s' hsetup htext' w => runScan_eq hes hcount hjobs (hsetup ▸ hpatterns) htext' hsize hms w⟩

/-! ## Matches and their counts -/

/-- What stands before the first colon of a line. -/
def lineId (line : String) : String := String.ofList (line.toList.takeWhile (· != ':'))

/-- The line of a match begins with the id of its pattern. -/
theorem lineId_matchLine (m : Match) : lineId (matchLine m) = Nat.repr m.id := by
  have hdigits : ∀ x ∈ (Nat.repr m.id).toList, (x != ':') = true := fun x hx => by
    rw [Nat.toList_repr] at hx
    have hdigit := Nat.isDigit_of_mem_toDigits (by decide) (by decide) hx
    refine bne_iff_ne.2 ?_
    rintro rfl
    exact absurd hdigit (by decide)
  obtain ⟨rest, hline⟩ : ∃ rest, (matchLine m).toList = (Nat.repr m.id).toList ++ ':' :: rest := by
    have hcolon : (":" : String).toList = [':'] := rfl
    simp only [matchLine, String.toList_append, List.append_assoc, hcolon, List.singleton_append]
    exact ⟨_, rfl⟩
  have hcolon : (':' :: rest).takeWhile (· != ':') = [] := rfl
  rw [lineId, hline, List.takeWhile_append_of_pos hdigits, hcolon, List.append_nil,
    String.ofList_toList]

/-- **A count is the number of match lines** with an id. -/
theorem countOf_eq (ms : List Match) (id : Nat) :
    countOf ms id = ((ms.map matchLine).filter (lineId · == Nat.repr id)).length := by
  have hline (m : Match) : (lineId (matchLine m) == Nat.repr id) = (m.id == id) := by
    rw [lineId_matchLine, Bool.eq_iff_iff, beq_iff_eq, beq_iff_eq]
    exact ⟨Text.eq_of_repr_eq, congrArg Nat.repr⟩
  rw [List.filter_map, List.length_map, countOf]
  simp only [Function.comp_def, hline]

theorem length_filter_succ (ms : List Match) (n : Nat) :
    (ms.filter (·.id < n + 1)).length = (ms.filter (·.id < n)).length + countOf ms n := by
  induction ms with
  | nil => rfl
  | cons m ms ih =>
    rw [countOf] at ih ⊢
    simp only [List.filter_cons, decide_eq_true_eq, beq_iff_eq, apply_ite List.length,
      List.length_cons]
    split_ifs <;> omega

/-- **The counts add up** to the number of matches whose ids are counted. -/
theorem sum_countOf (ms : List Match) (n : Nat) :
    ((List.range n).map (countOf ms)).sum = (ms.filter (·.id < n)).length := by
  induction n with
  | zero => simp
  | succ n ih =>
    rw [List.range_succ, List.map_append, List.sum_append, ih, length_filter_succ]
    simp

/-! ## The main statement -/

/-- Whether a part says no more than how the matches of a scan are to be told, or how often
the text is to be scanned. -/
def Token.telling (t : Token) : Bool :=
  t.asks .scan .quiet || t.asks .scan .noTable || t.asks .scan .count || (t.rounds? .scan).isSome

section Telling

variable {t : Token} {ts ts' : List Token}

theorem setting?_of_telling (h : t.telling = true) :
    ∃ y, t.setting? .scan = some y ∧ t.Free .scan ∧
      (y = .quiet ∨ y = .noTable ∨ y = .count ∨ y = .repetitions) := by
  rw [Token.telling, Bool.or_eq_true, Bool.or_eq_true, Bool.or_eq_true,
    Option.isSome_iff_exists] at h
  rcases h with ((hquiet | htable) | hcount) | ⟨n, hn⟩
  · exact ⟨_, Token.setting?_of_asks hquiet, free_of_asks hquiet, .inl rfl⟩
  · exact ⟨_, Token.setting?_of_asks htable, free_of_asks htable, .inr (.inl rfl)⟩
  · exact ⟨_, Token.setting?_of_asks hcount, free_of_asks hcount, .inr (.inr (.inl rfl))⟩
  · exact ⟨_, setting?_of_rounds? hn, free_of_rounds? hn, .inr (.inr (.inr rfl))⟩

/-- What a part says of how matches are told is all that it says. -/
theorem silent_of_telling (h : t.telling = true) :
    t.source? .scan = none ∧ t.haystack? .scan = none ∧ t.limit? .scan = none ∧
      t.flag? .scan = none := by
  obtain ⟨y, hy, -, rfl | rfl | rfl | rfl⟩ := setting?_of_telling h
  all_goals exact ⟨Token.source?_eq_none hy nofun nofun, Token.haystack?_eq_none hy nofun,
    Token.limit?_eq_none hy nofun, Token.flag?_eq_none hy nofun nofun⟩

theorem asks_of_telling (h : t.telling = true) {x : Setting}
    (hx : x ∈ [Setting.fixedStrings, .noGroups]) : t.asks .scan x = false := by
  obtain ⟨y, hy, -, hkind⟩ := setting?_of_telling h
  refine Token.asks_eq_false hy ?_
  rintro rfl
  rcases hkind with rfl | rfl | rfl | rfl <;> simp at hx

/-- Command lines that agree but for how matches are told set the same but for that. -/
theorem ofTokens_retold (h : (ts'.filter fun t => !t.telling) = ts.filter fun t => !t.telling) :
    Settings.ofTokens .scan ts' =
      { Settings.ofTokens .scan ts with
        quiet := ts'.any (Token.asks .scan .quiet)
        noTable := ts'.any (Token.asks .scan .noTable)
        count := ts'.any (Token.asks .scan .count)
        repetitions := (ts'.filterMap (Token.rounds? .scan)).getLast? } := by
  have htelling {t : Token} (ht : (!t.telling) = false) : t.telling = true := by
    rwa [Bool.not_eq_false'] at ht
  have hsame {α : Type} {f : Token → Option α} (hf : ∀ t, t.telling = true → f t = none) :
      ts'.filterMap f = ts.filterMap f :=
    filterMap_eq_of_filter h fun t ht => hf t (htelling ht)
  have hask (x : Setting) (hx : x ∈ [Setting.fixedStrings, .noGroups]) :
      ts'.any (Token.asks .scan x) = ts.any (Token.asks .scan x) :=
    any_eq_of_filter h fun t ht => asks_of_telling (htelling ht) hx
  rw [Settings.ofTokens, Settings.ofTokens, hask .fixedStrings (by decide),
    hask .noGroups (by decide), hsame fun t ht => (silent_of_telling ht).1,
    hsame fun t ht => (silent_of_telling ht).2.1, hsame fun t ht => (silent_of_telling ht).2.2.1,
    hsame fun t ht => (silent_of_telling ht).2.2.2]

theorem commandExpressions_retold (h : commandExpressions files .scan ts = .ok es)
    (hothers : (ts'.filter fun t => !t.telling) = ts.filter fun t => !t.telling) :
    commandExpressions files .scan ts' = .ok es := by
  obtain ⟨hstop, ps, hpatterns, hsome, rfl⟩ := commandExpressions_eq_ok.1 h
  have htelling {t : Token} (ht : (!t.telling) = false) : t.telling = true := by
    rwa [Bool.not_eq_false'] at ht
  refine commandExpressions_eq_ok.2 ⟨?_, ps, ?_, hsome, ?_⟩
  · refine (stop_eq_of_filter hothers (fun t ht => ?_) _).trans hstop
    obtain ⟨-, -, hfree, -⟩ := setting?_of_telling (htelling ht)
    exact hfree
  · rwa [filterMap_eq_of_filter hothers fun t ht => (silent_of_telling (htelling ht)).1]
  · rw [ofTokens_retold hothers]
    rfl

end Telling

/-- **All ways to tell of a scan tell the same.** If a scan succeeds, there is one list of
matches, those of one scan of the text, whose ids are all ids of patterns. However the
same command line is asked to tell of them, and however often it is asked to scan, it
succeeds and tells of this list: with one line for each match in order, with one line
for each pattern and the number of its match lines, or with the number of all of them,
to which those of the patterns add up and which the table ends with. -/
theorem outputs_agree (builder : Builder) (files : Files) {arguments : List Bytes} {ts : List Token}
    (hts : Splits arguments .scan ts) (h : (run files arguments builder).failure = none) :
    let s := Settings.ofTokens .scan ts
    ∃ es text ms events,
      commandExpressions files .scan ts = .ok es ∧ s.haystackText files = .ok text ∧
      ((once (s.engine builder) (!s.noGroups) es text).attempt Builtin.world).1 = .ok (ms, events) ∧
      (∀ m ∈ ms, m.id < es.length) ∧
      (∀ id, countOf ms id = ((ms.map matchLine).filter (lineId · == Nat.repr id)).length) ∧
      ((List.range es.length).map (countOf ms)).sum = ms.length ∧
      ∀ arguments' ts', Splits arguments' .scan ts' →
        (ts'.filter fun t => !t.telling) = (ts.filter fun t => !t.telling) →
        (run files arguments' builder).failure = none ∧
        (run files arguments' builder).lines =
          (if ts'.any (Token.asks .scan .quiet) then [Nat.repr ms.length]
          else if ts'.any (Token.asks .scan .count) then
            (List.range es.length).map fun id => Nat.repr id ++ ":" ++ Nat.repr (countOf ms id)
          else ms.map matchLine) ∧
        (run files arguments' builder).rows.filter (·.label == "total matches") =
          if ts'.any (Token.asks .scan .quiet) || ts'.any (Token.asks .scan .noTable) then []
          else [⟨"total matches", .number ms.length⟩] := by
  intro s
  obtain ⟨es, text, ms, events, patterns, hexpressions, htext, honce, d, rfl, hstands, hscan⟩ :=
    exists_scanned hts h
  have hids : ∀ m ∈ ms, m.id < d.expressions.length := fun m hm =>
    (List.getElem?_eq_some_iff.1 (Scanner.expression?_of_mem hstands m hm)).1
  refine ⟨d.expressions, text, ms, events, hexpressions, htext, honce, hids, countOf_eq ms, ?sum,
    ?told⟩
  case sum =>
    rw [sum_countOf, List.filter_eq_self.2 fun m hm => decide_eq_true (hids m hm)]
  case told =>
    intro arguments' ts' hts' hothers
    have hrun' := run_eq_carryOut builder (c := .scan) files nofun hts'
    have hretold := ofTokens_retold hothers
    -- What decides about a scan is the same in both command lines.
    have hsetup : (Settings.ofTokens .scan ts').setup builder = s.setup builder := by
      rw [hretold]
      rfl
    have htext' : (Settings.ofTokens .scan ts').haystackText files = .ok text := by
      rw [hretold]
      exact htext
    rw [commandExpressions_retold hexpressions hothers] at hrun'
    dsimp only [Command.carryOut] at hrun'
    rw [hrun', reported_eq (hscan _ hsetup htext' Builtin.world)]
    refine ⟨rfl, rfl, ?_⟩
    have htable : (Settings.ofTokens .scan ts').table = !(ts'.any (Token.asks .scan .quiet) ||
        ts'.any (Token.asks .scan .noTable)) := by
      rw [Bool.not_or, Bool.and_comm]
      rfl
    dsimp only
    rw [htable]
    cases ts'.any (Token.asks .scan .quiet) || ts'.any (Token.asks .scan .noTable)
    · exact filter_scanRows builder patterns d.expressions text ms
    · rfl

/-- Two patterns in a text, told match by match, counted without scanning more than once
for it, and counted together. -/
theorem outputs_agree_for_two :
    let files := findIn []
    let parts := ["-p", "a", "-p", "b", "-y", "bab"]
    ∃ ms, (run files (("scan" :: parts).map bytesOf)).lines = ms.map matchLine ∧
      (run files (("scan" :: "-c" :: "--repeat=0" :: parts).map bytesOf)).lines =
        [Nat.repr 0 ++ ":" ++ Nat.repr (countOf ms 0),
          Nat.repr 1 ++ ":" ++ Nat.repr (countOf ms 1)] ∧
      (run files (("scan" :: parts ++ ["-cq"]).map bytesOf)).lines =
        [Nat.repr (countOf ms 0 + countOf ms 1)] := by
  intro files parts
  let ts : List Token := [.option (.short 'p') (bytesOf "a"), .option (.short 'p') (bytesOf "b"),
    .option (.short 'y') (bytesOf "bab")]
  let counted : List Token := [.flag (.short 'c'), .option (.long "repeat") (bytesOf "0")] ++ ts
  let quiet : List Token := ts ++ [.flag (.short 'c'), .flag (.short 'q')]
  have hts : Splits (("scan" :: parts).map bytesOf) .scan ts :=
    ⟨bytesOf "scan", _, false, rfl, rfl, by decide +kernel⟩
  have hcounted : Splits (("scan" :: "-c" :: "--repeat=0" :: parts).map bytesOf) .scan counted :=
    ⟨bytesOf "scan", _, false, rfl, rfl, by decide +kernel⟩
  have hquiet : Splits (("scan" :: parts ++ ["-cq"]).map bytesOf) .scan quiet :=
    ⟨bytesOf "scan", _, false, rfl, rfl, by decide +kernel⟩
  have hes : commandExpressions files .scan ts =
      .ok [.ofPattern "a" .empty, .ofPattern "b" .empty] := by rfl
  have hcompile : ((Database.compile (engine .standard) true
      [.ofPattern "a" .empty, .ofPattern "b" .empty]).attempt Builtin.world).1.toOption.isSome =
        true := by decide +kernel
  obtain ⟨d, hd⟩ := Option.isSome_iff_exists.1 hcompile
  have hsucceeded : (run files (("scan" :: parts).map bytesOf)).failure = none := by
    rw [run_eq_carryOut .estimate (c := .scan) files nofun hts, hes]
    exact succeeds_of_compile (Prod.ext (eq_ok_of_toOption hd) rfl) rfl (by decide)
  obtain ⟨es, text, ms, events, hes', -, -, -, -, hsum, htold⟩ :=
    outputs_agree .estimate files hts hsucceeded
  obtain rfl := Except.ok.inj (hes.symm.trans hes')
  have hplain := (htold _ ts hts rfl).2.1
  have hcounts := (htold _ counted hcounted (by decide +kernel)).2.1
  have hnumber := (htold _ quiet hquiet (by decide +kernel)).2.1
  refine ⟨ms, hplain, hcounts, hnumber.trans ?_⟩
  rw [← hsum]
  rfl

end Multiscan.Cli
