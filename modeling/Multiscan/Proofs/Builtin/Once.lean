import Mathlib.Data.List.TakeWhile
import Multiscan.Proofs.Batch
import Multiscan.Proofs.Builtin.Info
import Multiscan.Proofs.Session.Serving
import Multiscan.Proofs.Text.Characters
import Multiscan.Proofs.Translation
/-!
# Built-in engine — one database, one scanner, one scan

The shortest way from expressions to matches: compile a batch, take a scanner
for the database, scan one text. With the built-in engine this succeeds
whatever the engine has given out before, as soon as the batch compiles and the
text is not too long (`once_eq`), and then the matches stand for the events of
the patterns in order (`once_ok`). What is said of the events that a pattern
has is so said of what callers see.
-/

namespace Multiscan

open Engine Builtin

/-- The matches of a batch of expressions in a text, and the events that they
come from. -/
def once {σ : Type} (E : Engine σ) (groups : Bool) (es : List Expression) (text : String) :
    Act σ (List Match × List Event) := do
  let d ← Database.compile E groups es
  let s ← Scanner.ofDatabase E d
  let (r, s) ← (s.scanStep E d text : Step σ _)
  return (← Act.ofExcept r, s.events)

/-- What comes first has a result, so what comes next runs with it. -/
theorem Act.attempt_bind_of_ok {σ α β : Type} {a : Act σ α} {f : α → Act σ β} {w w' : World σ}
    {x : α} (h : a.attempt w = (.ok x, w')) : (a >>= f).attempt w = (f x).attempt w' := by
  have hbind : (a >>= f).attempt w =
      (ExceptT.bindCont f (a.attempt w).1 : Step σ (Except Error β)) (a.attempt w).2 := rfl
  rw [hbind, h]
  rfl

namespace Builtin

variable {setup : Setup} {groups : Bool} {es : List Expression} {jobs : List Job}
variable {patterns : List Compiled} {w : World Heap}

/-! ## Compiling -/

/-- A batch is compiled if its patterns are, and refused if one is not. -/
theorem compileBatch_apply {batch : List Source} (hbatch : batch ≠ []) (groups : Bool)
    (heap : Heap) : compileBatch setup batch (modeOf groups) heap =
      match compileAll setup 0 batch with
      | .ok patterns => (⟨Code.success, some heap.cells.size, none⟩,
          (heap.give (.database patterns)).2)
      | .error (i, message) =>
          (⟨Code.compilerError, none, some ⟨heap.cells.size, some message, recordIndex i⟩⟩,
            (heap.give (.record (some message) (recordIndex i))).2) := by
  have hmode : knownMode (modeOf groups) = true := by cases groups <;> decide
  have hempty : batch.isEmpty = false := List.isEmpty_eq_false_iff.2 hbatch
  rw [compileBatch, hempty, hmode]
  rcases compileAll setup 0 batch with ⟨i, message⟩ | patterns
  · rfl
  · rfl

/-- **A batch that can be given to an engine compiles if its patterns do.** -/
theorem compile_of_compileAll (hes : es ≠ []) (hcount : es.length < UInt32.size)
    (hjobs : Database.jobs 0 es = .ok jobs)
    (hpatterns : compileAll setup 0 (jobs.map sourceOf) = .ok patterns) (groups : Bool)
    (w : World Heap) :
    ∃ notes, (Database.compile (engine setup) groups es).attempt w =
      (.ok ⟨some w.engine.cells.size, es⟩,
        ⟨(w.engine.give (.database patterns)).2, notes⟩) := by
  obtain ⟨first, rest, rfl⟩ := List.exists_cons_of_ne_nil hes
  have hbatch : jobs.map sourceOf ≠ [] := by
    have hlength := Database.length_jobs hjobs
    rw [ne_eq, List.map_eq_nil_iff, ← List.length_eq_zero_iff, hlength, List.length_cons]
    omega
  have hanswer : (engine setup).answer (.compile jobs (modeOf groups)) w.engine =
      compileBatch setup (jobs.map sourceOf) (modeOf groups) w.engine := rfl
  have happly := Database.compile_apply (E := engine setup) hcount hjobs groups w
  rw [compileBatch_apply hbatch, hpatterns] at hanswer
  dsimp only at happly
  rw [hanswer, if_pos rfl] at happly
  exact ⟨_, happly⟩

/-- **What compiles** can be given to an engine, and its patterns compile. -/
theorem compileAll_of_compile {d : Database} {w' : World Heap}
    (h : (Database.compile (engine setup) groups es).attempt w = (.ok d, w')) :
    es ≠ [] ∧ es.length < UInt32.size ∧ ∃ jobs patterns, Database.jobs 0 es = .ok jobs ∧
      compileAll setup 0 (jobs.map sourceOf) = .ok patterns := by
  rcases es with _ | ⟨first, rest⟩
  · cases h
  have hes : first :: rest ≠ [] := List.cons_ne_nil _ _
  rw [Database.compile] at h
  dsimp only at h
  by_cases hcount : UInt32.size ≤ rest.length + 1
  · rw [if_pos hcount] at h
    cases h
  rcases hjobs : Database.jobs 0 (first :: rest) with e | jobs
  · rw [if_neg hcount, hjobs] at h
    cases h
  rcases hpatterns : compileAll setup 0 (jobs.map sourceOf) with ⟨i, message⟩ | patterns
  · -- The engine says that the pattern compiler failed.
    have hbatch : jobs.map sourceOf ≠ [] := by
      rintro hnil
      rw [hnil] at hpatterns
      cases hpatterns
    have hanswer : (engine setup).answer (.compile jobs (modeOf groups)) w.engine =
        compileBatch setup (jobs.map sourceOf) (modeOf groups) w.engine := rfl
    rw [if_neg hcount, hjobs, Act.attempt_bind_ok, Act.attempt_bind_lift, World.ask_apply, hanswer,
      compileBatch_apply hbatch, hpatterns] at h
    dsimp only at h
    rw [if_pos (by decide), Act.attempt_bind_lift] at h
    cases h
  · exact ⟨hes, Nat.not_le.1 hcount, jobs, patterns, rfl, hpatterns⟩

/-! ## Events and expressions -/

/-- What is given to an engine is the expressions, each with its position. -/
theorem job_of_mem_jobs {i : Nat} {j : Job} (hjobs : Database.jobs i es = .ok jobs)
    (hj : j ∈ jobs) : ∃ k e, es[k]? = some e ∧ Database.job (i + k) e = .ok j := by
  induction es generalizing i jobs with
  | nil =>
    obtain rfl := Except.ok.inj hjobs
    cases hj
  | cons e es ih =>
    rw [Database.jobs] at hjobs
    rcases hjob : Database.job i e with err | first
    · rw [hjob] at hjobs
      cases hjobs
    rcases hrest : Database.jobs (i + 1) es with err | rest
    · rw [hjob, hrest] at hjobs
      cases hjobs
    rw [hjob, hrest] at hjobs
    obtain rfl := Except.ok.inj hjobs
    rcases List.mem_cons.1 hj with rfl | hj
    · exact ⟨0, e, rfl, hjob⟩
    · obtain ⟨k, e', hk, hjob'⟩ := ih hrest hj
      refine ⟨k + 1, e', hk, ?_⟩
      rwa [Nat.add_right_comm] at hjob'

theorem id_of_job {k : Nat} {e : Expression} {j : Job} (h : Database.job k e = .ok j) :
    j.id = UInt32.ofNat k := by
  obtain ⟨bytes, -, h⟩ := bind_eq_ok.1 h
  obtain ⟨word, -, h⟩ := bind_eq_ok.1 h
  obtain rfl := Except.ok.inj h
  rfl

/-- A pattern that can be given to an engine is read back as it was. -/
theorem readPattern_of_patternBytes {pattern : String} {bytes : Text.Bytes}
    (h : patternBytes pattern = .ok bytes) : readPattern (some bytes) = .ok pattern.toList := by
  rw [patternBytes] at h
  split at h
  · next hnone =>
    obtain rfl := Except.ok.inj h
    rw [Array.findIdx?_eq_none_iff] at hnone
    have hall : (Text.encode pattern.toList).takeWhile (· != 0) = Text.encode pattern.toList :=
      List.takeWhile_eq_self_iff.2 fun b hb => by
        rw [bne, hnone b (List.mem_toArray.2 hb)]
        rfl
    rw [readPattern, Text.bytesOf, List.takeWhile_toArray, hall, Text.decode?_encode]
  · cases h

/-- **What is compiled from an expression** is what its pattern means under its
flags. -/
theorem parse_of_job {k : Nat} {e : Expression} {j : Job} {p : Compiled}
    (hjob : Database.job k e = .ok j) (hp : (sourceOf j).Compiles setup p) :
    ∃ word, e.flags.encode .extended = .ok word ∧
      Pattern.parse e.pattern.toList word = .ok p.regex ∧
      p.whole = e.flags.contains .utf8 ∧ p.single = e.flags.contains .singleMatch := by
  obtain ⟨text, htext, hparse⟩ := hp.parse
  obtain ⟨bytes, hbytes, hjob⟩ := bind_eq_ok.1 hjob
  obtain ⟨word, hword, hjob⟩ := bind_eq_ok.1 hjob
  obtain rfl := Except.ok.inj hjob
  obtain rfl := Except.ok.inj (htext.symm.trans (readPattern_of_patternBytes hbytes))
  obtain ⟨_, -, hp⟩ := bind_eq_ok.1 hp
  obtain ⟨_, -, hp⟩ := bind_eq_ok.1 hp
  obtain ⟨_, -, hp⟩ := bind_eq_ok.1 hp
  obtain rfl := Except.ok.inj hp
  have hutf8 := FlagSet.has_encode hword (f := .utf8) (by decide)
  have hsingle := FlagSet.has_encode hword (f := .singleMatch) (by decide)
  exact ⟨word, hword, hparse, hutf8, hsingle⟩

/-- **An expression compiles** if it can be given to an engine, its flags are
known, and there is an automaton for what its pattern means. -/
theorem compiles_of_parse {e : Expression} {bytes : Text.Bytes} {word : UInt32} {r : Regex} (i : Nat)
    (hbytes : patternBytes e.pattern = .ok bytes) (hword : e.flags.encode .extended = .ok word)
    (hknown : word &&& ~~~Variant.extended.knownBits = 0)
    (hparse : Pattern.parse e.pattern.toList word = .ok r)
    (hbuilt : setup.failure? (e.flags.contains .utf8) r = none) :
    ∃ j, Database.job i e = .ok j ∧ (sourceOf j).Compiles setup
      ⟨UInt32.ofNat i, e.flags.contains .singleMatch, e.flags.contains .utf8, r⟩ := by
  refine ⟨⟨bytes, word, UInt32.ofNat i⟩, ?_, ?_⟩
  · rw [Database.job, hbytes, hword]
    rfl
  · have hbuild : build setup e.pattern.toList word = .ok r := by
      rw [build, readRegex_eq_ok.2 hparse]
      dsimp only
      rw [FlagSet.has_encode hword (by decide), hbuilt]
    have hflags : readFlags .extended word = .ok () := if_pos hknown
    rw [← FlagSet.has_encode hword (f := .singleMatch) (by decide),
      ← FlagSet.has_encode hword (f := .utf8) (by decide)]
    exact bind_eq_ok.2 ⟨_, readPattern_of_patternBytes hbytes,
      bind_eq_ok.2 ⟨(), hflags, bind_eq_ok.2 ⟨r, hbuild, rfl⟩⟩⟩

/-- Each pattern of a database is compiled from a source of the batch. -/
theorem exists_source {batch : List Source} {p : Compiled}
    (hpatterns : compileAll setup 0 batch = .ok patterns) (hp : p ∈ patterns) :
    ∃ s ∈ batch, s.Compiles setup p := by
  rw [compileAll_iff] at hpatterns
  induction hpatterns with
  | nil => cases hp
  | @cons s q rest ps hs hrest ih =>
    rcases List.mem_cons.1 hp with rfl | hp
    · exact ⟨s, List.mem_cons_self, hs⟩
    · obtain ⟨t, ht, hcompiles⟩ := ih hp
      exact ⟨t, List.mem_cons_of_mem _ ht, hcompiles⟩

/-- **Every event is that of a match** of the expression at the position that is
its id. -/
theorem exists_expression_of_event {data : Text.Bytes} {ev : Event}
    (hcount : es.length < UInt32.size) (hjobs : Database.jobs 0 es = .ok jobs)
    (hpatterns : compileAll setup 0 (jobs.map sourceOf) = .ok patterns)
    (hev : ev ∈ orderedEvents patterns data) :
    ∃ e j p, es[ev.id.toNat]? = some e ∧ Database.job ev.id.toNat e = .ok j ∧
      (sourceOf j).Compiles setup p ∧ ∃ m ∈ p.matches data, ev = p.event m := by
  obtain ⟨p, hp, hmem⟩ := List.mem_flatMap.1 ((orderedEvents_perm patterns data).mem_iff.1 hev)
  obtain ⟨s, hs, hcompiles⟩ := exists_source hpatterns hp
  obtain ⟨j, hj, rfl⟩ := List.mem_map.1 hs
  obtain ⟨k, e, hk, hjob⟩ := job_of_mem_jobs hjobs hj
  rw [Nat.zero_add] at hjob
  have hid : ev.id = UInt32.ofNat k := by
    rw [p.id_of_mem_events hmem, hcompiles.id]
    exact id_of_job hjob
  have hk' : ev.id.toNat = k := by
    have hlt := (List.getElem?_eq_some_iff.1 hk).1
    rw [hid, UInt32.toNat_ofNat']
    exact Nat.mod_eq_of_lt (Nat.lt_trans hlt hcount)
  rw [p.events_eq] at hmem
  obtain ⟨m, hm, rfl⟩ := List.mem_map.1 hmem
  rw [hk']
  exact ⟨e, j, p, hk, hjob, hcompiles, m, hm, rfl⟩

/-! ## Scanning -/

/-- The events of a database are those of its expressions, so each becomes a
match. -/
theorem translateAll_orderedEvents {h : Option Handle} (hcount : es.length < UInt32.size)
    (hjobs : Database.jobs 0 es = .ok jobs)
    (hpatterns : compileAll setup 0 (jobs.map sourceOf) = .ok patterns) (text : String) :
    ∃ ms, Scanner.translateAll ⟨h, es⟩ text.toList
        (orderedEvents patterns (Text.bytesOf text)) = .ok ms ∧
      List.Forall₂ (Scanner.Stands ⟨h, es⟩ text)
        (orderedEvents patterns (Text.bytesOf text)) ms := by
  refine Scanner.translateAll_of_lt (fun ev hev => ?_) text
  obtain ⟨e, j, p, he, -⟩ := exists_expression_of_event hcount hjobs hpatterns hev
  exact (List.getElem?_eq_some_iff.1 he).1

/-- **What compiles can be scanned with.** Whatever the engine has given out
before, there is scratch space to be had for a database, and a scan with it ends
with one match for each event of its patterns, in their order. Only a text that
is too long is refused. -/
theorem once_eq (hes : es ≠ []) (hcount : es.length < UInt32.size)
    (hjobs : Database.jobs 0 es = .ok jobs)
    (hpatterns : compileAll setup 0 (jobs.map sourceOf) = .ok patterns) (groups : Bool)
    (text : String) (w : World Heap) :
    ∃ ms w', (once (engine setup) groups es text).attempt w =
        (if UInt32.size ≤ (Text.bytesOf text).size then
          .error (Scanner.tooLong (Text.bytesOf text).size)
        else .ok (ms, orderedEvents patterns (Text.bytesOf text)), w') ∧
      List.Forall₂ (Scanner.Stands ⟨some w.engine.cells.size, es⟩ text)
        (orderedEvents patterns (Text.bytesOf text)) ms := by
  obtain ⟨notes, hcompile⟩ := compile_of_compileAll hes hcount hjobs hpatterns groups w
  let events := orderedEvents patterns (Text.bytesOf text)
  let d : Database := ⟨some w.engine.cells.size, es⟩
  let heap := (w.engine.give (.database patterns)).2
  let heap' := (heap.give (.scratch patterns.length false [])).2
  -- The database stands at the end of the heap before, and scratch space behind it.
  have hd : heap.database? (some w.engine.cells.size) = some patterns :=
    Heap.database?_give_self _ _
  have halloc : (engine setup).answer (.allocScratch w.engine.cells.size none) heap =
      (⟨Code.success, some heap.cells.size⟩, heap') := allocScratch_new hd
  have hidle : heap'.scratch? (some heap.cells.size) = some (patterns.length, false) :=
    Heap.scratch?_give_self _ _ _ _
  have hscan : (engine setup).answer
        (.scan w.engine.cells.size heap.cells.size (Text.bytesOf text)) heap' =
      (⟨Code.success, events⟩,
        heap'.put heap.cells.size (.scratch patterns.length false events)) :=
    collectScan_of_idle (Heap.database?_give hd _) hidle (Nat.le_refl _) _
  have hscanner : (Scanner.ofDatabase (engine setup) d).attempt ⟨heap, notes⟩ =
      (.ok ⟨.allocated heap.cells.size, []⟩,
        ⟨heap', notes ++ [.allocated heap.cells.size w.engine.cells.size]⟩) := by
    rw [Scanner.ofDatabase, Scanner.alloc_of_answer rfl rfl halloc, if_pos rfl]
    rfl
  obtain ⟨ms, hms, hstands⟩ := translateAll_orderedEvents
    (h := some w.engine.cells.size) hcount hjobs hpatterns text
  have hask := Scanner.toAsk_eq (s := ⟨.allocated heap.cells.size, []⟩) (d := d) rfl rfl text
  refine ⟨ms, ?_⟩
  rw [once, Act.attempt_bind_of_ok hcompile, Act.attempt_bind_of_ok hscanner,
    Act.attempt_bind_lift]
  by_cases hlong : UInt32.size ≤ (Text.bytesOf text).size
  · rw [if_pos hlong] at hask
    rw [Scanner.scanStep, hask]
    exact ⟨_, Prod.ext (if_pos hlong).symm rfl, hstands⟩
  · rw [if_neg hlong] at hask
    obtain ⟨w', hstep⟩ : ∃ w', Scanner.scanStep (engine setup)
        ⟨.allocated heap.cells.size, []⟩ d text
        ⟨heap', notes ++ [.allocated heap.cells.size w.engine.cells.size]⟩ =
          ((.ok ms, ⟨.allocated heap.cells.size, events⟩), w') := by
      refine ⟨_, Prod.ext ?_ rfl⟩
      rw [Scanner.scanStep_of_answer hask hscan, if_pos rfl, hms]
      rfl
    rw [hstep]
    exact ⟨w', Prod.ext (if_neg hlong).symm rfl, hstands⟩

/-- A text that is not too long is scanned. -/
theorem once_ok {text : String} (hes : es ≠ []) (hcount : es.length < UInt32.size)
    (hjobs : Database.jobs 0 es = .ok jobs)
    (hpatterns : compileAll setup 0 (jobs.map sourceOf) = .ok patterns)
    (hsize : (Text.bytesOf text).size < UInt32.size) (groups : Bool) (w : World Heap) :
    ∃ ms w', (once (engine setup) groups es text).attempt w =
        (.ok (ms, orderedEvents patterns (Text.bytesOf text)), w') ∧
      List.Forall₂ (Scanner.Stands ⟨some w.engine.cells.size, es⟩ text)
        (orderedEvents patterns (Text.bytesOf text)) ms := by
  obtain ⟨ms, w', honce, hstands⟩ := once_eq hes hcount hjobs hpatterns groups text w
  rw [if_neg (Nat.not_le.2 hsize)] at honce
  exact ⟨ms, w', honce, hstands⟩

end Builtin

end Multiscan
