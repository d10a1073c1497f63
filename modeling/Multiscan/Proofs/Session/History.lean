import Multiscan.Proofs.Builtin.Info
import Multiscan.Proofs.Session.Serving
import Multiscan.Proofs.Translation
/-!
# Session — scans do not depend on history

What a scan comes to can be told from the expressions of the database, the
text, and what the script says about scans (`outcome`). Neither the scanner
nor what was done before has a part in it, as long as the scanner serves the
database: the buffers of the scanner and of its scratch space may hold
anything, and the room that there is beyond what is needed makes no difference.
-/

namespace Multiscan

open Engine Builtin Session

namespace Session

variable {setup setup' : Setup} {S S' : Session} {floor : Handle → Nat} {s db : String}
variable {d : Database} {p : Probe}

/-! ## What a scan comes to -/

/-- The reply of the probe to a scan: that of the script if it has one, and
otherwise all matches in order. -/
def scanReply (script : Script) (patterns : List Compiled) (data : Text.Bytes) : ScanReply :=
  match script.events, script.scan with
  | none, none => ⟨Code.success, orderedEvents patterns data⟩
  | events, code => ⟨code.getD Code.success, events.getD []⟩

/-- The patterns that the expressions of a database compile into. -/
def patternsOf (setup : Setup) (d : Database) : List Compiled :=
  (compileAll setup 0 (d.batch.map sourceOf)).toOption.getD []

/-- **What a scan comes to.** -/
def outcome (setup : Setup) (script : Script) (d : Database) (text : String) :
    Except Error (List Match) :=
  let data := Text.bytesOf text
  let reply := scanReply script (patternsOf setup d) data
  if UInt32.size ≤ data.size then .error (Scanner.tooLong data.size)
  else if reply.code = Code.success then Scanner.translateAll d text.toList reply.events
  else .error ((Error.ofCode reply.code).within "failed to scan")

/-- The handle of the database is no part of it, nor is how the engine is set up, as long
as the expressions compile. -/
theorem outcome_congr {script script' : Script} {d' : Database} {patterns patterns' : List Compiled}
    (hpatterns : compileAll setup 0 (d.batch.map sourceOf) = .ok patterns)
    (hpatterns' : compileAll setup' 0 (d'.batch.map sourceOf) = .ok patterns')
    (hd : d'.expressions = d.expressions) (hevents : script'.events = script.events)
    (hscan : script'.scan = script.scan) (text : String) :
    outcome setup' script' d' text = outcome setup script d text := by
  rcases d with ⟨b, es⟩
  obtain ⟨b', es⟩ := d'
  obtain rfl : es = _ := hd
  have hsame : patternsOf setup' ⟨b', es⟩ = patternsOf setup ⟨b, es⟩ := by
    rw [patternsOf, patternsOf, hpatterns, hpatterns', compileAll_unique hpatterns' hpatterns]
  simp only [outcome, scanReply, hevents, hscan, hsame]
  rfl

/-! ## Scans -/

/-- With idle scratch space that is large enough, what is in the buffer does not
matter. -/
theorem answer_scan {patterns : List Compiled} {b k : Handle} {capacity : Nat}
    (hd : p.heap.database? (some b) = some patterns)
    (hs : p.heap.scratch? (some k) = some (capacity, false)) (hcap : patterns.length ≤ capacity)
    (data : Text.Bytes) :
    (Probe.answer setup (.scan b k data) p).1 = scanReply p.script patterns data := by
  by_cases hleaves : p.script.LeavesAlone (.scan b k data)
  · rw [(Probe.answer_of_leavesAlone setup hleaves).1, Builtin.answer,
      collectScan_of_idle hd hs hcap, scanReply, hleaves.1, hleaves.2]
  · rcases hevents : p.script.events with _ | events <;>
      rcases hcode : p.script.scan with _ | code <;>
      simp_all [Probe.answer, Probe.scan, Script.LeavesAlone, scanReply]

/-- Nor does it matter what the scanner has kept. -/
theorem scanStep_outcome {w : World Probe} {sc : Scanner} {b k : Handle} {patterns : List Compiled}
    {capacity : Nat} (hk : sc.stage = .allocated k) (hb : d.handle = some b)
    (hpatterns : compileAll setup 0 (d.batch.map sourceOf) = .ok patterns)
    (hd : w.engine.heap.database? (some b) = some patterns)
    (hs : w.engine.heap.scratch? (some k) = some (capacity, false))
    (hcap : patterns.length ≤ capacity) (text : String) :
    (sc.scanStep (probe setup) d text w).1.1 = outcome setup w.engine.script d text := by
  have hpatternsOf : patternsOf setup d = patterns := by
    rw [patternsOf, hpatterns]
    rfl
  have hask := Scanner.toAsk_eq hk hb text
  rw [outcome, hpatternsOf]
  split
  · next hsize =>
    rw [if_pos hsize] at hask
    rw [Scanner.scanStep, hask]
    rfl
  · next hsize =>
    rw [if_neg hsize] at hask
    set reply := scanReply w.engine.script patterns (Text.bytesOf text) with hreply
    have hanswer : (probe setup).answer (.scan b k (Text.bytesOf text)) w.engine =
        (⟨reply.code, reply.events⟩,
          ((probe setup).answer (.scan b k (Text.bytesOf text)) w.engine).2) :=
      Prod.ext (answer_scan hd hs hcap _) rfl
    rw [Scanner.scanStep_of_answer hask hanswer]

/-- What a scan in a session answers. -/
def scanned (S : Session) (s db text : String) : Answer :=
  (S.step (.operate (.scan s db text))).1.answer

/-- What a scan comes to, as an answer. -/
def Answer.ofScan : Except Error (List Match) → Answer
  | .ok ms => .matches ms
  | .error e => .failed e

namespace Tidy

/-- **A scanner that serves a database** answers what the scan comes to. -/
theorem scanned (h : S.Tidy floor) (hserves : S.Serves s db d) (text : String) :
    S.scanned s db text = .ofScan (outcome S.setup S.world.engine.script d text) := by
  obtain ⟨b, hb⟩ := Database.exists_handle hserves.isOpen
  obtain ⟨k, capacity, busy, ⟨hd, sc, hs, hk⟩, hscratch, hle⟩ := hserves.has
  obtain ⟨patterns, hpatterns, hheap, hlength⟩ := h.database hd hb
  obtain ⟨capacity', hidle, -⟩ := h.scratch hs hk
  obtain ⟨rfl, rfl⟩ := Prod.mk.inj (Option.some.inj (hscratch.symm.trans hidle))
  have houtcome : (sc.scanStep (probe S.setup) d text S.forgetNotes.world).1.1 =
      outcome S.setup S.world.engine.script d text :=
    scanStep_outcome (w := S.forgetNotes.world) hk hb hpatterns hheap hidle (hlength ▸ hle) text
  rw [Session.scanned, step_operate, ← houtcome]
  simp only [Workspace.perform, Workspace.withDatabase, hd, Workspace.withScanner, hs,
    Step.bind_apply]
  rcases (sc.scanStep (probe S.setup) d text S.forgetNotes.world).1.1 with e | ms
  · rfl
  · rfl

/-- **Two sessions** with the same expressions and the same script for scans give
the same answer. -/
theorem scanned_eq {floor' : Handle → Nat} {s' db' : String} {d' : Database}
    (h : S.Tidy floor) (hserves : S.Serves s db d) (h' : S'.Tidy floor')
    (hserves' : S'.Serves s' db' d') (hd : d'.expressions = d.expressions)
    (hevents : S'.world.engine.script.events = S.world.engine.script.events)
    (hscan : S'.world.engine.script.scan = S.world.engine.script.scan) (text : String) :
    S'.scanned s' db' text = S.scanned s db text := by
  obtain ⟨b, hb⟩ := Database.exists_handle hserves.isOpen
  obtain ⟨b', hb'⟩ := Database.exists_handle hserves'.isOpen
  obtain ⟨patterns, hpatterns, -⟩ := h.database hserves.database hb
  obtain ⟨patterns', hpatterns', -⟩ := h'.database hserves'.database hb'
  rw [h'.scanned hserves', h.scanned hserves,
    outcome_congr hpatterns hpatterns' hd hevents hscan]

/-- **An operation that spares the scanner and the database** does not change what
a scan answers. -/
theorem scanned_operate (h : S.Tidy floor) (hserves : S.Serves s db d) (op : Operation)
    (hop : op.Spares s db) (text : String) :
    (S.step (.operate op)).2.Serves s db d ∧
      (S.step (.operate op)).2.scanned s db text = S.scanned s db text := by
  obtain ⟨htidy, hscript⟩ := h.operate op
  have hspares : ∀ st ∈ [SessionStep.operate op], st.Spares s db := by
    simpa [SessionStep.Spares] using hop
  have hserves' : (S.step (.operate op)).2.Serves s db d :=
    h.serves_steps hserves hspares
  exact ⟨hserves', h.scanned_eq hserves htidy hserves' rfl (by rw [hscript]) (by rw [hscript]) text⟩

/-- A scan repeated has the same answer every time. -/
theorem scanned_replicate (h : S.Tidy floor) (hserves : S.Serves s db d) (text : String) (n : Nat) :
    ∀ r ∈ (S.steps (List.replicate n (.operate (.scan s db text)))).1,
      r.answer = S.scanned s db text := by
  induction n generalizing S with
  | zero => exact nofun
  | succ n ih =>
    intro r hr
    -- A scan spares what it uses, so the next one starts no worse.
    obtain ⟨hserves', hscanned⟩ := h.scanned_operate hserves (.scan s db text) trivial text
    rcases List.mem_cons.1 hr with rfl | hr
    · rfl
    · rw [ih (h.operate _).1 hserves' r hr, hscanned]

end Tidy

/-! ## Histories -/

/-- **Scans do not depend on history.** However the engine is set up and whatever the
steps of a session were, a scanner that serves a database answers what the scan comes
to. So does a fresh scanner for that database, and any other scanner, in any other
session and with an engine set up in another way, that serves a database of the same
expressions, the script saying the same about scans. Later steps that spare the two do
not change it; in particular a scan repeated has the same answer every time. -/
theorem scan_independent_of_history (setup : Setup) (before : List SessionStep)
    (hserves : ((start setup).steps before).2.Serves s db d) :
    let S := ((start setup).steps before).2
    (∀ text, S.scanned s db text = .ofScan (outcome S.setup S.world.engine.script d text)) ∧
    (∀ s', let fresh := S.step (.operate (.scannerFor s' db))
      (S.world.engine.script.alloc = none → fresh.1.answer = .done) ∧
        (fresh.1.answer = .done → ∀ text, fresh.2.scanned s' db text = S.scanned s db text)) ∧
    (∀ setup' before' s' db' d', let S' := ((start setup').steps before').2
      S'.Serves s' db' d' → d'.expressions = d.expressions →
        S'.world.engine.script.events = S.world.engine.script.events →
        S'.world.engine.script.scan = S.world.engine.script.scan →
        ∀ text, S'.scanned s' db' text = S.scanned s db text) ∧
    (∀ after, (∀ st ∈ after, st.Spares s db) → let S' := (S.steps after).2
      S'.Serves s db d ∧ (S'.world.engine.script.events = S.world.engine.script.events →
        S'.world.engine.script.scan = S.world.engine.script.scan →
        ∀ text, S'.scanned s db text = S.scanned s db text)) ∧
    ∀ n text, ∀ r ∈ (S.steps (List.replicate n (.operate (.scan s db text)))).1,
      r.answer = S.scanned s db text := by
  intro S
  have h : S.Tidy fun _ => 0 := (tidy_start setup).steps before
  have hsetup : S.setup = setup := setup_steps _ before
  refine ⟨fun text => hsetup ▸ h.scanned hserves text, ?_, ?_, ?_, ?_⟩
  · intro s'
    obtain ⟨hdone, hfresh⟩ := h.serves_scannerFor hserves.database hserves.isOpen s'
    obtain ⟨htidy, hscript⟩ := h.operate (.scannerFor s' db)
    refine ⟨hdone, ?_⟩
    intro hanswer text
    have hserves' := hfresh hanswer db d hserves.database hserves.isOpen (Nat.le_refl _)
    exact h.scanned_eq hserves htidy hserves' rfl (by rw [hscript]) (by rw [hscript]) text
  · intro setup' before' s' db' d' S' hserves' hd hevents hscan text
    have h' : S'.Tidy fun _ => 0 := (tidy_start setup').steps before'
    exact h.scanned_eq hserves h' hserves' hd hevents hscan text
  · intro after hafter S'
    have h' : S'.Tidy fun _ => 0 := h.steps after
    have hserves' : S'.Serves s db d := h.serves_steps hserves hafter
    refine ⟨hserves', ?_⟩
    intro hevents hscan text
    exact h.scanned_eq hserves h' hserves' rfl hevents hscan text
  · intro n text
    exact h.scanned_replicate hserves text n

/-- A scanner for two patterns that scans for one, after a scan with an unknown
id and a scan that failed. The other session has nothing else and no limit; later there is
one more failure, and the larger database is closed. -/
theorem scan_independent_of_history_after_failures :
    let before : List SessionStep := [
      .operate (.compile "two" false [.ofPattern "a" .empty, .ofPattern "b" .empty]),
      .operate (.compile "one" false [.ofPattern "b" .empty]),
      .operate (.scannerFor "s" "two"), .script [.events (some [⟨0, 0, 1⟩, ⟨9, 0, 1⟩])],
      .operate (.scan "s" "two" "ab"), .script [.scan (some (-2))],
      .operate (.scan "s" "one" "b"), .reset]
    let plain : List SessionStep := [
      .operate (.compile "d" true [.ofPattern "b" .empty]), .operate (.scannerFor "t" "d")]
    let after : List SessionStep := [
      .script [.scan (some (-2))], .operate (.scan "s" "one" "b"), .reset,
      .operate (.closeDatabase "two")]
    let S := ((start .standard).steps before).2
    let fresh := S.step (.operate (.scannerFor "t" "one"))
    fresh.1.answer = .done ∧
      ∀ text, fresh.2.scanned "t" "one" text = S.scanned "s" "one" text ∧
        ((start .unlimited).steps plain).2.scanned "t" "d" text = S.scanned "s" "one" text ∧
        (S.steps after).2.scanned "s" "one" text = S.scanned "s" "one" text := by
  intro before plain after S fresh
  have hserves : S.Serves "s" "one" ⟨some 1, [.ofPattern "b" .empty]⟩ :=
    ⟨by decide +kernel, rfl, 2, by decide +kernel, by decide⟩
  have hplain : ((start .unlimited).steps plain).2.Serves "t" "d"
      ⟨some 0, [.ofPattern "b" .empty]⟩ :=
    ⟨by decide +kernel, rfl, 1, by decide +kernel, by decide⟩
  have hspares : ∀ st ∈ after, st.Spares "s" "one" := by
    simp [after, SessionStep.Spares, Operation.Spares]
  have halloc : S.world.engine.script.alloc = none := by decide +kernel
  have hevents : ((start .unlimited).steps plain).2.world.engine.script.events =
      S.world.engine.script.events := by decide +kernel
  have hscan : ((start .unlimited).steps plain).2.world.engine.script.scan =
      S.world.engine.script.scan := by decide +kernel
  have hafter : (S.steps after).2.world.engine.script.events = S.world.engine.script.events ∧
      (S.steps after).2.world.engine.script.scan = S.world.engine.script.scan := by
    decide +kernel
  obtain ⟨-, hfresh, hother, hlater, -⟩ := scan_independent_of_history .standard before hserves
  clear_value before plain after
  have hdone := (hfresh "t").1 halloc
  refine ⟨hdone, ?_⟩
  intro text
  refine ⟨(hfresh "t").2 hdone text, ?_, ?_⟩
  · exact hother .unlimited plain "t" "d" _ hplain rfl hevents hscan text
  · exact (hlater after hspares).2 hafter.1 hafter.2 text

end Session

end Multiscan
