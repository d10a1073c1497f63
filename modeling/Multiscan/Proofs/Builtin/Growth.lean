import Multiscan.Proofs.Builtin.Once
import Multiscan.Proofs.Builtin.Stakes
import Multiscan.Proofs.Session.Sparing
/-!
# Built-in engine — scratch space grows and never shrinks

The scratch space of a scanner has room for exactly as many patterns as the
largest of the databases has that the scanner was given scratch space for. Whatever
else happens in the workspace does not come upon it, and what happens to it leaves
no less room than there was (`scratch_grows`).
-/

namespace Multiscan

open Engine Session

namespace Builtin

open Workspace

variable {setup : Setup} {sc : Scanner} {d : Database} {ws : Workspace} {w : World Heap}
variable {s : String} {g : Growth}

/-! ## Runs -/

/-- What a run tells about a scanner is so. -/
structure Grown (setup : Setup) (s : String) (g : Growth) (ws : Workspace)
    (w : World Heap) : Prop where
  tracks : g.Tracks ws
  few : ∀ n ∈ g.served, n < UInt32.size
  stakes : Stakes setup s g.served ws w

namespace Grown

theorem start : Grown setup s .start .empty world :=
  ⟨Growth.tracks_start, nofun, ⟨fun _ => rfl, fun _ => rfl⟩, .nil _⟩

/-- **Every operation** keeps what is told. -/
theorem perform (h : Grown setup s g ws w) (op : Operation) :
    let r := ws.perform (engine setup) op w
    Grown setup s (g.after s (op, r.1.1)) r.1.2 r.2 := by
  intro r
  have heffect := ws.perform_effect (engine setup) op w trivial
  refine ⟨heffect.tracks h.tracks s, h.tracks.served_lt h.few s _, ?_⟩
  by_cases hop : op.NamesScanner s
  · exact perform_named h.tracks h.stakes.1 hop w h.stakes.2
  · have hscratch : r.1.2.scratch? s = ws.scratch? s :=
      congrArg (·.bind Scanner.scratch?) (heffect.find?_scanner hop)
    have hframe := (hold setup).perform_frame h.tracks.ordered hop
      (stake g.served (ws.scratch? s)) w (by rw [add_comm]; exact h.stakes.2)
    rw [Growth.served_after hop, Stakes, hscratch]
    exact ⟨h.stakes.1, by rw [add_comm]; exact hframe⟩

/-- **Every run** does. -/
theorem performEach (h : Grown setup s g ws w) (ops : List Operation) :
    let done := ws.performEach (engine setup) ops w
    Grown setup s (done.1.1.foldl (Growth.after s) g) done.1.2 done.2 := by
  induction ops generalizing g ws w with
  | nil => exact h
  | cons op ops ih =>
    rw [performEach_cons]
    exact ih (h.perform op)

end Grown

/-! ## Sizes and scans -/

/-- A scanner is asked for the size of its scratch space. -/
theorem scratchSize_apply (setup : Setup) {k : Handle} {n : Nat} (hk : sc.scratch? = some k)
    (hroom : w.engine.scratch? (some k) = some (n, false)) :
    (sc.scratchSize (engine setup)).attempt w = (.ok (wholeShare n), w) ∧
      (sc.baseScratchSize (engine setup)).attempt w = (.ok (baseShare n), w) := by
  have hmeasure : sc.toMeasure = .ok k := by rw [Scanner.toMeasure, Scanner.stage_of_scratch? hk]
  have hsize : ∀ size : Nat → Nat,
      measure size (some k) w.engine = (⟨Code.success, size n⟩, w.engine) := fun size => by
    rw [measure_apply, hroom]
  have hwhole : World.ask (engine setup) (.scratchSize k) w =
      (⟨Code.success, wholeShare n⟩, w) := by
    rw [World.ask_apply, show (engine setup).answer (.scratchSize k) w.engine = _ from hsize _]
  have hbase : World.ask (engine setup) (.baseScratchSize k) w =
      (⟨Code.success, baseShare n⟩, w) := by
    rw [World.ask_apply, show (engine setup).answer (.baseScratchSize k) w.engine = _ from hsize _]
  rw [Scanner.scratchSize, Scanner.baseScratchSize, hmeasure, Act.attempt_bind_ok,
    Act.attempt_bind_ok, Act.attempt_bind_lift, Act.attempt_bind_lift, hwhole, hbase]
  exact ⟨rfl, rfl⟩

/-- **Whether a scan is refused** depends on the numbers of patterns only. -/
theorem answer_scan (setup : Setup) {k b : Handle} {n : Nat} {patterns : List Compiled}
    (hroom : w.engine.scratch? (some k) = some (n, false))
    (hd : w.engine.database? (some b) = some patterns) (data : Text.Bytes) :
    ((engine setup).answer (.scan b k data) w.engine).1 =
      if n < patterns.length then ⟨Code.invalid, []⟩
      else ⟨Code.success, orderedEvents patterns data⟩ := by
  change (collectScan b k data w.engine).1 = _
  rw [collectScan_apply, hd, hroom]
  dsimp only
  split
  · rfl
  · rw [if_neg Bool.false_ne_true]

namespace Grown

/-- **The room that a scanner has** is that for the greatest of its databases. -/
theorem room (h : Grown setup s g ws w) (hns : g.served ≠ []) : ∃ sc k,
    ws.scanners.find? s = some sc ∧ sc.scratch? = some k ∧
      w.engine.scratch? (some k) = some (greatest g.served, false) := by
  obtain ⟨k, hk⟩ := Option.ne_none_iff_exists'.1 (mt h.stakes.1.2 hns)
  obtain ⟨sc, hs, hsc⟩ := Option.bind_eq_some_iff.1 hk
  have hfilled := h.stakes.2
  rw [hk] at hfilled
  exact ⟨sc, k, hs, hsc, hfilled.room (Multiset.mem_add.2 (.inl (Multiset.mem_singleton_self _)))⟩

theorem sizes (h : Grown setup s g ws w) (hns : g.served ≠ []) :
    ws.perform (engine setup) (.scratchSize s) w =
        ((.scratch (48 + 40 * greatest g.served), ws), w) ∧
      ws.perform (engine setup) (.baseScratchSize s) w =
        ((.scratch (48 + 24 * greatest g.served), ws), w) ∧
      48 + 40 * greatest g.served < 2 ^ 64 := by
  obtain ⟨sc, k, hs, hsc, hroom⟩ := h.room hns
  obtain ⟨hwhole, hbase⟩ := scratchSize_apply setup hsc hroom
  have hshare : wholeShare (greatest g.served) = 48 + 40 * greatest g.served := by
    rw [wholeShare, baseShare]
    omega
  have hlt : greatest g.served < UInt32.size := h.few _ (greatest_mem hns)
  have hsize : UInt32.size = 2 ^ 32 := rfl
  simp only [Workspace.perform, withScanner, hs, report, Step.bind_apply, hwhole, hbase, ← hshare]
  exact ⟨rfl, rfl, by omega⟩

/-- An open database has as many patterns as expressions, and few enough. -/
theorem database (h : Grown setup s g ws w) {db : String} {b : Handle}
    (hd : ws.databases.find? db = some d) (hb : d.handle = some b) : d.length < UInt32.size ∧
      Database.jobs 0 d.expressions = .ok d.batch ∧ ∃ patterns,
        compileAll setup 0 (d.batch.map sourceOf) = .ok patterns ∧
          w.engine.database? (some b) = some patterns ∧ patterns.length = d.length := by
  have hmem : Slot.database setup b d.batch ∈
      (hold setup).ofWorkspace (ws.withoutScanner s) := by
    rw [(hold setup).ofWorkspace_of_database (h.tracks.ordered.withoutScanner s) hd,
      Custody.ofDatabase, hb]
    exact Multiset.mem_add.2 (.inl (Multiset.mem_singleton_self _))
  obtain ⟨hbatch, patterns, hpatterns, hheap, hlength⟩ :=
    h.stakes.2.database (Multiset.mem_add.2 (.inr hmem))
  have hjobs : Database.jobs 0 d.expressions = .ok d.batch := by
    rcases hjobs : Database.jobs 0 d.expressions with e | jobs
    · exact absurd (by rw [Database.batch, hjobs]; rfl) hbatch
    · rw [Database.batch, hjobs]
      rfl
  have hlengths : g.lengths db = some d.length := by
    rw [h.tracks.lengths, hd]
    rfl
  refine ⟨h.tracks.few db _ hlengths, hjobs, patterns, hpatterns, hheap, ?_⟩
  rw [hlength, Database.length_batch hbatch]

/-- **Whether the engine refuses a scan**, whatever the data is. -/
theorem reply (h : Grown setup s g ws w) (hns : g.served ≠ []) {db : String} {b k : Handle}
    (hd : ws.databases.find? db = some d) (hb : d.handle = some b) (hk : ws.scratch? s = some k)
    (data : Text.Bytes) :
    let reply := ((engine setup).answer (.scan b k data) w.engine).1
    if greatest g.served < d.length then reply = ⟨Code.invalid, []⟩
    else reply.code = Code.success := by
  obtain ⟨sc, k', hs, hsc, hroom⟩ := h.room hns
  obtain rfl : k = k' := Option.some.inj (hk.symm.trans ((scratch?_of_find? hs).trans hsc))
  obtain ⟨-, -, patterns, -, hheap, hlength⟩ := h.database hd hb
  have hreply := answer_scan setup hroom hheap data
  rw [hlength] at hreply
  intro reply
  split
  · next hlarge => exact hreply.trans (if_pos hlarge)
  · next hfits => exact congrArg ScanReply.code (hreply.trans (if_neg hfits))

/-- A scan for a database that is too large comes to nothing. -/
theorem scan_refused (h : Grown setup s g ws w) (hns : g.served ≠ []) {db : String}
    (hd : ws.databases.find? db = some d) (hopen : d.isClosed = false) {text : String}
    (hsize : (Text.bytesOf text).size < UInt32.size) (hlarge : greatest g.served < d.length) :
    let r := ws.perform (engine setup) (.scan s db text) w
    (∃ e, r.1.1 = .failed e ∧ e.kind = .invalidParameter ∧ e.code? = some Code.invalid) ∧
      (r.1.2.scanners.find? s).map Scanner.events = some [] := by
  obtain ⟨b, hb⟩ := Database.exists_handle hopen
  obtain ⟨sc, k, hs, hsc, hroom⟩ := h.room hns
  obtain ⟨-, -, patterns, -, hheap, hlength⟩ := h.database hd hb
  have hask := Scanner.toAsk_eq (Scanner.stage_of_scratch? hsc) hb text
  have hreply := answer_scan setup hroom hheap (Text.bytesOf text)
  rw [if_neg (Nat.not_le.2 hsize)] at hask
  rw [hlength, if_pos hlarge] at hreply
  have hscan := Scanner.scanStep_of_answer hask (Prod.ext hreply rfl)
  rw [if_neg (by decide)] at hscan
  intro r
  have hr : r.1 = (.failed ((Error.ofCode Code.invalid).within "failed to scan"),
      { ws with scanners := ws.scanners.put s (sc.forget.hear []) }) := by
    simp only [r, Workspace.perform, withDatabase, hd, withScanner, hs, Step.bind_apply, hscan]
    rfl
  rw [hr, Named.find?_put, if_pos rfl]
  exact ⟨⟨_, rfl, rfl, rfl⟩, rfl⟩

/-- A scan for any other database comes to matches. -/
theorem scan_matches (h : Grown setup s g ws w) (hns : g.served ≠ []) {db : String}
    (hd : ws.databases.find? db = some d) (hopen : d.isClosed = false) {text : String}
    (hsize : (Text.bytesOf text).size < UInt32.size) (hfits : ¬ greatest g.served < d.length) :
    ∃ ms, (ws.perform (engine setup) (.scan s db text) w).1.1 = .matches ms := by
  obtain ⟨b, hb⟩ := Database.exists_handle hopen
  obtain ⟨sc, k, hs, hsc, hroom⟩ := h.room hns
  obtain ⟨hcount, hjobs, patterns, hpatterns, hheap, hlength⟩ := h.database hd hb
  have hask := Scanner.toAsk_eq (Scanner.stage_of_scratch? hsc) hb text
  have hreply := answer_scan setup hroom hheap (Text.bytesOf text)
  rw [if_neg (Nat.not_le.2 hsize)] at hask
  rw [hlength, if_neg hfits] at hreply
  obtain ⟨ms, hms, -⟩ := translateAll_orderedEvents (h := d.handle) hcount hjobs hpatterns text
  have hscan := Scanner.scanStep_of_answer hask (Prod.ext hreply rfl)
  rw [if_pos rfl, hms] at hscan
  refine ⟨ms, ?_⟩
  simp only [Workspace.perform, withDatabase, hd, withScanner, hs, Step.bind_apply, hscan]
  rfl

/-- A text that is too long is refused before the engine is asked. -/
theorem scan_tooLong (h : Grown setup s g ws w) (hns : g.served ≠ []) {db : String}
    (hd : ws.databases.find? db = some d) (hopen : d.isClosed = false) {text : String}
    (hsize : UInt32.size ≤ (Text.bytesOf text).size) :
    let r := ws.perform (engine setup) (.scan s db text) w
    r.1.1 = .failed (Scanner.tooLong (Text.bytesOf text).size) ∧ r.2 = w := by
  obtain ⟨b, hb⟩ := Database.exists_handle hopen
  obtain ⟨sc, k, hs, hsc, -⟩ := h.room hns
  have hask := Scanner.toAsk_eq (Scanner.stage_of_scratch? hsc) hb text
  rw [if_pos hsize] at hask
  simp only [Workspace.perform, withDatabase, hd, withScanner, hs, Scanner.scanStep, hask]
  exact ⟨rfl, rfl⟩

end Grown

/-! ## Later on -/

theorem growsInPlace (setup : Setup) : (engine setup).GrowsInPlace := fun b k heap =>
  scratch_allocScratch (some b) k heap

/-- A scanner keeps its scratch space until it is closed or replaced. -/
theorem performEach_scratch? {k : Handle} {more : List Operation} (hk : ws.scratch? s = some k)
    (h : ∀ op ∈ more, ¬ op.ReplacesScanner s ∧ op ≠ .closeScanner s) (w : World Heap) :
    (ws.performEach (engine setup) more w).1.2.scratch? s = some k :=
  scratch?_eq_some.2 (performEach_stage (growsInPlace setup) (scratch?_eq_some.1 hk) h w)

/-- **Scratch space grows and never shrinks**, however the engine is set up and in every run of
operations. A scanner has scratch space if it was given it for databases of the
numbers `ns` of expressions and was not closed since, the greatest of them being
`n`. Then this number alone determines both sizes, which have room in 64 bits, and
which databases are too large for a scan: these are refused with no events, and all
others are scanned. As long as the scanner is not closed or replaced, it
keeps the same scratch space, and `n` does not get smaller. -/
theorem scratch_grows (setup : Setup) (s : String) (ops : List Operation) :
    let E := engine setup
    let done := Workspace.empty.performEach E ops world
    let ws := done.1.2
    let w := done.2
    let ns := served s done.1.1
    let n := greatest ns
    (ns = [] ↔ ws.scratch? s = none) ∧
    (ns ≠ [] →
      (n ∈ ns ∧ ∀ m ∈ ns, m ≤ n) ∧
      ws.perform E (.scratchSize s) w = ((.scratch (48 + 40 * n), ws), w) ∧
      ws.perform E (.baseScratchSize s) w = ((.scratch (48 + 24 * n), ws), w) ∧
      48 + 40 * n < 2 ^ 64 ∧
      (∀ db d b k data, ws.databases.find? db = some d → d.handle = some b →
        ws.scratch? s = some k →
        let reply := (E.answer (.scan b k data) w.engine).1
        if n < d.length then reply = ⟨Code.invalid, []⟩ else reply.code = Code.success) ∧
      (∀ db d text, ws.databases.find? db = some d → d.isClosed = false →
        let r := ws.perform E (.scan s db text) w
        if UInt32.size ≤ (Text.bytesOf text).size then
          r.1.1 = .failed (Scanner.tooLong (Text.bytesOf text).size) ∧ r.2 = w
        else if n < d.length then
          (∃ e, r.1.1 = .failed e ∧ e.kind = .invalidParameter ∧ e.code? = some Code.invalid) ∧
            (r.1.2.scanners.find? s).map Scanner.events = some []
        else ∃ ms, r.1.1 = .matches ms) ∧
      ∀ more, (∀ op ∈ more, ¬ op.ReplacesScanner s ∧ op ≠ .closeScanner s) →
        let later := Workspace.empty.performEach E (ops ++ more) world
        later.1.2.scratch? s = ws.scratch? s ∧
          ∃ ms, served s later.1.1 = ns ++ ms ∧ n ≤ greatest (ns ++ ms)) := by
  intro E done ws w ns n
  have h : Grown setup s (done.1.1.foldl (Growth.after s) .start) ws w :=
    Grown.start.performEach ops
  refine ⟨h.stakes.1, fun hns => ?_⟩
  obtain ⟨hwhole, hbase, hlt⟩ := h.sizes hns
  refine ⟨⟨greatest_mem hns, fun m => le_greatest⟩, hwhole, hbase, hlt,
    fun db d b k data hd hb hk => h.reply hns hd hb hk data, ?_, ?_⟩
  · intro db d text hd hopen r
    split
    · next hlong => exact h.scan_tooLong hns hd hopen hlong
    · next hshort =>
      split
      · next hlarge => exact h.scan_refused hns hd hopen (Nat.not_le.1 hshort) hlarge
      · next hfits => exact h.scan_matches hns hd hopen (Nat.not_le.1 hshort) hfits
  · intro more hmore later
    have hlater : later = _ := performEach_append E .empty ops more world
    obtain ⟨k, hk⟩ := Option.ne_none_iff_exists'.1 (mt h.stakes.1.2 hns)
    obtain ⟨ms, hms⟩ : ∃ ms, served s (done.1.1 ++ (ws.performEach E more w).1.1) = ns ++ ms := by
      rw [served, List.foldl_append]
      exact served_foldl (fun x hx => hmore x.1 (mem_of_mem_performEach hx)) _
    rw [hlater, hk]
    exact ⟨performEach_scratch? hk hmore w, ms, hms, greatest_le_append ns ms⟩

/-- A scanner for one pattern, which refuses to scan for three, and is then given
scratch space for three as well. The larger database is forgotten after that. -/
theorem scratch_grows_for_three :
    let E := engine .unlimited
    let one : List Expression := [.ofPattern "a" .empty]
    let three : List Expression := one ++ [.ofPattern "b" .empty, .ofPattern "c" .empty]
    let few := [Operation.compile "one" false one, .compile "three" true three,
      .scannerFor "s" "one"]
    let more := [Operation.scan "s" "three" "cba", .alloc "s" "three", .dropDatabase "three",
      .alloc "s" "one"]
    let done := Workspace.empty.performEach E few world
    let later := Workspace.empty.performEach E (few ++ more) world
    (∃ e, (done.1.2.perform E (.scan "s" "three" "cba") done.2).1.1 = .failed e ∧
      e.kind = .invalidParameter ∧ e.code? = some Code.invalid) ∧
    later.1.2.scratch? "s" = done.1.2.scratch? "s" ∧
    later.1.2.perform E (.scratchSize "s") later.2 = ((.scratch 168, later.1.2), later.2) ∧
    later.1.2.perform E (.baseScratchSize "s") later.2 = ((.scratch 120, later.1.2), later.2) ∧
    ∃ ms, (later.1.2.perform E (.scan "s" "one" "cba") later.2).1.1 = .matches ms := by
  intro E one three few more done later
  have hserved : served "s" done.1.1 = [1] := by decide +kernel
  have hserved' : served "s" later.1.1 = [1, 3, 1] := by decide +kernel
  have hthree : done.1.2.databases.find? "three" = some ⟨some 1, three⟩ := by decide +kernel
  have hone : later.1.2.databases.find? "one" = some ⟨some 0, one⟩ := by decide +kernel
  have hspared : ∀ op ∈ more, ¬ op.ReplacesScanner "s" ∧ op ≠ .closeScanner "s" := by
    simp [more, Operation.ReplacesScanner]
  have hshort : ¬ UInt32.size ≤ (Text.bytesOf "cba").size := by decide
  clear_value few more
  obtain ⟨-, hdone⟩ := scratch_grows .unlimited "s" few
  obtain ⟨-, hlater⟩ := scratch_grows .unlimited "s" (few ++ more)
  obtain ⟨-, -, -, -, -, hrefused, hkept⟩ := hdone (hserved ▸ List.cons_ne_nil _ _)
  obtain ⟨-, hwhole, hbase, -, -, hscanned, -⟩ := hlater (hserved' ▸ List.cons_ne_nil _ _)
  have hlarge : greatest (served "s" done.1.1) < three.length := by rw [hserved]; decide
  have hfits : ¬ greatest (served "s" later.1.1) < one.length := by rw [hserved']; decide
  have hrefusal := (if_pos hlarge).mp ((if_neg hshort).mp (hrefused "three" _ "cba" hthree rfl))
  have hmatches := (if_neg hfits).mp ((if_neg hshort).mp (hscanned "one" _ "cba" hone rfl))
  have hsize : 168 = 48 + 40 * greatest (served "s" later.1.1) := by rw [hserved']; rfl
  have hbaseSize : 120 = 48 + 24 * greatest (served "s" later.1.1) := by rw [hserved']; rfl
  refine ⟨hrefusal.1, (hkept more hspared).1, ?_, ?_, hmatches⟩
  · rw [hsize]
    exact hwhole
  · rw [hbaseSize]
    exact hbase

end Builtin

end Multiscan
