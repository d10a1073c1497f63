import Multiscan.Proofs.Builtin.Cells
import Multiscan.Proofs.Session.Growth
import Multiscan.Proofs.Session.Tidy
/-!
# Built-in engine — the stakes of scanners

A scanner has a stake in one cell: scratch space with room for exactly the greatest
of the databases that it was given it for. An operation that names the scanner
changes its stake as the answer tells (`perform_named`).
-/

namespace Multiscan

open Engine Builtin Session

/-! ## The stake of a scanner -/

namespace Builtin

variable {setup : Setup} {R : Multiset Slot} {sc : Scanner} {d : Database} {ns : List Nat}

/-- What is known of the scratch space of a scanner that was given it for
databases of so many patterns. -/
def stake (ns : List Nat) (scratch : Option Handle) : Multiset Slot :=
  ↑(scratch.toList.map (Slot.room (greatest ns)))

theorem stake_none (ns : List Nat) : stake ns none = 0 := rfl

/-- How much room there is may be forgotten. -/
theorem forget_stake {heap : Heap} (sc : Scanner) (h : Filled (stake ns sc.scratch? + R) heap) :
    Filled ((hold setup).ofScanner sc + R) heap := by
  rcases sc with ⟨_ | k | _, events⟩
  · exact h
  · exact Filled.forget_room h
  · exact h

/-- **A scanner that is given scratch space** has room for the greatest of the
databases after that. -/
theorem alloc_stake (setup : Setup) (sc : Scanner) (d : Database)
    (hns : sc.scratch? = none → ns = []) :
    (sc.alloc (engine setup) d).Ensures
      (fun w => Filled (stake ns sc.scratch? + ((hold setup).ofDatabase d + R)) w.engine)
      (fun sc' w => sc'.scratch? ≠ none ∧
        Filled (stake (ns ++ [d.length]) sc'.scratch? + ((hold setup).ofDatabase d + R)) w.engine)
      fun _ w => Filled (stake ns sc.scratch? + ((hold setup).ofDatabase d + R)) w.engine := by
  refine .bind_ofExcept (fun b hd => ?_) fun _ _ h => h
  refine .bind_ofExcept (fun scratch hs => ?_) fun _ _ h => h
  have hmem : Slot.database setup b d.batch ∈ (hold setup).ofDatabase d + R :=
    Multiset.mem_add.2 (.inl ((hold setup).mem_ofDatabase hd))
  rw [Scanner.scratch?_of_toGrow hs] at hns ⊢
  have hask : Step.Ensures
      (fun w => Filled (stake ns scratch + ((hold setup).ofDatabase d + R)) w.engine)
      (World.ask (engine setup) (.allocScratch b scratch)) fun reply w =>
        ∃ k, reply = ⟨Code.success, some k⟩ ∧
          Filled (stake (ns ++ [d.length]) (some k) +
            ((hold setup).ofDatabase d + R)) w.engine := by
    intro w hw
    have hlength : d.batch.length = d.length :=
      Database.length_batch (hw.database (Multiset.mem_add.2 (.inr hmem))).1
    rcases scratch with _ | k
    · have hrest : Filled ((hold setup).ofDatabase d + R) w.engine := by simpa [stake] using hw
      obtain ⟨hreply, hfilled⟩ := hrest.alloc_new hmem
      refine ⟨_, hreply, ?_⟩
      rw [stake, greatest_concat, hns rfl, greatest_nil, Nat.zero_max, ← hlength]
      exact hfilled
    · obtain ⟨hreply, hfilled⟩ := Filled.alloc_more hw hmem
      refine ⟨k, hreply, ?_⟩
      rw [stake, greatest_concat, ← hlength]
      exact hfilled
  refine .bind_lift hask fun reply => ?_
  rintro w ⟨k, rfl, hw⟩
  exact ⟨nofun, hw⟩

/-- A scan leaves the room as it is. -/
theorem scanStep_stake (sc : Scanner) (d : Database) (text : String) :
    Step.Ensures (fun w => Filled (stake ns sc.scratch? + R) w.engine)
      (sc.scanStep (engine setup) d text)
      fun r w => r.2.scratch? = sc.scratch? ∧ Filled (stake ns sc.scratch? + R) w.engine := by
  rw [Scanner.scanStep]
  rcases hask : sc.toAsk d text with e | ⟨k, b, data⟩
  · exact .pure fun _ h => ⟨rfl, h⟩
  rw [Scanner.scratch?_of_toScan (Scanner.of_toAsk hask).1]
  have hscan : Step.Ensures (fun w => Filled (stake ns (some k) + R) w.engine)
      (World.ask (engine setup) (.scan b k data))
      fun _ w => Filled (stake ns (some k) + R) w.engine := fun w hw => Filled.scan hw b data
  have hstage : ∀ events, (sc.forget.hear events).scratch? = some k := fun _ =>
    Scanner.scratch?_of_toScan (Scanner.of_toAsk hask).1
  refine .bind hscan fun reply => ?_
  dsimp only
  split
  · exact .pure fun _ h => ⟨hstage _, h⟩
  · exact fun w h => ⟨hstage _, h⟩

/-- A scanner that is closed has no stake in anything. -/
theorem close_stake (sc : Scanner) :
    Step.Ensures (fun w => Filled (stake ns sc.scratch? + R) w.engine) (sc.close (engine setup))
      fun sc' w => sc'.scratch? = none ∧ Filled R w.engine := by
  intro w hw
  obtain ⟨hstage, hfilled⟩ := (hold setup).closeScanner sc w (forget_stake sc hw)
  exact ⟨by rw [Scanner.scratch?, hstage], hfilled⟩

/-- Asking for the sizes changes nothing. -/
theorem sizes_stake {P : World Heap → Prop} (sc : Scanner) :
    (sc.scratchSize (engine setup)).Ensures P (fun _ => P) (fun _ => P) ∧
      (sc.baseScratchSize (engine setup)).Ensures P (fun _ => P) fun _ => P := by
  constructor <;> refine .bind_ofExcept (fun k _ => ?_) fun _ _ h => h
  · refine .bind_lift (ask_measure k).1 fun reply => ?_
    dsimp only
    split
    · exact .bind_throw fun _ h => h
    · exact .pure fun _ h => h
  · refine .bind_lift (ask_measure k).2 fun reply => ?_
    dsimp only
    split
    · exact .bind_throw fun _ h => h
    · exact .pure fun _ h => h

/-! ## Through one operation -/

open Workspace

/-- A scanner has the stake in its scratch space that it was given, beside all else
in the workspace. -/
def Stakes (setup : Setup) (s : String) (ns : List Nat) (ws : Workspace) (w : World Heap) :
    Prop :=
  (ns = [] ↔ ws.scratch? s = none) ∧
    Filled (stake ns (ws.scratch? s) + (hold setup).ofWorkspace (ws.withoutScanner s)) w.engine

variable {ws : Workspace} {w : World Heap} {s : String} {op : Operation} {g : Growth}

theorem Stakes.put (h : ws.Ordered) (hns : ns = [] ↔ sc.scratch? = none)
    (hw : Filled (stake ns sc.scratch? + (hold setup).ofWorkspace (ws.withoutScanner s)) w.engine) :
    Stakes setup s ns { ws with scanners := ws.scanners.put s sc } w := by
  have hfind : (ws.scanners.put s sc).find? s = some sc := by rw [Named.find?_put, if_pos rfl]
  have hrest : withoutScanner { ws with scanners := ws.scanners.put s sc } s =
      ws.withoutScanner s := by
    rw [withoutScanner, Named.remove_put_self h.scanners]
    rfl
  rw [Stakes, hrest, scratch?_of_find? hfind]
  exact ⟨hns, hw⟩

/-- Without the scanner there is no stake. -/
theorem Stakes.remove (hw : Filled ((hold setup).ofWorkspace (ws.withoutScanner s)) w.engine) :
    Stakes setup s [] (ws.withoutScanner s) w := by
  have hnone : (ws.withoutScanner s).scratch? s = none := by
    rw [Workspace.scratch?, withoutScanner, Named.find?_remove, if_pos rfl]
    rfl
  have hrest : (ws.withoutScanner s).withoutScanner s = ws.withoutScanner s := by
    simp only [withoutScanner, Named.remove_remove]
  rw [Stakes, hnone, hrest]
  exact ⟨⟨fun _ => rfl, fun _ => rfl⟩, by simpa [stake] using hw⟩

/-- A scanner put in a place of the workspace has its stake, and the one that had
the place has none any more. -/
theorem putScanner_stake {ns' : List Nat} (h : ws.Ordered) (hns : ns' = [] ↔ sc.scratch? = none) :
    Step.Ensures (fun w => Filled (stake ns' sc.scratch? + (stake ns (ws.scratch? s) +
        (hold setup).ofWorkspace (ws.withoutScanner s))) w.engine)
      (ws.putScanner (engine setup) s sc) (Stakes setup s ns') := by
  rw [putScanner]
  rcases hs : ws.scanners.find? s with _ | old
  · have hnone : ws.scratch? s = none := by
      rw [Workspace.scratch?, hs]
      rfl
    rw [hnone]
    exact .pure fun w hw => .put h hns (by simpa [stake] using hw)
  · rw [scratch?_of_find? hs, add_left_comm]
    exact (close_stake old).bind fun _ => .pure fun w hw => .put h hns hw.2

/-- A new scanner for a database of the workspace. -/
theorem newScanner_stake {db : String} {scratch : Option Handle} (h : ws.Ordered)
    (hd : ws.databases.find? db = some d) (s : String) :
    (Scanner.ofDatabase (engine setup) d).Ensures
      (fun w => Filled (stake ns scratch + (hold setup).ofWorkspace (ws.withoutScanner s)) w.engine)
      (fun sc w => sc.scratch? ≠ none ∧ Filled (stake [d.length] sc.scratch? +
        (stake ns scratch + (hold setup).ofWorkspace (ws.withoutScanner s))) w.engine)
      fun _ w =>
        Filled (stake ns scratch + (hold setup).ofWorkspace (ws.withoutScanner s)) w.engine := by
  have halloc := alloc_stake setup .unallocated d (fun _ => rfl)
    (R := stake ns scratch + (hold setup).ofWorkspace ((ws.withoutScanner s).withoutDatabase db))
  rw [show Scanner.unallocated.scratch? = none from rfl, stake_none, Multiset.zero_add] at halloc
  rw [(hold setup).ofWorkspace_of_database (h.withoutScanner s) hd,
    add_left_comm (stake ns scratch)]
  exact halloc

section

variable {db : String}

theorem Stakes.of_quiet {a : Answer} (hns : g.served = [] ↔ ws.scratch? s = none) (ha : a.Quiet)
    (hw : Filled (stake g.served (ws.scratch? s) +
      (hold setup).ofWorkspace (ws.withoutScanner s)) w.engine) :
    Stakes setup s (g.after s (op, a)).served ws w := by
  rw [Growth.after_of_quiet ha]
  exact ⟨hns, hw⟩

theorem lengths_of_find? (hg : g.Tracks ws) (hd : ws.databases.find? db = some d) :
    (g.lengths db).toList = [d.length] := by
  rw [hg.lengths, hd]
  rfl

/-- Scratch space that has served a database is there. -/
theorem concat_eq_nil_iff (ns : List Nat) (n : Nat) {scratch : Option Handle}
    (h : scratch ≠ none) : ns ++ [n] = [] ↔ scratch = none :=
  ⟨fun hnil => absurd hnil (List.append_ne_nil_of_right_ne_nil ns (List.cons_ne_nil n [])), fun hnone => absurd hnone h⟩

/-- What an operation on the scanner `s` does to its stake. -/
abbrev MovesStake (setup : Setup) (s : String) (g : Growth) (ws : Workspace)
    (op : Operation) : Prop :=
  Step.Ensures (fun w => Filled (stake g.served (ws.scratch? s) +
      (hold setup).ofWorkspace (ws.withoutScanner s)) w.engine)
    (ws.perform (engine setup) op)
    fun r w => Stakes setup s (g.after s (op, r.1)).served r.2 w

/-- A scanner that is made anew has no stake. -/
theorem movesStake_scanner (hg : g.Tracks ws) : MovesStake setup s g ws (.scanner s) := by
  have hnew : ([] : List Nat) = [] ↔ Scanner.unallocated.scratch? = none :=
    ⟨fun _ => rfl, fun _ => rfl⟩
  rw [MovesStake, ← Multiset.zero_add (stake g.served _ + _)]
  refine (putScanner_stake hg.ordered hnew).bind fun ws' => .pure fun w hw => ?_
  rwa [Growth.after, if_pos rfl]

/-- A scanner that is made for a database has its stake for that database. -/
theorem movesStake_scannerFor (hg : g.Tracks ws) (hns : g.served = [] ↔ ws.scratch? s = none) :
    MovesStake setup s g ws (.scannerFor s db) := by
  refine ensures_withDatabase (fun _ => .of_quiet hns trivial) fun d hd => ?_
  refine .bind_attempt (newScanner_stake hg.ordered hd s) (fun sc => .assume fun hsc => ?_)
    fun _ => .pure fun _ => .of_quiet hns trivial
  refine (putScanner_stake hg.ordered (concat_eq_nil_iff [] d.length hsc)).bind fun ws' =>
    .pure fun w hw => ?_
  rwa [Growth.after, if_pos rfl, lengths_of_find? hg hd]

/-- Asking for room adds the database to those that the stake is for. -/
theorem movesStake_alloc (hg : g.Tracks ws) (hns : g.served = [] ↔ ws.scratch? s = none) :
    MovesStake setup s g ws (.alloc s db) := by
  refine ensures_withDatabase (fun _ => .of_quiet hns trivial) fun d hd => ?_
  refine ensures_withScanner (fun _ => .of_quiet hns trivial) fun sc hs => ?_
  have hsplit := (hold setup).ofWorkspace_of_database (hg.ordered.withoutScanner s) hd
  have hquiet (e : Error) (w : World Heap) (hw : Filled (stake g.served (ws.scratch? s) +
      (hold setup).ofWorkspace (ws.withoutScanner s)) w.engine) :
      Stakes setup s (g.after s (.alloc s db, .failed e)).served ws w :=
    .of_quiet hns trivial hw
  rw [scratch?_of_find? hs] at hns hquiet ⊢
  rw [hsplit] at hquiet ⊢
  refine .bind_attempt (alloc_stake setup sc d hns.2) (fun sc' => .assume fun hsc => ?_)
    fun e => .pure fun w => hquiet e w
  refine .pure fun w hw => ?_
  rw [Growth.after, if_pos rfl, lengths_of_find? hg hd]
  exact .put hg.ordered (concat_eq_nil_iff g.served d.length hsc) (hsplit ▸ hw)

/-- A scan leaves the stake as it is, whatever it answers. -/
theorem movesStake_scan (hg : g.Tracks ws) (hns : g.served = [] ↔ ws.scratch? s = none)
    (text : String) : MovesStake setup s g ws (.scan s db text) := by
  refine ensures_withDatabase (fun _ => .of_quiet hns trivial) fun d hd => ?_
  refine ensures_withScanner (fun _ => .of_quiet hns trivial) fun sc hs => ?_
  rw [scratch?_of_find? hs] at hns ⊢
  refine (scanStep_stake sc d text).bind fun r => ?_
  obtain ⟨r, sc'⟩ := r
  refine .assume fun hsc => ?_
  rw [← hsc] at hns ⊢
  have hput {a : Answer} {w : World Heap} (ha : a.Quiet) (hw : Filled (stake g.served sc'.scratch? +
      (hold setup).ofWorkspace (ws.withoutScanner s)) w.engine) :
      Stakes setup s (g.after s (.scan s db text, a)).served
        { ws with scanners := ws.scanners.put s sc' } w := by
    rw [Growth.after_of_quiet ha]
    exact .put hg.ordered hns hw
  rcases r with e | ms
  · exact .pure fun _ => hput trivial
  · exact .pure fun _ => hput trivial

/-- A scanner that is closed has no stake any more, and stays in its place. -/
theorem movesStake_closeScanner (hg : g.Tracks ws)
    (hns : g.served = [] ↔ ws.scratch? s = none) :
    MovesStake setup s g ws (.closeScanner s) := by
  refine ensures_withScanner (fun _ => .of_quiet hns trivial) fun sc hs => ?_
  rw [scratch?_of_find? hs]
  refine (close_stake sc).bind fun sc' => .assume fun hsc => .pure fun w hw => ?_
  rw [Growth.after, if_pos rfl]
  refine .put hg.ordered ⟨fun _ => hsc, fun _ => rfl⟩ ?_
  rwa [hsc, stake_none, Multiset.zero_add]

/-- A scanner that is dropped has no stake any more. -/
theorem movesStake_dropScanner (hns : g.served = [] ↔ ws.scratch? s = none) :
    MovesStake setup s g ws (.dropScanner s) := by
  refine ensures_withScanner (fun _ => .of_quiet hns trivial) fun sc hs => ?_
  rw [scratch?_of_find? hs]
  refine (close_stake sc).bind fun sc' => .assume fun hsc => .pure fun w hw => ?_
  rw [Growth.after, if_pos rfl]
  exact .remove hw

/-- Asking a scanner for its sizes leaves its stake as it is. -/
theorem movesStake_sizes (hns : g.served = [] ↔ ws.scratch? s = none) :
    MovesStake setup s g ws (.scratchSize s) ∧ MovesStake setup s g ws (.baseScratchSize s) := by
  constructor <;> refine ensures_withScanner (fun _ => .of_quiet hns trivial) fun sc hs => ?_
  · exact .bind_attempt (sizes_stake sc).1 (fun _ => .pure fun _ => .of_quiet hns trivial)
      fun _ => .pure fun _ => .of_quiet hns trivial
  · exact .bind_attempt (sizes_stake sc).2 (fun _ => .pure fun _ => .of_quiet hns trivial)
      fun _ => .pure fun _ => .of_quiet hns trivial

/-- **An operation that names a scanner** changes its stake as the answer tells. -/
theorem perform_named (hg : g.Tracks ws) (hns : g.served = [] ↔ ws.scratch? s = none)
    (hop : op.NamesScanner s) : MovesStake setup s g ws op := by
  rcases op with ⟨db, groups, es⟩ | s' | ⟨s', db⟩ | ⟨s', db⟩ | ⟨s', db, text⟩ | db | s' | s' | db |
    db | s' | s' | db | s' | ⟨db, id⟩ | e | e
  case compile | databaseSize | closeDatabase | dropDatabase | databaseState | expression | info |
    validate => exact hop.elim
  all_goals obtain rfl : s' = s := hop
  case scanner => exact movesStake_scanner hg
  case scannerFor => exact movesStake_scannerFor hg hns
  case alloc => exact movesStake_alloc hg hns
  case scan => exact movesStake_scan hg hns text
  case scratchSize => exact (movesStake_sizes hns).1
  case baseScratchSize => exact (movesStake_sizes hns).2
  case closeScanner => exact movesStake_closeScanner hg hns
  case dropScanner => exact movesStake_dropScanner hns
  case scannerState =>
    exact ensures_withScanner (fun _ => .of_quiet hns trivial) fun sc hs =>
      .pure fun _ => .of_quiet hns trivial

end

end Builtin

end Multiscan
