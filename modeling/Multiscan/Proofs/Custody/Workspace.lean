import Multiscan.Proofs.Custody.Operations
import Multiscan.Proofs.Session.Named
import Multiscan.Session.Workspace
/-!
# Custody — a workspace

Between operations, what is held is what the databases and scanners of the
workspace stand for (`perform`), whichever way the engine answers. A run of
operations keeps this, and closing everything leaves nothing.
-/

namespace Multiscan

open Session

variable {σ ι : Type} {E : Engine σ}

namespace Session.Workspace

variable {ws : Workspace}

/-- The names are in order. -/
structure Ordered (ws : Workspace) : Prop where
  databases : ws.databases.Sorted
  scanners : ws.scanners.Sorted

theorem ordered_empty : Ordered empty := ⟨Named.sorted_nil, Named.sorted_nil⟩

/-- The workspace without one of its databases. -/
def withoutDatabase (ws : Workspace) (db : String) : Workspace :=
  { ws with databases := ws.databases.remove db }

/-- The workspace without one of its scanners. -/
def withoutScanner (ws : Workspace) (s : String) : Workspace :=
  { ws with scanners := ws.scanners.remove s }

namespace Ordered

theorem withoutDatabase (h : ws.Ordered) (db : String) : (ws.withoutDatabase db).Ordered :=
  ⟨Named.sorted_remove h.databases db, h.scanners⟩

theorem withoutScanner (h : ws.Ordered) (s : String) : (ws.withoutScanner s).Ordered :=
  ⟨h.databases, Named.sorted_remove h.scanners s⟩

theorem putDatabase (h : ws.Ordered) (db : String) (d : Database) :
    Ordered { ws with databases := ws.databases.put db d } :=
  ⟨Named.sorted_put h.databases db d, h.scanners⟩

theorem putScanner (h : ws.Ordered) (s : String) (sc : Scanner) :
    Ordered { ws with scanners := ws.scanners.put s sc } :=
  ⟨h.databases, Named.sorted_put h.scanners s sc⟩

end Ordered

/-- The workspace after several operations. -/
def performAll (E : Engine σ) (ws : Workspace) : List Operation → Step σ Workspace
  | [] => return ws
  | op :: ops => do
    let (_, ws) ← ws.perform E op
    ws.performAll E ops

end Session.Workspace

namespace Custody

open Session.Workspace

variable (C : Custody E ι) {R : Multiset ι} {ws : Workspace} {db s : String} {d : Database}
variable {sc : Scanner}

/-- What the databases and scanners of a workspace stand for. -/
def ofWorkspace (ws : Workspace) : Multiset ι :=
  ws.databases.total C.ofDatabase + ws.scanners.total C.ofScanner

/-! ## One name and the rest -/

theorem ofWorkspace_of_database (h : ws.Ordered) (hd : ws.databases.find? db = some d) :
    C.ofWorkspace ws = C.ofDatabase d + C.ofWorkspace (ws.withoutDatabase db) := by
  rw [ofWorkspace, Named.total_of_find? h.databases hd, Multiset.add_assoc]
  rfl

theorem ofWorkspace_of_no_database (hd : ws.databases.find? db = none) :
    C.ofWorkspace (ws.withoutDatabase db) = C.ofWorkspace ws := by
  rw [ofWorkspace, ofWorkspace, withoutDatabase, Named.total_of_find?_none hd]

theorem ofWorkspace_putDatabase (h : ws.Ordered) (db : String) (d : Database) :
    C.ofWorkspace { ws with databases := ws.databases.put db d } =
      C.ofDatabase d + C.ofWorkspace (ws.withoutDatabase db) := by
  rw [ofWorkspace, Named.total_put h.databases, Multiset.add_assoc]
  rfl

theorem ofWorkspace_of_scanner (h : ws.Ordered) (hs : ws.scanners.find? s = some sc) :
    C.ofWorkspace ws = C.ofScanner sc + C.ofWorkspace (ws.withoutScanner s) := by
  rw [ofWorkspace, Named.total_of_find? h.scanners hs, add_left_comm]
  rfl

theorem ofWorkspace_of_no_scanner (hs : ws.scanners.find? s = none) :
    C.ofWorkspace (ws.withoutScanner s) = C.ofWorkspace ws := by
  rw [ofWorkspace, ofWorkspace, withoutScanner, Named.total_of_find?_none hs]

theorem ofWorkspace_putScanner (h : ws.Ordered) (s : String) (sc : Scanner) :
    C.ofWorkspace { ws with scanners := ws.scanners.put s sc } =
      C.ofScanner sc + C.ofWorkspace (ws.withoutScanner s) := by
  rw [ofWorkspace, Named.total_put h.scanners, add_left_comm]
  rfl

/-- A scanner, a database and the rest. -/
theorem ofWorkspace_of_both (h : ws.Ordered) (hd : ws.databases.find? db = some d)
    (hs : ws.scanners.find? s = some sc) :
    C.ofWorkspace ws = C.ofScanner sc + (C.ofDatabase d +
      C.ofWorkspace ((ws.withoutScanner s).withoutDatabase db)) := by
  rw [C.ofWorkspace_of_scanner h hs, C.ofWorkspace_of_database (h.withoutScanner s) hd]

/-! ## Operations -/

/-- The workspace is in order, and what is held is what it stands for. -/
def Settled (ws : Workspace) (w : World σ) : Prop :=
  ws.Ordered ∧ C.holds (C.ofWorkspace ws) w

theorem putDatabase_holds (h : ws.Ordered) (db : String) (d : Database) :
    Step.Ensures (C.holds (C.ofDatabase d + C.ofWorkspace ws)) (ws.putDatabase E db d)
      C.Settled := by
  have hput : ∀ w, C.holds (C.ofDatabase d + C.ofWorkspace (ws.withoutDatabase db)) w →
      C.Settled { ws with databases := ws.databases.put db d } w := fun w hw =>
    ⟨h.putDatabase db d, by rwa [C.ofWorkspace_putDatabase h]⟩
  rw [putDatabase]
  rcases hd : ws.databases.find? db with _ | old
  · rw [← C.ofWorkspace_of_no_database hd]
    exact .pure hput
  · rw [C.ofWorkspace_of_database h hd, add_left_comm]
    exact (C.closeDatabase old).bind fun _ => .pure fun w hw => hput w hw.2

theorem putScanner_holds (h : ws.Ordered) (s : String) (sc : Scanner) :
    Step.Ensures (C.holds (C.ofScanner sc + C.ofWorkspace ws)) (ws.putScanner E s sc)
      C.Settled := by
  have hput : ∀ w, C.holds (C.ofScanner sc + C.ofWorkspace (ws.withoutScanner s)) w →
      C.Settled { ws with scanners := ws.scanners.put s sc } w := fun w hw =>
    ⟨h.putScanner s sc, by rwa [C.ofWorkspace_putScanner h]⟩
  rw [putScanner]
  rcases hs : ws.scanners.find? s with _ | old
  · rw [← C.ofWorkspace_of_no_scanner hs]
    exact .pure hput
  · rw [C.ofWorkspace_of_scanner h hs, add_left_comm]
    exact (C.closeScanner old).bind fun _ => .pure fun w hw => hput w hw.2

/-- A new scanner for a database of the workspace. -/
theorem newScanner_holds (h : ws.Ordered) (hd : ws.databases.find? db = some d) :
    (Scanner.ofDatabase E d).Ensures (C.holds (C.ofWorkspace ws))
      (fun sc => C.holds (C.ofScanner sc + C.ofWorkspace ws))
      fun _ => C.holds (C.ofWorkspace ws) := by
  have halloc := C.allocScanner (R := C.ofWorkspace (ws.withoutDatabase db)) .unallocated d
  rwa [show C.ofScanner .unallocated = 0 from rfl, Multiset.zero_add,
    ← C.ofWorkspace_of_database h hd] at halloc

/-- Something that is asked and changes nothing about what is held. -/
theorem report_holds {α : Type} (h : ws.Ordered) {act : Act σ α} (f : α → Answer)
    (hact : act.Ensures (C.holds (C.ofWorkspace ws)) (fun _ => C.holds (C.ofWorkspace ws))
      fun _ => C.holds (C.ofWorkspace ws)) :
    Step.Ensures (C.holds (C.ofWorkspace ws)) (ws.report act f) fun r => C.Settled r.2 :=
  .bind_attempt hact (fun _ => .pure fun _ hw => ⟨h, hw⟩) fun _ => .pure fun _ hw => ⟨h, hw⟩

/-- What is done with a database has to be right for the database that has
the name. -/
theorem withDatabase_holds (h : ws.Ordered) {act : Database → Step σ (Answer × Workspace)}
    (hact : ∀ d, ws.databases.find? db = some d →
      Step.Ensures (C.holds (C.ofWorkspace ws)) (act d) fun r => C.Settled r.2) :
    Step.Ensures (C.holds (C.ofWorkspace ws)) (ws.withDatabase db act)
      fun r => C.Settled r.2 := by
  rw [withDatabase]
  rcases hd : ws.databases.find? db with _ | d
  · exact .pure fun _ hw => ⟨h, hw⟩
  · exact hact d hd

/-- The same for scanners. -/
theorem withScanner_holds (h : ws.Ordered) {act : Scanner → Step σ (Answer × Workspace)}
    (hact : ∀ sc, ws.scanners.find? s = some sc →
      Step.Ensures (C.holds (C.ofWorkspace ws)) (act sc) fun r => C.Settled r.2) :
    Step.Ensures (C.holds (C.ofWorkspace ws)) (ws.withScanner s act)
      fun r => C.Settled r.2 := by
  rw [withScanner]
  rcases hs : ws.scanners.find? s with _ | sc
  · exact .pure fun _ hw => ⟨h, hw⟩
  · exact hact sc hs

/-- **One operation** leaves nothing held but what the workspace stands for
after it, whether the engine lets it succeed or not. -/
theorem perform (h : ws.Ordered) (op : Operation) :
    Step.Ensures (C.holds (C.ofWorkspace ws)) (ws.perform E op)
      fun r => C.Settled r.2 := by
  rcases op with ⟨db, groups, es⟩ | s | ⟨s, db⟩ | ⟨s, db⟩ | ⟨s, db, text⟩ | db | s | s | db | db | s |
    s | db | s | ⟨db, id⟩ | e | e
  case compile =>
    refine .bind_attempt (C.compileDatabase groups es) (fun d => ?_)
      fun _ => .pure fun _ hw => ⟨h, hw⟩
    exact (C.putDatabase_holds h db d).bind fun _ => .pure fun _ hw => hw
  case scanner =>
    have hput := C.putScanner_holds h s .unallocated
    rw [show C.ofScanner .unallocated = 0 from rfl, Multiset.zero_add] at hput
    exact hput.bind fun _ => .pure fun _ hw => hw
  case scannerFor =>
    refine C.withDatabase_holds h fun d hd => ?_
    -- The new scanner is there before the one that had its name is closed.
    refine .bind_attempt (C.newScanner_holds h hd) (fun sc => ?_) fun _ => .pure fun _ hw => ⟨h, hw⟩
    exact (C.putScanner_holds h s sc).bind fun _ => .pure fun _ hw => hw
  case alloc =>
    refine C.withDatabase_holds h fun d hd => C.withScanner_holds h fun sc hs => ?_
    -- What the scanner and the database do not stand for is the rest, as it was.
    have halloc := C.allocScanner
      (R := C.ofWorkspace ((ws.withoutScanner s).withoutDatabase db)) sc d
    rw [← C.ofWorkspace_of_both h hd hs] at halloc
    refine .bind_attempt halloc (fun sc' => ?_) fun _ => .pure fun _ hw => ⟨h, hw⟩
    refine .pure fun w hw => ⟨h.putScanner s sc', ?_⟩
    rwa [C.ofWorkspace_putScanner h, C.ofWorkspace_of_database (h.withoutScanner s) hd]
  case scan =>
    refine C.withDatabase_holds h fun d hd => C.withScanner_holds h fun sc hs => ?_
    rw [C.ofWorkspace_of_both h hd hs]
    -- Only the buffer of the scanner is another one afterwards.
    refine (C.scanStep sc d text).bind fun (r, sc') => .assume fun hstage => ?_
    rw [← C.ofWorkspace_of_database (h.withoutScanner s) hd, ← C.ofScanner_congr hstage,
      ← C.ofWorkspace_putScanner h]
    rcases r with e | ms
    · exact .pure fun w hw => ⟨h.putScanner s sc', hw⟩
    · exact .pure fun w hw => ⟨h.putScanner s sc', hw⟩
  case databaseSize =>
    refine C.withDatabase_holds h fun d hd => C.report_holds h _ ?_
    rw [C.ofWorkspace_of_database h hd]
    exact C.sizeOfDatabase d
  case scratchSize =>
    refine C.withScanner_holds h fun sc hs => C.report_holds h _ ?_
    rw [C.ofWorkspace_of_scanner h hs]
    exact (C.sizesOfScanner sc).1
  case baseScratchSize =>
    refine C.withScanner_holds h fun sc hs => C.report_holds h _ ?_
    rw [C.ofWorkspace_of_scanner h hs]
    exact (C.sizesOfScanner sc).2
  case closeDatabase =>
    refine C.withDatabase_holds h fun d hd => ?_
    rw [C.ofWorkspace_of_database h hd]
    refine (C.closeDatabase d).bind fun d' => .assume fun hclosed => .pure fun w hw => ?_
    refine ⟨h.putDatabase db d', ?_⟩
    rwa [C.ofWorkspace_putDatabase h, C.ofDatabase_of_closed hclosed, Multiset.zero_add]
  case dropDatabase =>
    refine C.withDatabase_holds h fun d hd => ?_
    rw [C.ofWorkspace_of_database h hd]
    exact (C.closeDatabase d).bind fun _ => .pure fun _ hw => ⟨h.withoutDatabase db, hw.2⟩
  case closeScanner =>
    refine C.withScanner_holds h fun sc hs => ?_
    rw [C.ofWorkspace_of_scanner h hs]
    refine (C.closeScanner sc).bind fun sc' => .assume fun hreleased => .pure fun w hw => ?_
    refine ⟨h.putScanner s sc', ?_⟩
    rwa [C.ofWorkspace_putScanner h, C.ofScanner_of_released hreleased, Multiset.zero_add]
  case dropScanner =>
    refine C.withScanner_holds h fun sc hs => ?_
    rw [C.ofWorkspace_of_scanner h hs]
    exact (C.closeScanner sc).bind fun _ => .pure fun _ hw => ⟨h.withoutScanner s, hw.2⟩
  case databaseState => exact C.withDatabase_holds h fun d _ => .pure fun _ hw => ⟨h, hw⟩
  case scannerState => exact C.withScanner_holds h fun sc _ => .pure fun _ hw => ⟨h, hw⟩
  case expression => exact C.withDatabase_holds h fun d _ => .pure fun _ hw => ⟨h, hw⟩
  case info => exact C.report_holds h _ (C.infoOfExpression e)
  case validate => exact (C.validateExpression e).bind fun _ => .pure fun _ hw => ⟨h, hw⟩

/-! ## Runs -/

/-- **A run of operations** keeps the workspace settled. -/
theorem performAll (ops : List Operation) (h : ws.Ordered) :
    Step.Ensures (C.holds (C.ofWorkspace ws)) (ws.performAll E ops) C.Settled := by
  induction ops generalizing ws with
  | nil => exact .pure fun w hw => ⟨h, hw⟩
  | cons op ops ih => exact (C.perform h op).bind fun (_, ws') => .assume fun h' => ih h'

theorem closeScanners_holds (ns : Named Scanner) :
    Step.Ensures (C.holds (ns.total C.ofScanner + R)) (closeScanners E ns)
      fun _ => C.holds R := by
  induction ns with
  | nil => exact .pure fun w hw => by simpa [Named.total] using hw
  | cons head rest ih =>
    rw [Named.total, Multiset.add_assoc]
    exact (C.closeScanner head.2).bind fun _ => .assume fun _ => ih

theorem closeDatabases_holds (ns : Named Database) :
    Step.Ensures (C.holds (ns.total C.ofDatabase + R)) (closeDatabases E ns)
      fun _ => C.holds R := by
  induction ns with
  | nil => exact .pure fun w hw => by simpa [Named.total] using hw
  | cons head rest ih =>
    rw [Named.total, Multiset.add_assoc]
    exact (C.closeDatabase head.2).bind fun _ => .assume fun _ => ih

/-- **Closing everything** leaves nothing held. -/
theorem closeAll_holds (ws : Workspace) :
    Step.Ensures (C.holds (C.ofWorkspace ws)) (ws.closeAll E) fun _ => C.holds 0 := by
  rw [ofWorkspace, Multiset.add_comm]
  refine (C.closeScanners_holds ws.scanners).bind fun _ => ?_
  rw [← Multiset.add_zero (ws.databases.total C.ofDatabase)]
  exact C.closeDatabases_holds ws.databases

end Custody

end Multiscan
