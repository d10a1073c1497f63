import Multiscan.Scanner
import Multiscan.Session.Named
import Multiscan.Validation
/-!
# Session — databases and scanners in use

A workspace holds databases and scanners by name. Operations on it are the
operations of the library; whatever is replaced, dropped or left over at
the end is closed. The name of a database is looked up before that of a
scanner.
-/

namespace Multiscan.Session

variable {σ : Type}

/-- The databases and scanners in use. -/
structure Workspace where
  databases : Named Database
  scanners : Named Scanner

/-- What can be done in a workspace. -/
inductive Operation
  /-- Compile a batch into a database of a name. -/
  | compile (db : String) (groups : Bool) (expressions : List Expression)
  /-- A new scanner without scratch space. -/
  | scanner (s : String)
  /-- A new scanner with scratch space for a database. -/
  | scannerFor (s db : String)
  /-- Give a scanner scratch space for a database. -/
  | alloc (s db : String)
  /-- Scan a text. -/
  | scan (s db : String) (text : String)
  /-- Ask for the size of a database. -/
  | databaseSize (db : String)
  /-- Ask for the size of a scanner's scratch space. -/
  | scratchSize (s : String)
  /-- Ask for the size of the base variant's share of it. -/
  | baseScratchSize (s : String)
  /-- Close a database and keep it. -/
  | closeDatabase (db : String)
  /-- Close a database and forget it. -/
  | dropDatabase (db : String)
  /-- Close a scanner and keep it. -/
  | closeScanner (s : String)
  /-- Close a scanner and forget it. -/
  | dropScanner (s : String)
  /-- Look at a database. -/
  | databaseState (db : String)
  /-- Look at a scanner. -/
  | scannerState (s : String)
  /-- Look up an expression. -/
  | expression (db : String) (id : Nat)
  /-- Ask what is known about an expression. -/
  | info (e : Expression)
  /-- Validate an expression. -/
  | validate (e : Expression)

/-- What an operation answers. -/
inductive Answer
  | done
  | length (n : Nat)
  | size (n : Nat)
  | scratch (n : Nat)
  | matches (ms : List Match)
  | database (d : Database)
  | scanner (s : Scanner)
  | expression (e : Option Expression)
  | info (i : Info)
  | verdicts (v : Verdicts)
  | noDatabase
  | noScanner
  | failed (e : Error)

namespace Workspace

/-- The workspace without databases and scanners. -/
def empty : Workspace := ⟨[], []⟩

/-- Something done with the database of a name, if there is one. -/
def withDatabase (w : Workspace) (db : String) (act : Database → Step σ (Answer × Workspace)) :
    Step σ (Answer × Workspace) :=
  match w.databases.find? db with
  | none => return (.noDatabase, w)
  | some d => act d

/-- Something done with the scanner of a name, if there is one. -/
def withScanner (w : Workspace) (s : String) (act : Scanner → Step σ (Answer × Workspace)) :
    Step σ (Answer × Workspace) :=
  match w.scanners.find? s with
  | none => return (.noScanner, w)
  | some sc => act sc

/-- The answer of an operation that leaves the workspace as it is. -/
def report {α : Type} (w : Workspace) (act : Act σ α) (f : α → Answer) :
    Step σ (Answer × Workspace) := do
  match ← act.attempt with
  | .ok a => return (f a, w)
  | .error e => return (.failed e, w)

/-- A database put under a name; one that had the name is closed. -/
def putDatabase (E : Engine σ) (w : Workspace) (db : String) (d : Database) :
    Step σ Workspace := do
  match w.databases.find? db with
  | some old =>
    let _ ← old.close E
  | none => pure ()
  return { w with databases := w.databases.put db d }

/-- A scanner put under a name; one that had the name is closed. -/
def putScanner (E : Engine σ) (w : Workspace) (s : String) (sc : Scanner) :
    Step σ Workspace := do
  match w.scanners.find? s with
  | some old =>
    let _ ← old.close E
  | none => pure ()
  return { w with scanners := w.scanners.put s sc }

/-- An operation carried out with an engine. -/
def perform (E : Engine σ) (w : Workspace) : Operation → Step σ (Answer × Workspace)
  | .compile db groups es => do
    match ← (Database.compile E groups es).attempt with
    | .error e => return (.failed e, w)
    | .ok d => return (.length d.length, ← w.putDatabase E db d)
  | .scanner s => do return (.done, ← w.putScanner E s .unallocated)
  | .scannerFor s db => w.withDatabase db fun d => do
    match ← (Scanner.ofDatabase E d).attempt with
    | .error e => return (.failed e, w)
    | .ok sc => return (.done, ← w.putScanner E s sc)
  | .alloc s db => w.withDatabase db fun d => w.withScanner s fun sc => do
    match ← (sc.alloc E d).attempt with
    | .error e => return (.failed e, w)
    | .ok sc => return (.done, { w with scanners := w.scanners.put s sc })
  | .scan s db text => w.withDatabase db fun d => w.withScanner s fun sc => do
    let (r, sc) ← sc.scanStep E d text
    let w := { w with scanners := w.scanners.put s sc }
    match r with
    | .ok ms => return (.matches ms, w)
    | .error e => return (.failed e, w)
  | .databaseSize db => w.withDatabase db fun d => w.report (d.size E) .size
  | .scratchSize s => w.withScanner s fun sc => w.report (sc.scratchSize E) .scratch
  | .baseScratchSize s => w.withScanner s fun sc => w.report (sc.baseScratchSize E) .scratch
  | .closeDatabase db => w.withDatabase db fun d => do
    return (.done, { w with databases := w.databases.put db (← d.close E) })
  | .dropDatabase db => w.withDatabase db fun d => do
    let _ ← d.close E
    return (.done, { w with databases := w.databases.remove db })
  | .closeScanner s => w.withScanner s fun sc => do
    return (.done, { w with scanners := w.scanners.put s (← sc.close E) })
  | .dropScanner s => w.withScanner s fun sc => do
    let _ ← sc.close E
    return (.done, { w with scanners := w.scanners.remove s })
  | .databaseState db => w.withDatabase db fun d => return (.database d, w)
  | .scannerState s => w.withScanner s fun sc => return (.scanner sc, w)
  | .expression db id => w.withDatabase db fun d => return (.expression (d.expression? id), w)
  | .info e => w.report (e.info E) .info
  | .validate e => do return (.verdicts (← e.validate E), w)

/-- Close scanners in their order. -/
def closeScanners (E : Engine σ) : Named Scanner → Step σ Unit
  | [] => return ()
  | (_, sc) :: rest => do
    let _ ← sc.close E
    closeScanners E rest

/-- Close databases in their order. -/
def closeDatabases (E : Engine σ) : Named Database → Step σ Unit
  | [] => return ()
  | (_, d) :: rest => do
    let _ ← d.close E
    closeDatabases E rest

/-- Close everything: first the scanners, then the databases. -/
def closeAll (E : Engine σ) (w : Workspace) : Step σ Unit := do
  closeScanners E w.scanners
  closeDatabases E w.databases

end Workspace

end Multiscan.Session
