import Multiscan.Database
import Multiscan.Text.Offsets
/-!
# Scanners

A scanner holds scratch space. It starts without any, is given some for a
database, may have it grown for other databases, and gives it back for good
when it is closed. A scan turns what an engine reports, ids and byte
offsets, into matches: expressions and character offsets. The scanner keeps
what was reported until its next scan.
-/

namespace Multiscan

variable {σ : Type}

/-- Where a scanner is in its life. -/
inductive Stage
  /-- There is no scratch space yet. -/
  | unallocated
  /-- There is scratch space. -/
  | allocated (scratch : Handle)
  /-- The scratch space, if there ever was any, was given back. -/
  | released
  deriving DecidableEq, Repr

/-- A scanner: where it is in its life, and what the engine has reported in
its last scan. -/
structure Scanner where
  stage : Stage
  events : List Engine.Event
  deriving DecidableEq, Repr

/-- One match: the id of the expression, the characters it covers, their
text if the expression asks for it, and the expression. -/
structure Match where
  id : Nat
  start : Nat
  stop : Nat
  text : Option String
  expression : Expression

namespace Scanner

/-- A scanner without scratch space. -/
def unallocated : Scanner := ⟨.unallocated, []⟩

/-- Whether there is scratch space. -/
def isAllocated (s : Scanner) : Bool :=
  match s.stage with
  | .allocated _ => true
  | _ => false

/-- Whether the scanner was closed. -/
def isClosed (s : Scanner) : Bool :=
  match s.stage with
  | .released => true
  | _ => false

/-- The scratch space to grow, if there is any. A closed scanner cannot be
given scratch space again. -/
def toGrow (s : Scanner) : Except Error (Option Handle) :=
  match s.stage with
  | .unallocated => .ok none
  | .allocated h => .ok (some h)
  | .released => .error (.released .scratch)

/-- The scratch space to scan with. -/
def toScan (s : Scanner) : Except Error Handle :=
  match s.stage with
  | .unallocated => .error .notAllocated
  | .allocated h => .ok h
  | .released => .error (.released .scratch)

/-- The scratch space to ask for its size. -/
def toMeasure (s : Scanner) : Except Error Handle :=
  match s.stage with
  | .allocated h => .ok h
  | _ => .error (.released .scratch)

/-! ## Scratch space -/

/-- The scanner with scratch space that serves a database as well. -/
def alloc (E : Engine σ) (s : Scanner) (d : Database) : Act σ Scanner := do
  let database ← Act.ofExcept d.handle?
  let scratch ← Act.ofExcept s.toGrow
  let reply ← World.ask E (.allocScratch database scratch)
  if reply.code ≠ Code.success then
    throw ((Error.ofCode reply.code).within "failed to allocate scratch space")
  match reply.scratch with
  | none => throw (.invalid "engine reported success without scratch space")
  | some h =>
    Act.note (.allocated h database)
    return { s with stage := .allocated h }

/-- A scanner with scratch space for a database. -/
def ofDatabase (E : Engine σ) (d : Database) : Act σ Scanner := alloc E unallocated d

/-- The size of the scratch space in bytes. -/
def scratchSize (E : Engine σ) (s : Scanner) : Act σ Nat := do
  let h ← Act.ofExcept s.toMeasure
  let reply ← World.ask E (.scratchSize h)
  if reply.code ≠ Code.success then
    throw (.ofCode reply.code)
  return reply.size

/-- The size of the base variant's share of the scratch space. -/
def baseScratchSize (E : Engine σ) (s : Scanner) : Act σ Nat := do
  let h ← Act.ofExcept s.toMeasure
  let reply ← World.ask E (.baseScratchSize h)
  if reply.code ≠ Code.success then
    throw (.ofCode reply.code)
  return reply.size

/-- The closed scanner; its scratch space is given back if there is any. -/
def close (E : Engine σ) (s : Scanner) : Step σ Scanner :=
  match s.stage with
  | .allocated h => do
    let code ← World.ask E (.freeScratch h)
    if code = Code.success then
      World.note (.releasedScratch h)
    else
      World.note (.keptScratch h (.ofCode code))
    return { s with stage := .released }
  | _ => return { s with stage := .released }

/-! ## Scanning -/

/-- The match that an event stands for. The id has to be one of the
database. -/
def translate (d : Database) (map : Text.OffsetMap) (text : List Char) (ev : Engine.Event) :
    Except Error Match :=
  let id := ev.id.toNat
  match d.expression? id with
  | none => .error (.invalid ("engine reported unknown pattern id " ++ Nat.repr id))
  | some e =>
    let (start, stop) := map.span ev.start.toNat ev.stop.toNat
    let matched :=
      if e.flags.contains .extractMatched then some (String.ofList (map.slice text start stop))
      else none
    .ok ⟨id, start, stop, matched, e⟩

/-- The matches that events stand for, or the error for the first that
stands for none. -/
def translateAll (d : Database) (text : List Char) (events : List Engine.Event) :
    Except Error (List Match) :=
  let map := Text.OffsetMap.ofText text
  events.mapM (translate d map text)

/-- The scratch space, the database and the bytes of a scan, unless one of
them is missing or the text is too long. -/
def toAsk (s : Scanner) (d : Database) (text : String) :
    Except Error (Handle × Handle × Text.Bytes) := do
  let scratch ← s.toScan
  let database ← d.handle?
  let data := Text.bytesOf text
  if UInt32.size ≤ data.size then
    throw (.invalid ("text of " ++ Nat.repr data.size ++ " bytes is too long to scan in one call"))
  return (scratch, database, data)

/-- The scanner without any events. -/
def forget (s : Scanner) : Scanner := { s with events := [] }

/-- The scanner with events behind those that it has. -/
def hear (s : Scanner) (events : List Engine.Event) : Scanner :=
  { s with events := s.events ++ events }

/-- What a scan comes to, and the scanner after it. What a scan before has
left behind is forgotten first. -/
def scanStep (E : Engine σ) (s : Scanner) (d : Database) (text : String) :
    Step σ (Except Error (List Match) × Scanner) :=
  match s.toAsk d text with
  | .error e => return (.error e, s)
  | .ok (scratch, database, data) => do
    let reply ← World.ask E (.scan database scratch data)
    let s := s.forget.hear reply.events
    if reply.code ≠ Code.success then
      return (.error ((Error.ofCode reply.code).within "failed to scan"), s)
    World.note (.scanned data.size database s.events.length)
    return (translateAll d text.toList s.events, s)

/-- The matches of a database in a text, in the order in which the engine
reports them. -/
def scan (E : Engine σ) (s : Scanner) (d : Database) (text : String) : Act σ (List Match) :=
  ExceptT.mk do return (← s.scanStep E d text).1

/-- The printed form of a scanner that belongs to an engine; the handle
itself is not shown. -/
def printed (E : Engine σ) (s : Scanner) : String :=
  "Scanner \x7b engine: " ++ E.label ++ ", state: " ++
    (match s.stage with
      | .unallocated => "Unallocated"
      | .allocated _ => "Allocated(PTR)"
      | .released => "Released") ++ " \x7d"

end Scanner

end Multiscan
