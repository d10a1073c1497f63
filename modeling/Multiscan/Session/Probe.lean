import Multiscan.Builtin.Engine
import Multiscan.Builtin.Estimate
import Multiscan.Session.Script
/-!
# Session — the probe engine

The probe passes requests on to the built-in engine, counts what is given
out and taken back, and answers from a script where there is one. A request
to take something back reaches the built-in engine in any case; the script
only changes the code that is returned.
-/

namespace Multiscan.Session

open Engine

/-- How many things of one kind were given out and taken back. -/
structure Tally where
  given : Nat
  taken : Nat
  deriving DecidableEq, Repr

namespace Tally

/-- One more was given out. -/
def give (t : Tally) : Tally := { t with given := t.given + 1 }

/-- One more was taken back. -/
def take (t : Tally) : Tally := { t with taken := t.taken + 1 }

end Tally

/-- The tallies of all kinds. -/
structure Tallies where
  databases : Tally
  scratches : Tally
  records : Tally
  infos : Tally
  deriving DecidableEq, Repr

/-- The tallies before anything was given out. -/
def Tallies.zero : Tallies := ⟨⟨0, 0⟩, ⟨0, 0⟩, ⟨0, 0⟩, ⟨0, 0⟩⟩

/-- The state of the probe. -/
structure Probe where
  heap : Builtin.Heap
  script : Script
  tallies : Tallies

namespace Probe

/-- The probe before any request. -/
def start : Probe := ⟨.empty, .empty, .zero⟩

/-- A call of the probe. -/
abbrev Call (α : Type) := StateM Probe α

/-- Pass a call on to the built-in engine. -/
def forward {α : Type} (call : Builtin.Call α) : Call α := fun p =>
  let (a, heap) := call p.heap
  (a, { p with heap := heap })

/-- Change the tallies. -/
def count (f : Tallies → Tallies) : Call Unit := modify fun p => { p with tallies := f p.tallies }

/-- Count a database that was given out. -/
def countDatabase : Call Unit := count fun t => { t with databases := t.databases.give }

/-- Count scratch space that was given out. -/
def countScratch : Call Unit := count fun t => { t with scratches := t.scratches.give }

/-- Count an error record that was given out. -/
def countRecord : Call Unit := count fun t => { t with records := t.records.give }

/-- Count facts about an expression that were given out. -/
def countInfo : Call Unit := count fun t => { t with infos := t.infos.give }

/-- A scripted refusal, as a code and the record given out with it. -/
def refuse (r : Refusal) : Call (Code × Option ErrorRecord) := do
  match r.record with
  | none => return (r.code, none)
  | some (message, index) =>
    let h ← forward (Builtin.give (.record message index))
    countRecord
    return (r.code, some ⟨h, message, index⟩)

/-- Compile a batch. -/
def compile (setup : Builtin.Setup) (jobs : List Job) (mode : UInt32) : Call CompileReply := do
  match (← get).script.compile with
  | some r =>
    let (code, record) ← refuse r
    return ⟨code, none, record⟩
  | none =>
    let reply ← forward (Builtin.answer setup (.compile jobs mode))
    if reply.database.isSome then countDatabase
    if reply.error.isSome then countRecord
    return reply

/-- Tell what is known about an expression. -/
def info (setup : Builtin.Setup) (pattern : Text.Bytes) (flags : UInt32) : Call InfoReply := do
  match (← get).script.info with
  | some (.refuse r) =>
    let (code, record) ← refuse r
    return ⟨code, none, record⟩
  | some (.tell raw) =>
    let h ← forward (Builtin.give (.info raw))
    countInfo
    return ⟨Code.success, some (h, raw), none⟩
  | none =>
    let reply ← forward (Builtin.answer setup (.info pattern flags))
    if reply.info.isSome then countInfo
    if reply.error.isSome then countRecord
    return reply

/-- Give out scratch space, or grow what there is. -/
def allocScratch (setup : Builtin.Setup) (database : Handle) (scratch : Option Handle) :
    Call ScratchReply := do
  match (← get).script.alloc with
  | some code => return ⟨code, scratch⟩
  | none =>
    let reply ← forward (Builtin.answer setup (.allocScratch database scratch))
    if scratch.isNone && reply.scratch.isSome then countScratch
    return reply

/-- Scan, or report what the script says. -/
def scan (setup : Builtin.Setup) (database scratch : Handle) (data : Text.Bytes) :
    Call ScanReply := do
  let script := (← get).script
  match script.events, script.scan with
  | none, none => forward (Builtin.answer setup (.scan database scratch data))
  | events, code => return ⟨code.getD Code.success, events.getD []⟩

/-- A size, unless the script has a code instead. -/
def measure (scripted : Option Code) (call : Builtin.Call SizeReply) : Call SizeReply :=
  match scripted with
  | some code => return ⟨code, 0⟩
  | none => forward call

/-- Take something back, count it, and return the code of the script if it
has one. -/
def takeBack (scripted : Option Code) (counted : Tallies → Tallies) (call : Builtin.Call Code) :
    Call Code := do
  let code ← forward call
  count counted
  return scripted.getD code

/-- The answer to a request. -/
def answer (setup : Builtin.Setup) : (r : Request) → Call (Reply r)
  | .compile jobs mode => compile setup jobs mode
  | .info pattern flags => info setup pattern flags
  | .allocScratch database scratch => allocScratch setup database scratch
  | .scan database scratch data => scan setup database scratch data
  | .databaseSize d => do
    measure (← get).script.databaseSize (Builtin.answer setup (.databaseSize d))
  | .scratchSize s => do
    measure (← get).script.scratchSize (Builtin.answer setup (.scratchSize s))
  | .baseScratchSize s => do
    measure (← get).script.baseScratchSize (Builtin.answer setup (.baseScratchSize s))
  | .freeDatabase d => do
    takeBack (← get).script.freeDatabase (fun t => { t with databases := t.databases.take })
      (Builtin.answer setup (.freeDatabase d))
  | .freeScratch s => do
    takeBack (← get).script.freeScratch (fun t => { t with scratches := t.scratches.take })
      (Builtin.answer setup (.freeScratch s))
  | .freeError v r => do
    takeBack (← get).script.freeError (fun t => { t with records := t.records.take })
      (Builtin.answer setup (.freeError v r))
  | .freeInfo i => do
    forward (Builtin.answer setup (.freeInfo i))
    count fun t => { t with infos := t.infos.take }

end Probe

/-- The probe engine, with the built-in engine as it is set up behind it. -/
def probe (setup : Builtin.Setup := .standard) : Engine Probe where
  version := (Builtin.engine setup).version ++ " probe"
  label := "Probe"
  runsHere := true
  answer := Probe.answer setup

end Multiscan.Session
