import Multiscan.Builtin.Raw
import Multiscan.Session.Named
/-!
# Session — single calls of the built-in engine

A run of calls of the built-in engine in which handles go by names. A name
that stands for nothing is a missing handle; a handle may be used where one
of the other kind is needed. Error records and facts about expressions are
given back as soon as they were read.
-/

namespace Multiscan.Session

open Engine

/-- A call, its handles by name. -/
inductive NamedCall
  | compile (db : String) (call : Builtin.BatchCall)
  | alloc (db scratch : String) (place : Bool)
  /-- A scan that stops after so many matches, if a number is given. A
  `nested` one scans, allocates and frees with the same handles at its
  first match. -/
  | scan (db scratch : String) (data : Option Text.Bytes) (length : Nat)
      (stopAfter : Option Nat) (nested : Bool)
  | databaseSize (db : String) (place : Bool)
  | scratchSize (scratch : String) (place : Bool)
  | baseScratchSize (scratch : String) (place : Bool)
  | freeDatabase (db : String)
  | freeScratch (scratch : String)
  | info (pattern : Option Text.Bytes) (flags : UInt32) (infoPlace errorPlace : Bool)
  /-- Give back an error record that there is not. -/
  | freeError

/-- An error record that was read, and the code of giving it back. -/
structure ReadRecord where
  message : String
  index : Int
  freed : Code

/-- What a call did. -/
inductive CallReport
  | compile (code : Code) (made : Bool) (error : Option ReadRecord)
  | alloc (code : Code) (fresh : Bool)
  | scan (code : Code) (events : List Event) (nested : Option (List Code))
  | databaseSize (code : Code) (size : Nat)
  | scratchSize (code : Code) (size : Nat)
  | freed (code : Code)
  | info (code : Code) (raw : Option RawInfo) (error : Option ReadRecord)

/-- The heap of the built-in engine and the handles that have names. -/
structure Bench where
  heap : Builtin.Heap
  names : Named Handle

namespace Bench

/-- Nothing given out, no names. -/
def empty : Bench := ⟨.empty, []⟩

/-- A call of the built-in engine on a bench. -/
abbrev Do (α : Type) := StateM Bench α

/-- Carry out a call. -/
def call {α : Type} (c : Builtin.Call α) : Do α := fun b =>
  let (a, heap) := c b.heap
  (a, { b with heap := heap })

/-- The handle of a name. -/
def handle (name : String) : Do (Option Handle) := return (← get).names.find? name

/-- Give a name to a handle. -/
def setName (name : String) (h : Handle) : Do Unit :=
  modify fun b => { b with names := b.names.put name h }

/-- Forget a name. -/
def dropName (name : String) : Do Unit :=
  modify fun b => { b with names := b.names.remove name }

/-- Read an error record and give it back. -/
def readRecord : Option ErrorRecord → Do (Option ReadRecord)
  | none => return none
  | some r => do
    let freed ← call (Builtin.freeRecord (some r.handle))
    return some ⟨r.message.getD "", r.index, freed⟩

/-- The handle of a name freed; the name is forgotten if that succeeds. -/
def freeNamed (name : String) (free : Option Handle → Builtin.Call Code) : Do Code := do
  let code ← call (free (← handle name))
  if code = Code.success then dropName name
  return code

/-- What a scan's caller has seen: the matches, the last one first, and the
codes of the calls made meanwhile. -/
abbrev Seen := List Event × List Code

/-- A scan with the given handles in which no match is looked at. -/
def innerScan (db scratch : Option Handle) (data : Option Text.Bytes) (length : Nat) :
    Builtin.Call Code := do
  let (code, _) ← (Builtin.scan db scratch data length Builtin.collect).run []
  return code

/-- The calls made at the first match of a nested scan. -/
def innerCalls (db scratch : Option Handle) (data : Option Text.Bytes) (length : Nat) :
    Builtin.Call (List Code) := do
  let scanned ← innerScan db scratch data length
  let allocated ← Builtin.allocScratch db scratch
  let freed ← Builtin.freeScratch scratch
  return [scanned, allocated.code, freed]

/-- The caller of a scan: it keeps every match, asks to stop once it has
seen enough, and may make calls of its own at the first. -/
def onEvent (inner : Option (Builtin.Call (List Code))) (stopAfter : Option Nat) :
    Builtin.Callback Seen := fun e => do
  let (seen, codes) ← get
  let codes ← match inner, seen with
    | some inner, [] => StateT.lift inner
    | _, _ => pure codes
  let seen := e :: seen
  set (seen, codes)
  return if stopAfter.any (· ≤ seen.length) then 1 else 0

/-- A call carried out. -/
def perform (setup : Builtin.Setup) : NamedCall → Do CallReport
  | .compile db c => do
    let reply ← call (Builtin.callCompile setup c)
    match reply.database with
    | some h =>
      let _ ← freeNamed db Builtin.freeDatabase
      setName db h
    | none => pure ()
    return .compile reply.code reply.database.isSome (← readRecord reply.error)
  | .alloc db scratch place => do
    let before ← handle scratch
    let reply ← call (Builtin.callAlloc (← handle db) (if place then some before else none))
    match reply.scratch with
    | some h => setName scratch h
    | none => pure ()
    return .alloc reply.code (before.isNone && reply.scratch.isSome)
  | .scan db scratch data length stopAfter nested => do
    let d ← handle db
    let s ← handle scratch
    let inner := if nested then some (innerCalls d s data length) else none
    let (code, seen, codes) ←
      call ((Builtin.scan d s data length (onEvent inner stopAfter)).run ([], []))
    return .scan code seen.reverse (if nested then some codes else none)
  | .databaseSize db place => do
    let reply ← call (Builtin.callSize (Builtin.databaseSize setup.builder (← handle db)) place)
    return .databaseSize reply.code reply.size
  | .scratchSize scratch place => do
    let reply ← call (Builtin.callSize (Builtin.scratchSize (← handle scratch)) place)
    return .scratchSize reply.code reply.size
  | .baseScratchSize scratch place => do
    let reply ← call (Builtin.callSize (Builtin.baseScratchSize (← handle scratch)) place)
    return .scratchSize reply.code reply.size
  | .freeDatabase db => return .freed (← freeNamed db Builtin.freeDatabase)
  | .freeScratch scratch => return .freed (← freeNamed scratch Builtin.freeScratch)
  | .info pattern flags infoPlace errorPlace => do
    let reply ← call (Builtin.callInfo pattern flags infoPlace errorPlace)
    match reply.info with
    | some (h, _) => call (Builtin.freeInfo (some h))
    | none => pure ()
    return .info reply.code (reply.info.map (·.2)) (← readRecord reply.error)
  | .freeError => return .freed (← call (Builtin.freeRecord none))

/-- Calls carried out one after the other. -/
def performAll (setup : Builtin.Setup) : List NamedCall → Do (List CallReport)
  | [] => return []
  | c :: rest => do
    let r ← perform setup c
    return r :: (← performAll setup rest)

/-- The reports of a run of calls. -/
def run (setup : Builtin.Setup) (calls : List NamedCall) : List CallReport :=
  (performAll setup calls empty).1

end Bench

end Multiscan.Session
