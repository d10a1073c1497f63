import Multiscan.Builtin.Compile
import Multiscan.Builtin.Scan
import Multiscan.Builtin.Scratch
import Multiscan.Engine.World
/-!
# Built-in engine

The engine reads a regular dialect, matches leftmost first and keeps what it
gives out in a heap. It is set up with a builder of automata and a limit on the
room for each pattern.
-/

namespace Multiscan.Builtin

open Engine

/-- The printed form of an engine, which tells the limit. -/
def label (setup : Setup) : String :=
  "Portable \x7b size_limit: " ++ printedLimit setup.limit ++ " \x7d"
where
  /-- The printed form of a limit. -/
  printedLimit : Option Nat → String
    | none => "None"
    | some n => "Some(" ++ Nat.repr n ++ ")"

/-- The patterns of a batch as they come from a database of expressions. -/
def sourceOf (j : Job) : Source := ⟨some j.pattern, j.flags, j.id⟩

/-- A callback that keeps every match, the last one first, and never asks
to stop. -/
def collect : Callback (List Event) := fun e => do
  modify (e :: ·)
  return 0

/-- A scan that keeps all matches. -/
def collectScan (database scratch : Handle) (data : Text.Bytes) : Call ScanReply := do
  let (code, events) ← (scan (some database) (some scratch) (some data) data.size collect).run []
  return ⟨code, events.reverse⟩

/-- The answer to a request. -/
def answer (setup : Setup) : (r : Request) → Call (Reply r)
  | .compile jobs mode => compileBatch setup (jobs.map sourceOf) mode
  | .freeDatabase database => Builtin.freeDatabase (some database)
  | .databaseSize database => Builtin.databaseSize setup.builder (some database)
  | .allocScratch database scratch => Builtin.allocScratch (some database) scratch
  | .freeScratch scratch => Builtin.freeScratch (some scratch)
  | .scratchSize scratch => Builtin.scratchSize (some scratch)
  | .baseScratchSize scratch => Builtin.baseScratchSize (some scratch)
  | .scan database scratch data => collectScan database scratch data
  | .info pattern flags => answerInfo (some pattern) flags
  | .freeInfo info => Builtin.freeInfo (some info)
  | .freeError _ record => freeRecord (some record)

/-- The built-in engine as it is set up. -/
def engine (setup : Setup) : Engine Heap where
  version := "0.1.0 portable"
  label := label setup
  runsHere := true
  answer := answer setup

/-- The world in which the built-in engine has given out nothing yet. -/
def world : World Heap := .start .empty

end Multiscan.Builtin
