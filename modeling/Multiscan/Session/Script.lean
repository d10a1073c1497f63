import Multiscan.Engine.Basic
/-!
# Session — scripted answers

A script takes the place of an engine's own answers, request by request.
What it does not mention is left to the engine.
-/

namespace Multiscan.Session

open Engine

/-- A scripted refusal: its code and, if a record is to be given out, the
message and the index in it. -/
structure Refusal where
  code : Code
  record : Option (Option String × Int)

/-- A scripted answer to a question about an expression. -/
inductive InfoAnswer
  | refuse (r : Refusal)
  | tell (raw : RawInfo)

/-- The scripted answers. -/
structure Script where
  compile : Option Refusal
  info : Option InfoAnswer
  alloc : Option Code
  databaseSize : Option Code
  scratchSize : Option Code
  baseScratchSize : Option Code
  events : Option (List Event)
  scan : Option Code
  freeDatabase : Option Code
  freeScratch : Option Code
  freeError : Option Code

/-- One entry of a script: what to answer, or that nothing is scripted. -/
inductive Entry
  | compile (a : Option Refusal)
  | info (a : Option InfoAnswer)
  | alloc (a : Option Code)
  | databaseSize (a : Option Code)
  | scratchSize (a : Option Code)
  | baseScratchSize (a : Option Code)
  | events (a : Option (List Event))
  | scan (a : Option Code)
  | freeDatabase (a : Option Code)
  | freeScratch (a : Option Code)
  | freeError (a : Option Code)

namespace Script

/-- The script that leaves everything to the engine. -/
def empty : Script :=
  ⟨none, none, none, none, none, none, none, none, none, none, none⟩

/-- The script with one entry changed. -/
def set (s : Script) : Entry → Script
  | .compile a => { s with compile := a }
  | .info a => { s with info := a }
  | .alloc a => { s with alloc := a }
  | .databaseSize a => { s with databaseSize := a }
  | .scratchSize a => { s with scratchSize := a }
  | .baseScratchSize a => { s with baseScratchSize := a }
  | .events a => { s with events := a }
  | .scan a => { s with scan := a }
  | .freeDatabase a => { s with freeDatabase := a }
  | .freeScratch a => { s with freeScratch := a }
  | .freeError a => { s with freeError := a }

end Script

end Multiscan.Session
