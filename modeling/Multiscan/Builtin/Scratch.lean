import Multiscan.Builtin.Builder
import Multiscan.Builtin.Heap
/-!
# Built-in engine — databases and scratch space

Scratch space has room for so many patterns and grows when it is asked to
serve a larger database. It is refused while a scan uses it. Whatever is no
handle of the right kind is an invalid parameter, except that giving back
nothing is no error.
-/

namespace Multiscan.Builtin

open Engine

/-- The base variant's share of scratch space for so many patterns. -/
def baseShare (capacity : Nat) : Nat := 48 + 24 * capacity

/-- The size of scratch space for so many patterns: the base share and a
pair of offsets for each. -/
def wholeShare (capacity : Nat) : Nat := baseShare capacity + 16 * capacity

/-- The size of a database: its head and the share of each pattern. -/
def databaseShare (builder : Builder) (patterns : List Compiled) : Nat :=
  patterns.foldl (fun size p => size + builder.share p.whole p.regex) 32

/-- The size of a database in bytes. -/
def databaseSize (builder : Builder) (database : Option Handle) : Call SizeReply := do
  match (← get).database? database with
  | some patterns => return ⟨Code.success, databaseShare builder patterns⟩
  | none => return ⟨Code.invalid, 0⟩

/-- Take a database back. -/
def freeDatabase (database : Option Handle) : Call Code := do
  match database with
  | none => return Code.success
  | some h =>
    match (← get).database? (some h) with
    | none => return Code.invalid
    | some _ =>
      modify (·.take h)
      return Code.success

/-- Scratch space for a database: new, or what there is with more room. -/
def allocScratch (database scratch : Option Handle) : Call ScratchReply := do
  match (← get).database? database with
  | none => return ⟨Code.invalid, scratch⟩
  | some patterns =>
    let needed := patterns.length
    match scratch with
    | none =>
      let h ← give (.scratch needed false [])
      return ⟨Code.success, some h⟩
    | some h =>
      match (← get).scratch? (some h) with
      | none => return ⟨Code.invalid, scratch⟩
      | some (_, true) => return ⟨Code.scratchInUse, scratch⟩
      | some (_, false) =>
        modify (·.grow h needed)
        return ⟨Code.success, scratch⟩

/-- A size that the capacity of scratch space determines. -/
def measure (size : Nat → Nat) (scratch : Option Handle) : Call SizeReply := do
  match (← get).scratch? scratch with
  | some (capacity, _) => return ⟨Code.success, size capacity⟩
  | none => return ⟨Code.invalid, 0⟩

/-- The size of scratch space in bytes. -/
def scratchSize (scratch : Option Handle) : Call SizeReply := measure wholeShare scratch

/-- The size of the base variant's share of scratch space. -/
def baseScratchSize (scratch : Option Handle) : Call SizeReply := measure baseShare scratch

/-- Take scratch space back. -/
def freeScratch (scratch : Option Handle) : Call Code := do
  match scratch with
  | none => return Code.success
  | some h =>
    match (← get).scratch? (some h) with
    | none => return Code.invalid
    | some (_, true) => return Code.scratchInUse
    | some (_, false) =>
      modify (·.take h)
      return Code.success

/-- Take an error record back. -/
def freeRecord (record : Option Handle) : Call Code := do
  match record with
  | none => return Code.success
  | some h =>
    modify (·.take h)
    return Code.success

/-- Take the facts about an expression back. -/
def freeInfo (info : Option Handle) : Call Unit := do
  match info with
  | none => return ()
  | some h => modify (·.take h)

end Multiscan.Builtin
