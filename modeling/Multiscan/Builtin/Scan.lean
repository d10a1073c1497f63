import Multiscan.Builtin.Heap
import Multiscan.Error
import Multiscan.Regex.Search
/-!
# Built-in engine — scanning

A scan runs every pattern over the whole of the data, collects the matches
of all of them in the buffer of the scratch space and puts them in order:
by where they end, then by where they start, then by the id of the pattern.
They are handed one by one to the caller, who can stop the scan after each
and can call the engine again meanwhile. The scratch space is in use from
before the first match is collected until the scan ends.
-/

namespace Multiscan.Builtin

open Engine

/-- The order of matches: by end, by start, by id. -/
def Event.before (a b : Event) : Bool :=
  decide (a.stop < b.stop) ||
    (a.stop == b.stop && (decide (a.start < b.start) || (a.start == b.start && a.id ≤ b.id)))

/-- The match of a pattern between two offsets, as it is reported. -/
def Compiled.event (p : Compiled) (m : Nat × Nat) : Event :=
  ⟨p.id, UInt64.ofNat m.1, UInt64.ofNat m.2⟩

/-- The matches of one pattern, from left to right. -/
def Compiled.events (p : Compiled) (data : Text.Bytes) : List Event :=
  let found := if p.single then (Regex.findFirst data p.whole p.regex).toList
    else Regex.findAll data p.whole p.regex
  found.map p.event

/-- A buffer with the matches of all patterns behind what is in it. -/
def gather (patterns : List Compiled) (data : Text.Bytes) (buffer : List Event) : List Event :=
  patterns.foldl (fun events p => events ++ p.events data) buffer

/-- The heap with the matches of all patterns in the buffer of scratch
space, in order, and nothing else. -/
def Heap.fill (heap : Heap) (h : Handle) (patterns : List Compiled) (data : Text.Bytes) : Heap :=
  let heap := heap.setBuffer h []
  let heap := heap.setBuffer h (gather patterns data (heap.buffer h))
  heap.setBuffer h ((heap.buffer h).mergeSort Event.before)

/-- A caller's answer to a match: zero to go on. It may look at and change
a state of its own, and call the engine. -/
abbrev Callback (τ : Type) := Event → StateT τ Call Int

/-- Matches handed over one by one until the caller wants no more. -/
def deliver {τ : Type} (onEvent : Callback τ) : List Event → StateT τ Call Code
  | [] => return Code.success
  | e :: rest => do
    if (← onEvent e) = 0 then deliver onEvent rest else return Code.scanTerminated

/-- A scan of data. Without data there must be nothing of it: `data` is
nothing only if the caller has given no address. -/
def scan {τ : Type} (database scratch : Option Handle) (data : Option Text.Bytes) (length : Nat)
    (onEvent : Callback τ) : StateT τ Call Code := do
  let heap ← StateT.lift get
  match heap.database? database, scratch, heap.scratch? scratch with
  | some patterns, some h, some (capacity, busy) =>
    if data.isNone && length != 0 then return Code.invalid
    -- Scratch space that is too small is refused before it is looked whether
    -- it is in use.
    else if capacity < patterns.length then return Code.invalid
    else if busy then return Code.scratchInUse
    else
      StateT.lift (modify (·.mark h true))
      StateT.lift (modify (·.fill h patterns ((data.getD #[]).extract 0 length)))
      let code ← deliver onEvent ((← StateT.lift get).buffer h)
      StateT.lift (modify (·.mark h false))
      return code
  | _, _, _ => return Code.invalid

end Multiscan.Builtin
