import Mathlib.Data.List.Basic
import Multiscan.Engine.Basic
/-!
# Ledger — what is handed out and what is given back

The requests to an engine and its replies make up a transcript. Every
exchange hands things out and takes things back, and a request names the
things that it makes use of. The contract is what an engine promises about
its replies, as long as requests make use only of what is out; it says
nothing of result codes otherwise, so any call may fail.
-/

namespace Multiscan

namespace Engine

/-- The kinds of things that an engine hands out. A record belongs to the
variant that has to take it back. -/
inductive Kind
  | database
  | scratch
  | record (variant : Variant)
  | info
  deriving DecidableEq

/-- Something that was handed out. -/
structure Item where
  kind : Kind
  handle : Handle
  deriving DecidableEq

/-- A request and the reply to it. -/
structure Exchange where
  request : Request
  reply : Reply request

/-- The exchanges with an engine, the first one first. -/
abbrev Transcript := List Exchange

/-- The items that a request names, be it to use them or to give them
back. -/
def Request.names : Request → List Item
  | .compile _ _ | .info _ _ => []
  | .freeDatabase d | .databaseSize d => [⟨.database, d⟩]
  | .allocScratch d s => ⟨.database, d⟩ :: s.toList.map (Item.mk .scratch)
  | .freeScratch s | .scratchSize s | .baseScratchSize s => [⟨.scratch, s⟩]
  | .scan d s _ => [⟨.database, d⟩, ⟨.scratch, s⟩]
  | .freeInfo i => [⟨.info, i⟩]
  | .freeError v r => [⟨.record v, r⟩]

namespace Exchange

/-- The items that an exchange hands out. Scratch space that has grown is new
if its handle is. -/
def handsOut : Exchange → List Item
  | ⟨.compile _ _, reply⟩ => reply.database.toList.map (Item.mk .database) ++
      reply.error.toList.map (⟨.record .extended, ·.handle⟩)
  | ⟨.info _ _, reply⟩ => reply.info.toList.map (⟨.info, ·.1⟩) ++
      reply.error.toList.map (⟨.record .base, ·.handle⟩)
  | ⟨.allocScratch _ s, reply⟩ =>
      if reply.scratch = s then [] else reply.scratch.toList.map (Item.mk .scratch)
  | _ => []

/-- The items that an exchange gives back. A request to take something back
counts whatever its code is. Scratch space that has grown and has a new
handle is no longer there under the old one. -/
def givesBack : Exchange → List Item
  | ⟨.freeDatabase d, _⟩ => [⟨.database, d⟩]
  | ⟨.freeScratch s, _⟩ => [⟨.scratch, s⟩]
  | ⟨.freeInfo i, _⟩ => [⟨.info, i⟩]
  | ⟨.freeError v r, _⟩ => [⟨.record v, r⟩]
  | ⟨.allocScratch _ s, reply⟩ =>
      if reply.scratch = s ∨ reply.scratch = none then [] else s.toList.map (Item.mk .scratch)
  | _ => []

/-- What the contract says about a reply: a batch that compiles leaves no
record, one that does not leaves no database, the same for the facts about
an expression, and scratch space that could not be grown stays as it was. -/
def Lawful : Exchange → Prop
  | ⟨.compile _ _, reply⟩ => if reply.code = Code.success then reply.error = none
      else reply.database = none
  | ⟨.info _ _, reply⟩ => if reply.code = Code.success then reply.error = none
      else reply.info = none
  | ⟨.allocScratch _ s, reply⟩ => reply.code ≠ Code.success → reply.scratch = s
  | _ => True

/-- Only what a request names can be given back in answer to it. -/
theorem givesBack_subset (x : Exchange) : x.givesBack ⊆ x.request.names := by
  rcases x with ⟨_ | _ | _ | ⟨d, s⟩ | _ | _ | _ | _ | _ | _ | _, reply⟩ <;>
    try exact fun _ h => h
  all_goals try exact List.nil_subset _
  simp only [givesBack, Request.names]
  split
  · exact List.nil_subset _
  · exact List.subset_cons_self _ _

end Exchange

namespace Transcript

/-- How often an item was handed out. -/
def handedOut (t : Transcript) (i : Item) : Nat := (t.flatMap Exchange.handsOut).count i

/-- How often an item was given back. -/
def givenBack (t : Transcript) (i : Item) : Nat := (t.flatMap Exchange.givesBack).count i

/-- An item is out: it was handed out and not given back since. -/
def Out (t : Transcript) (i : Item) : Prop := t.givenBack i < t.handedOut i

@[simp] theorem handedOut_nil (i : Item) : handedOut [] i = 0 := rfl

@[simp] theorem givenBack_nil (i : Item) : givenBack [] i = 0 := rfl

@[simp] theorem handedOut_concat (t : Transcript) (x : Exchange) (i : Item) :
    handedOut (t ++ [x]) i = t.handedOut i + x.handsOut.count i := by
  simp [handedOut]

@[simp] theorem givenBack_concat (t : Transcript) (x : Exchange) (i : Item) :
    givenBack (t ++ [x]) i = t.givenBack i + x.givesBack.count i := by
  simp [givenBack]

/-- A request may be made: everything that it names is out. -/
def Permits (t : Transcript) (r : Request) : Prop := ∀ i ∈ r.names, t.Out i

/-- A reply that an engine may give: it is lawful, and it hands out nothing
that is out already. -/
def Expects (t : Transcript) (x : Exchange) : Prop :=
  x.Lawful ∧ ∀ i ∈ x.handsOut, ¬ t.Out i

end Transcript

end Engine

end Multiscan
