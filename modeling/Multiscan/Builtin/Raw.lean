import Multiscan.Builtin.Engine
/-!
# Built-in engine — calls without promises

Callers of an engine pass addresses, and any of them may be missing: that
of a pattern or of a whole array, and those of the places where results are
to be put. A call that has no place for its results is invalid and does
nothing.
-/

namespace Multiscan.Builtin

open Engine

/-- The arguments of a call that compiles a batch. An array that is missing
stands for zero at every position. -/
structure BatchCall where
  patterns : Option (List (Option Text.Bytes))
  flags : Option (List UInt32)
  ids : Option (List UInt32)
  mode : UInt32
  /-- Whether there is a place for the database. -/
  databasePlace : Bool
  /-- Whether there is a place for the error record. -/
  errorPlace : Bool

/-- The word at a position of an array. -/
def wordAt (words : Option (List UInt32)) (i : Nat) : UInt32 := (words.getD [])[i]?.getD 0

/-- The batch of a call. -/
def BatchCall.batch (c : BatchCall) : List Source :=
  ((c.patterns.getD []).zipIdx).map fun (p, i) => ⟨p, wordAt c.flags i, wordAt c.ids i⟩

/-- A call that compiles a batch. -/
def callCompile (setup : Setup) (c : BatchCall) : Call CompileReply :=
  if c.databasePlace && c.errorPlace then compileBatch setup c.batch c.mode
  else return ⟨Code.invalid, none, none⟩

/-- A call for facts about an expression. -/
def callInfo (pattern : Option Text.Bytes) (flags : UInt32) (infoPlace errorPlace : Bool) :
    Call InfoReply :=
  if infoPlace && errorPlace then answerInfo pattern flags
  else return ⟨Code.invalid, none, none⟩

/-- A call for scratch space. The place holds what the caller has so far. -/
def callAlloc (database : Option Handle) (place : Option (Option Handle)) :
    Call ScratchReply :=
  match place with
  | some scratch => allocScratch database scratch
  | none => return ⟨Code.invalid, none⟩

/-- A call for a size. -/
def callSize (size : Call SizeReply) (place : Bool) : Call SizeReply :=
  if place then size else return ⟨Code.invalid, 0⟩

end Multiscan.Builtin
