import Multiscan.Error
import Multiscan.Text.Utf8
/-!
# Engine — the contract

An engine compiles expressions into databases, gives out scratch space to
scan with, scans, and tells what is known about single expressions. What it
gives out it is asked to take back: databases, scratch space, and the
records that hold an error or the facts about an expression. Callers know
all of these by handles only. Every request is answered with a result code;
zero is success.

An engine is a state and a function from requests to replies. Nothing here
says that an engine behaves: whoever uses one has to cope with every reply.
-/

namespace Multiscan

/-- The name of something that an engine gave out. -/
abbrev Handle := Nat

namespace Engine

/-- One expression of a batch as an engine sees it. -/
structure Job where
  pattern : Text.Bytes
  flags : UInt32
  id : UInt32
  deriving DecidableEq

/-- What an engine says about an expression that it refuses. -/
structure ErrorRecord where
  handle : Handle
  message : Option String
  index : Int
  deriving DecidableEq, Repr

/-- The facts about an expression. The greatest length stands for no bound
if it is the greatest number there is. -/
structure RawInfo where
  least : UInt32
  greatest : UInt32
  unordered : Bool
  atEnd : Bool
  onlyAtEnd : Bool
  deriving DecidableEq, Repr

/-- One match as an engine reports it: the id of the pattern and the bytes
from `start` to `stop`. -/
structure Event where
  id : UInt32
  start : UInt64
  stop : UInt64
  deriving DecidableEq, Repr

/-- What an engine can be asked. -/
inductive Request
  /-- Compile a batch into one database. -/
  | compile (jobs : List Job) (mode : UInt32)
  /-- Take a database back. -/
  | freeDatabase (database : Handle)
  /-- Tell the size of a database in bytes. -/
  | databaseSize (database : Handle)
  /-- Give out scratch space for a database, or grow what there is. -/
  | allocScratch (database : Handle) (scratch : Option Handle)
  /-- Take scratch space back. -/
  | freeScratch (scratch : Handle)
  /-- Tell the size of scratch space in bytes. -/
  | scratchSize (scratch : Handle)
  /-- Tell the size of the base variant's share of scratch space. -/
  | baseScratchSize (scratch : Handle)
  /-- Scan bytes and report every match. -/
  | scan (database scratch : Handle) (data : Text.Bytes)
  /-- Tell what is known about one expression. -/
  | info (pattern : Text.Bytes) (flags : UInt32)
  /-- Take the facts about an expression back. -/
  | freeInfo (info : Handle)
  /-- Take an error record of a variant back. -/
  | freeError (variant : Variant) (record : Handle)
  deriving DecidableEq

/-- The answer to a batch: a database, or a record of what is wrong. -/
structure CompileReply where
  code : Code
  database : Option Handle
  error : Option ErrorRecord
  deriving DecidableEq

/-- The answer to a request for scratch space: what the caller holds now. -/
structure ScratchReply where
  code : Code
  scratch : Option Handle
  deriving DecidableEq

/-- The answer to a question for a size. -/
structure SizeReply where
  code : Code
  size : Nat
  deriving DecidableEq

/-- The answer to a scan: the matches reported and how it ended. -/
structure ScanReply where
  code : Code
  events : List Event
  deriving DecidableEq

/-- The answer to a question about an expression. -/
structure InfoReply where
  code : Code
  info : Option (Handle × RawInfo)
  error : Option ErrorRecord
  deriving DecidableEq

/-- The answer that a request has. -/
abbrev Reply : Request → Type
  | .compile _ _ => CompileReply
  | .allocScratch _ _ => ScratchReply
  | .databaseSize _ | .scratchSize _ | .baseScratchSize _ => SizeReply
  | .scan _ _ _ => ScanReply
  | .info _ _ => InfoReply
  | .freeInfo _ => Unit
  | .freeDatabase _ | .freeScratch _ | .freeError _ _ => Code

/-- The mode that tracks groups in expressions. -/
def groupsMode : UInt32 := 0x100000

/-- The mode without groups. -/
def plainMode : UInt32 := 0

/-- The mode of a batch. -/
def modeOf (groups : Bool) : UInt32 := if groups then groupsMode else plainMode

end Engine

/-- An engine with states of type `σ`. -/
structure Engine (σ : Type) where
  /-- Name and version for people to read. -/
  version : String
  /-- The printed form of the engine. -/
  label : String
  /-- Whether the engine can run on this processor. -/
  runsHere : Bool
  /-- The answer to a request. -/
  answer : (r : Engine.Request) → StateM σ (Engine.Reply r)

end Multiscan
