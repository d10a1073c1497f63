import Multiscan.Expression
/-!
# Errors

What can go wrong in this library, by cause, and the words for it. Causes
that an engine reports as a result code are told apart from those found
here: only the former have a code. An error can carry context, which is put
before the words for its cause.
-/

namespace Multiscan

/-- The result code of an engine call; zero is success. -/
abbrev Code := Int

/-! ## Result codes -/

namespace Code

/-- The call did what it was asked for. -/
abbrev success : Code := 0

/-- A parameter was invalid. -/
abbrev invalid : Code := -1

/-- Memory ran out. -/
abbrev noMemory : Code := -2

/-- The callback asked for the scan to stop. -/
abbrev scanTerminated : Code := -3

/-- The pattern compiler failed. -/
abbrev compilerError : Code := -4

/-- The database was built by another version. -/
abbrev versionMismatch : Code := -5

/-- The database was built for another platform. -/
abbrev platformMismatch : Code := -6

/-- The database was built for another mode. -/
abbrev modeMismatch : Code := -7

/-- A parameter was not aligned. -/
abbrev badAlignment : Code := -8

/-- The allocator returned memory that was not aligned. -/
abbrev badAllocation : Code := -9

/-- The scratch space was in use. -/
abbrev scratchInUse : Code := -10

/-- The processor is not supported. -/
abbrev unsupportedProcessor : Code := -11

/-- A buffer was too small. -/
abbrev bufferTooSmall : Code := -12

end Code

/-! ## Causes -/

/-- What an engine gives out and takes back. -/
inductive Resource
  | database
  | scratch
  deriving DecidableEq, Repr

/-- The failure of one expression of a batch: what the engine said, the
position it gave, if it gave one within the batch, and the expression the
failure is put down to, which is the first one if it gave none. -/
structure CompileError where
  message : String
  index : Nat
  engineIndex : Option Nat
  expression : Expression

/-- The words for the failure of one expression. -/
def CompileError.toString (e : CompileError) : String :=
  "failed to compile expression " ++ Nat.repr e.index ++ " (" ++
    Text.quoted e.expression.pattern ++ "): " ++ e.message

/-- The causes of errors. -/
inductive ErrorKind
  | invalidParameter
  | outOfMemory
  | terminatedByCallback
  | compilerFailure
  | patternCompileFailed (e : CompileError)
  | databaseVersionMismatch
  | databasePlatformMismatch
  | databaseModeMismatch
  | misalignedParameter
  | allocatorAlignmentViolation
  | scratchInUse
  | unsupportedPlatform
  | bufferTooSmall
  | notAllocated
  | alreadyReleased (r : Resource)
  | unexpected (code : Code)

/-- The words for a cause. -/
def ErrorKind.message : ErrorKind → String
  | .invalidParameter => "an invalid parameter was passed to the engine"
  | .outOfMemory => "a memory allocation failed"
  | .terminatedByCallback => "the scan was terminated by the match callback"
  | .compilerFailure => "the pattern compiler failed"
  | .patternCompileFailed e => e.toString
  | .databaseVersionMismatch => "the database was built for a different version of the engine"
  | .databasePlatformMismatch => "the database was built for a different platform (CPU type)"
  | .databaseModeMismatch => "the database was built for a different scanning mode"
  | .misalignedParameter => "a parameter was not correctly aligned"
  | .allocatorAlignmentViolation => "the memory allocator did not return correctly aligned memory"
  | .scratchInUse => "the scratch space was already in use"
  | .unsupportedPlatform => "unsupported CPU architecture, at least SSE3 is needed"
  | .bufferTooSmall => "the provided buffer was too small"
  | .notAllocated => "scratch space has not been allocated for this scanner"
  | .alreadyReleased .database => "the database has already been released"
  | .alreadyReleased .scratch => "the scratch space has already been released"
  | .unexpected code => "unexpected engine error: " ++ ToString.toString code

/-- The cause that a result code stands for. -/
def ErrorKind.ofCode (code : Code) : ErrorKind :=
  if code = Code.invalid then .invalidParameter
  else if code = Code.noMemory then .outOfMemory
  else if code = Code.scanTerminated then .terminatedByCallback
  else if code = Code.compilerError then .compilerFailure
  else if code = Code.versionMismatch then .databaseVersionMismatch
  else if code = Code.platformMismatch then .databasePlatformMismatch
  else if code = Code.modeMismatch then .databaseModeMismatch
  else if code = Code.badAlignment then .misalignedParameter
  else if code = Code.badAllocation then .allocatorAlignmentViolation
  else if code = Code.scratchInUse then .scratchInUse
  else if code = Code.unsupportedProcessor then .unsupportedPlatform
  else if code = Code.bufferTooSmall then .bufferTooSmall
  else .unexpected code

/-- The result code of a cause, for those that engines report. -/
def ErrorKind.code? : ErrorKind → Option Code
  | .invalidParameter => some Code.invalid
  | .outOfMemory => some Code.noMemory
  | .terminatedByCallback => some Code.scanTerminated
  | .compilerFailure => some Code.compilerError
  | .patternCompileFailed _ => some Code.compilerError
  | .databaseVersionMismatch => some Code.versionMismatch
  | .databasePlatformMismatch => some Code.platformMismatch
  | .databaseModeMismatch => some Code.modeMismatch
  | .misalignedParameter => some Code.badAlignment
  | .allocatorAlignmentViolation => some Code.badAllocation
  | .scratchInUse => some Code.scratchInUse
  | .unsupportedPlatform => some Code.unsupportedProcessor
  | .bufferTooSmall => some Code.bufferTooSmall
  | .unexpected code => some code
  | .notAllocated => none
  | .alreadyReleased _ => none

/-- An error: its cause, the context before it, and whether an engine
reported it. -/
structure Error where
  kind : ErrorKind
  context : Option String
  fromEngine : Bool

namespace Error

/-- The error that a nonzero result code stands for. -/
def ofCode (code : Code) : Error := ⟨.ofCode code, none, true⟩

/-- The failure of one expression of a batch. -/
def compile (e : CompileError) : Error := ⟨.patternCompileFailed e, none, true⟩

/-- A parameter found to be invalid before any engine saw it. -/
def invalid (context : String) : Error := ⟨.invalidParameter, some context, false⟩

/-- A scan without scratch space. -/
def notAllocated : Error := ⟨.notAllocated, none, false⟩

/-- The use of something that was given back. -/
def released (r : Resource) : Error := ⟨.alreadyReleased r, none, false⟩

/-- The error with more context before what it has. -/
def within (e : Error) (context : String) : Error :=
  { e with context := some (match e.context with
      | some inner => context ++ ": " ++ inner
      | none => context) }

/-- The result code that an engine reported. -/
def code? (e : Error) : Option Code := if e.fromEngine then e.kind.code? else none

/-- The failure of one expression, if that is the cause. -/
def compileError? (e : Error) : Option CompileError :=
  match e.kind with
  | .patternCompileFailed c => some c
  | _ => none

/-- Whether something was used after it was given back. -/
def isReleased (e : Error) : Bool :=
  match e.kind with
  | .alreadyReleased _ => true
  | _ => false

/-- The words for an error, its context first. -/
def message (e : Error) : String :=
  match e.context with
  | some context => context ++ ": " ++ e.kind.message
  | none => e.kind.message

end Error

end Multiscan
