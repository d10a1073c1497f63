import Multiscan.Engine.World
import Multiscan.FlagWord
/-!
# Databases

A database is a batch of expressions that an engine compiled together. It
owns one handle from then until it is closed. The expressions stay in the
order of the batch: the position of an expression is the id that the engine
reports for its matches, and it can be looked up even after the database
was closed.
-/

namespace Multiscan

variable {σ : Type}

/-- A compiled batch. There is no handle once it was closed. -/
structure Database where
  handle : Option Handle
  expressions : List Expression
  deriving DecidableEq

/-- The bytes of a pattern, which must not hold a NUL: engines take NUL as
the end of a pattern. -/
def patternBytes (pattern : String) : Except Error Text.Bytes :=
  let bytes := Text.bytesOf pattern
  match bytes.findIdx? (· == 0) with
  | none => .ok bytes
  | some k => .error (.invalid ("pattern contains a NUL byte at offset " ++ Nat.repr k))

namespace Database

/-- The number of expressions. -/
def length (d : Database) : Nat := d.expressions.length

/-- Whether there are no expressions, which no batch that compiles is. -/
def isEmpty (d : Database) : Bool := d.expressions.isEmpty

/-- The expression at a position. -/
def expression? (d : Database) (id : Nat) : Option Expression := d.expressions[id]?

/-- Whether the handle was given back. -/
def isClosed (d : Database) : Bool := d.handle.isNone

/-- The handle, unless it was given back. -/
def handle? (d : Database) : Except Error Handle :=
  match d.handle with
  | some h => .ok h
  | none => .error (.released .database)

/-! ## Compiling a batch -/

/-- What an engine is to be given for the expression at a position. -/
def job (i : Nat) (e : Expression) : Except Error Engine.Job := do
  let pattern ← patternBytes e.pattern
  let flags ← e.flags.encode .extended
  return ⟨pattern, flags, UInt32.ofNat i⟩

/-- What an engine is to be given for expressions from a position on. The
first expression that cannot be given to an engine is the one that the
error names. -/
def jobs (i : Nat) : List Expression → Except Error (List Engine.Job)
  | [] => .ok []
  | e :: es =>
    match job i e with
    | .error err => .error (err.within ("expression " ++ Nat.repr i))
    | .ok j => (jobs (i + 1) es).map (j :: ·)

/-- An index that an engine gave, if it is one of a batch of `count`. -/
def batchIndex (count : Nat) (index : Int) : Option Nat :=
  if 0 ≤ index ∧ index < count then some index.toNat else none

/-- The expression that a refusal is put down to: the one the engine named,
or else the first. -/
def blame (message : String) (engineIndex : Option Nat) (first : Expression)
    (rest : List Expression) : CompileError :=
  let index := engineIndex.getD 0
  ⟨message, index, engineIndex, (first :: rest)[index]?.getD first⟩

/-- The error for a batch that an engine refused. Any record is given back;
it counts only if the engine says that the pattern compiler failed. -/
def refusal (E : Engine σ) (first : Expression) (rest : List Expression)
    (reply : Engine.CompileReply) : Step σ Error := do
  let count := rest.length + 1
  let general := (Error.ofCode reply.code).within
    ("failed to compile " ++ Nat.repr count ++ " expression(s)")
  match reply.error with
  | none => return general
  | some record =>
    let (message, index) ← takeRecord E .extended record
    if reply.code = Code.compilerError then
      let engineIndex := batchIndex count index
      World.note (.refused count engineIndex message)
      return .compile (blame message engineIndex first rest)
    else
      return general

/-- A batch compiled by an engine. Every expression is looked at before the
engine is asked. -/
def compile (E : Engine σ) (groups : Bool) : List Expression → Act σ Database
  | [] => throw (.invalid "at least one expression is required")
  | first :: rest => do
    let count := rest.length + 1
    if UInt32.size ≤ count then
      throw (.invalid "too many expressions")
    let batch ← Act.ofExcept (jobs 0 (first :: rest))
    let reply ← World.ask E (.compile batch (Engine.modeOf groups))
    if reply.code ≠ Code.success then
      throw (← refusal E first rest reply)
    match reply.database with
    | none => throw (.invalid "engine reported success without a database")
    | some h =>
      Act.note (.compiled count h)
      return ⟨some h, first :: rest⟩

/-! ## Using and closing a database -/

/-- The size of a database in bytes. -/
def size (E : Engine σ) (d : Database) : Act σ Nat := do
  let h ← Act.ofExcept d.handle?
  let reply ← World.ask E (.databaseSize h)
  if reply.code ≠ Code.success then
    throw (.ofCode reply.code)
  return reply.size

/-- The database without its handle, which is given back if it still was
there. -/
def close (E : Engine σ) (d : Database) : Step σ Database :=
  match d.handle with
  | none => return d
  | some h => do
    let code ← World.ask E (.freeDatabase h)
    if code = Code.success then
      World.note (.releasedDatabase h)
    else
      World.note (.keptDatabase h (.ofCode code))
    return { d with handle := none }

/-- The printed form of a database that belongs to an engine; the handle
itself is not shown. -/
def printed (E : Engine σ) (d : Database) : String :=
  "Database \x7b engine: " ++ E.label ++ ", raw: " ++
    (if d.isClosed then "None" else "Some(PTR)") ++ ", expressions: [" ++
    ", ".intercalate (d.expressions.map Expression.printed) ++ "] \x7d"

end Database

end Multiscan
