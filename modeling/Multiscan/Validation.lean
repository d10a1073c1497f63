import Multiscan.Database
/-!
# Facts about single expressions

The base variant of an engine tells how long the matches of an expression
can be and whether they can end elsewhere than at the end of the data. An
expression is validated by asking the base variant for these facts and by
compiling a database of the expression alone, which is thrown away. The two
verdicts are kept apart.
-/

namespace Multiscan

variable {σ : Type}

/-- The facts about an expression: the least and the greatest length of a
match in bytes, if it is bounded, whether matches may come out of order,
whether they may end at the end of the data, and whether they can end
nowhere else. -/
structure Info where
  least : Nat
  greatest : Option Nat
  unordered : Bool
  atEnd : Bool
  onlyAtEnd : Bool
  deriving DecidableEq, Repr

/-- The facts that an engine's record of them stands for. -/
def Info.ofRaw (raw : Engine.RawInfo) : Info where
  least := raw.least.toNat
  greatest := if raw.greatest = 0xFFFFFFFF then none else some raw.greatest.toNat
  unordered := raw.unordered
  atEnd := raw.atEnd
  onlyAtEnd := raw.onlyAtEnd

/-- The outcome of validating an expression: for each variant the reason
why it refuses the expression, if it does. -/
structure Verdicts where
  base : Option String
  extended : Option String
  deriving DecidableEq, Repr

namespace Verdicts

/-- Whether the base variant takes the expression. -/
def validBase (v : Verdicts) : Bool := v.base.isNone

/-- Whether the extended variant takes the expression. -/
def validExtended (v : Verdicts) : Bool := v.extended.isNone

/-- Whether some variant takes the expression. -/
def isValid (v : Verdicts) : Bool := v.validBase || v.validExtended

end Verdicts

/-- The words of an error for whoever is to mend the pattern: what the
engine said, if the error has it. -/
def Error.reason (e : Error) : String :=
  match e.kind, e.context with
  | .patternCompileFailed c, _ => c.message
  | .compilerFailure, some context => context
  | _, _ => e.message

namespace Expression

/-- What an engine's base variant knows about an expression. -/
def info (E : Engine σ) (e : Expression) : Act σ Info := do
  let flags ← Act.ofExcept (e.flags.encode .base)
  let pattern ← Act.ofExcept (patternBytes e.pattern)
  let reply ← World.ask E (.info pattern flags)
  if reply.code ≠ Code.success then
    match reply.error with
    | none => throw (.ofCode reply.code)
    | some record =>
      let (message, _) ← takeRecord E .base record
      throw ((Error.ofCode reply.code).within message)
  match reply.info with
  | none => throw (.invalid "engine returned no expression info")
  | some (h, raw) =>
    World.ask E (.freeInfo h)
    return .ofRaw raw

/-- The verdict of the base variant. -/
def judgeBase (E : Engine σ) (e : Expression) : Step σ (Option String) := do
  match ← (info E e).attempt with
  | .ok _ => return none
  | .error err => return some err.reason

/-- The verdict of the extended variant. -/
def judgeExtended (E : Engine σ) (e : Expression) : Step σ (Option String) := do
  match ← (Database.compile E true [e]).attempt with
  | .ok d =>
    let _ ← d.close E
    return none
  | .error err => return some err.reason

/-- The verdicts of both variants. -/
def validate (E : Engine σ) (e : Expression) : Step σ Verdicts := do
  let base ← judgeBase E e
  let extended ← judgeExtended E e
  return ⟨base, extended⟩

end Expression

end Multiscan
