import Multiscan.Regex.Basic
/-!
# Built-in engine — building automata

The engine does not build the automata that look for expressions: a builder
does, which may refuse an expression that takes too much room, or for a reason
of its own. The engine is made for any builder and knows nothing about it but
that a limit is exceeded only where one was set.
-/

namespace Multiscan.Builtin

/-- Why an automaton is not built. -/
inductive BuildFailure
  /-- It would take more bytes than a limit allows. -/
  | tooLarge (limit : Nat)
  /-- Anything else, in words. -/
  | other (reason : String)
  deriving DecidableEq, Repr

/-- The words for an automaton that is not built. -/
def BuildFailure.message : BuildFailure → String
  | .tooLarge limit =>
    "Pattern is too large: exceeds the limit of " ++ Nat.repr limit ++ " bytes."
  | .other reason => "Pattern could not be built: " ++ reason ++ "."

/-- A builder of automata. It is told of an expression whether matches of
nothing must not lie inside characters. -/
structure Builder where
  /-- Why an automaton is not built within a limit, unless it is. -/
  failure? (limit : Option Nat) (whole : Bool) (r : Regex) : Option BuildFailure
  /-- The size in bytes of a pattern in a database, its automaton included. -/
  share (whole : Bool) (r : Regex) : Nat
  /-- Where a limit is exceeded it is the one that was set. -/
  limit_of_tooLarge {limit : Option Nat} {whole : Bool} {r : Regex} {n : Nat} :
    failure? limit whole r = some (.tooLarge n) → limit = some n

/-- Whether there is an automaton for every literal if no limit is set. -/
def Builder.BuildsLiterals (builder : Builder) : Prop :=
  ∀ whole bytes, builder.failure? none whole (.literal bytes) = none

/-- What the engine is made of: the builder of its automata, and the limit that
it sets on the room for each. -/
structure Setup where
  builder : Builder
  limit : Option Nat

/-- The limit unless another is chosen. -/
def defaultLimit : Nat := 10 * (1 <<< 20)

/-- Why there is no automaton for an expression, unless there is one. -/
def Setup.failure? (setup : Setup) (whole : Bool) (r : Regex) : Option BuildFailure :=
  setup.builder.failure? setup.limit whole r

end Multiscan.Builtin
