import Multiscan.FlagSet
import Multiscan.Text.Quoted
/-!
# Expressions

A pattern with the flags to compile it with, and a value of the caller's
choosing that is carried along and never looked at.
-/

namespace Multiscan

/-- A value that travels with an expression. -/
inductive Tag
  | text (s : String)
  | number (n : Nat)
  deriving DecidableEq, Repr

/-- A pattern, its flags and the value that travels with it. -/
structure Expression where
  pattern : String
  flags : FlagSet
  tag : Option Tag
  deriving DecidableEq

namespace Expression

/-- A pattern with flags and nothing else. -/
def ofPattern (pattern : String) (flags : FlagSet) : Expression := ⟨pattern, flags, none⟩

/-- The printed form of an expression, which tells of a value that travels
with it no more than that there is one. -/
def printed (e : Expression) : String :=
  "Expression \x7b pattern: " ++ Text.quoted e.pattern ++ ", flags: " ++ e.flags.printed ++
    ", context: " ++ (if e.tag.isSome then "Some(\"..\")" else "None") ++ " \x7d"

end Expression

end Multiscan
