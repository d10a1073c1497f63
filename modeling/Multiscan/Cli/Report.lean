import Multiscan.Cli.Help
import Multiscan.Text.Quoted
/-!
# Command line — reports

What a command has to say: lines, a table of labelled values, and the
failure that it ends with. How long something took is not known to a
report; whoever prints it fills the times in.
-/

namespace Multiscan.Cli

/-- What can be timed. -/
inductive Phase
  | compile
  | allocation
  | scan
  | validation
  deriving DecidableEq, Repr

/-- The value in a row of a table. -/
inductive Value
  | number (n : Nat)
  | text (s : String)
  | time (p : Phase)
  deriving DecidableEq, Repr

/-- How a value is printed. -/
def Value.printed (times : Phase → String) : Value → String
  | .number n => Nat.repr n
  | .text s => Text.quoted s
  | .time p => times p

/-- A row of a table. -/
structure Row where
  label : String
  value : Value
  deriving DecidableEq, Repr

/-- The lines of a table: the labels end below each other. -/
def tableLines (times : Phase → String) (rows : List Row) : List String :=
  let width := Text.maxLength (rows.map (·.label ++ ":"))
  rows.map fun r => Text.padLeft width (r.label ++ ":") ++ "  " ++ r.value.printed times

/-- What a command has to say. -/
structure Report where
  lines : List String
  rows : List Row
  failure : Option String
  deriving DecidableEq, Repr

namespace Report

/-- A failure and nothing else. -/
def failed (message : String) : Report := ⟨[], [], some message⟩

/-- Whether the command succeeded. -/
def succeeded (r : Report) : Bool := r.failure.isNone

/-- The exit status. -/
def status (r : Report) : Nat := if r.succeeded then 0 else 1

/-- What is printed, apart from the failure. -/
def output (r : Report) (times : Phase → String) : String :=
  joinLines (r.lines ++ tableLines times r.rows)

end Report

end Multiscan.Cli
