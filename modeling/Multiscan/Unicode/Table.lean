import Multiscan.Text.Hexadecimal
/-!
# Unicode — the written form of property tables

A table over all code points is written as text in one of two forms. A
*step list* names the ranges of one set: each step is the distance from the
end of the range before to the start of the next, and after a `+` how many
further code points the range holds. A *run list* names a partition: each
run is a value and the number of consecutive code points that have it. All
numbers are hexadecimal. Steps and runs are set apart by blanks and line
ends.
-/

namespace Multiscan.Unicode

open Text (hexNumber)

/-- The parts of a text between blanks and line ends. -/
def parts (text : String) : List String :=
  ((text.map fun c => if c = '\n' then ' ' else c).splitOn " ").filter (· ≠ "")

/-- Ranges named by steps, the range before having ended at `last`. -/
def rangesFrom (last : Nat) : List String → List (Nat × Nat)
  | [] => []
  | step :: rest =>
    match step.splitOn "+" with
    | [lo] =>
      let lo := last + hexNumber lo.toList
      (lo, lo) :: rangesFrom lo rest
    | lo :: more :: _ =>
      let lo := last + hexNumber lo.toList
      let hi := lo + hexNumber more.toList
      (lo, hi) :: rangesFrom hi rest
    | [] => rangesFrom last rest

/-- The ranges a step list names. -/
def rangesOfSteps (steps : String) : List (Nat × Nat) :=
  rangesFrom 0 (parts steps)

/-- Runs with the code points they cover, the first starting at `next`. -/
def runsFrom (next : Nat) : List String → List (String × Nat × Nat)
  | [] => []
  | run :: rest =>
    match run.splitOn ":" with
    | value :: count :: _ =>
      let stop := next + hexNumber count.toList
      (value, next, stop - 1) :: runsFrom stop rest
    | _ => runsFrom next rest

/-- The value and range of every run of a run list. -/
def runsOfText (runs : String) : List (String × Nat × Nat) :=
  runsFrom 0 (parts runs)

/-- The ranges on which a partition has one of the given values. -/
def rangesWith (runs : List (String × Nat × Nat)) (values : List String) : List (Nat × Nat) :=
  runs.filterMap fun r => if values.contains r.1 then some r.2 else none

end Multiscan.Unicode
