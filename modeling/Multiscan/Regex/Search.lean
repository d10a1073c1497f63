import Multiscan.Regex.Machine
import Std.Data.HashSet
/-!
# Regex — finding matches

A machine that starts with one expression at one offset is run depth first:
the first way to match everything, in the order of the forks, is the match.
The leftmost offset from which there is a way wins. All matches of an
expression in a byte sequence are found from left to right without overlap.
-/

namespace Multiscan.Regex

open Text (Bytes)

/-- The places and offsets already tried. -/
abbrev Tried := Std.HashSet (List Nat × Nat)

/-- Where the first way from a stack at an offset ends, and what has been
tried. -/
def explore (bs : Bytes) (pos : Nat) (s : List Frame) (tried : Tried) : Option Nat × Tried :=
  if tried.contains (place s, pos) then (none, tried)
  else
    let tried := tried.insert (place s, pos)
    match _h : step bs pos s with
    | .accept => (some pos, tried)
    | .dead => (none, tried)
    | .move s' pos' =>
      have := decreases_step bs pos s
      explore bs pos' s' tried
    | .fork a b =>
      have := decreases_step bs pos s
      match explore bs pos a tried with
      | (some stop, tried) => (some stop, tried)
      | (none, tried) => explore bs pos b tried
termination_by (bs.size - pos, weight pos s)
decreasing_by
  all_goals rw [_h] at this
  · rcases this with ⟨h₁, h₂⟩ | ⟨rfl, h₂⟩
    · exact Prod.Lex.left _ _ (by omega)
    · exact Prod.Lex.right _ h₂
  · exact Prod.Lex.right _ this.1
  · exact Prod.Lex.right _ this.2

/-- The leftmost match that starts at one of `count` offsets from `start`
on. What failed from one offset is not tried again from the next. -/
def searchFrom (bs : Bytes) (r : Regex) : Nat → Nat → Tried → Option (Nat × Nat)
  | 0, _, _ => none
  | count + 1, start, tried =>
    match explore bs start [.run r] tried with
    | (some stop, _) => some (start, stop)
    | (none, tried) => searchFrom bs r count (start + 1) tried

/-- The leftmost match that starts at an offset or behind it. -/
def search (bs : Bytes) (r : Regex) (start : Nat) : Option (Nat × Nat) :=
  searchFrom bs r (bs.size + 1 - start) start ∅

mutual

/-- Whether an expression can match the empty stretch, assertions taken to
hold. -/
def nullable : Regex → Bool
  | .empty => true
  | .literal bytes => bytes.isEmpty
  | .oneOf _ _ => false
  | .look _ => true
  | .repetition min _ _ sub => min == 0 || nullable sub
  | .capture _ _ sub => nullable sub
  | .concat parts => allNullable parts
  | .alternation alts => anyNullable alts

/-- Whether all of several expressions can. -/
def allNullable : List Regex → Bool
  | [] => true
  | r :: rs => nullable r && allNullable rs

/-- Whether one of several expressions can. -/
def anyNullable : List Regex → Bool
  | [] => false
  | r :: rs => nullable r || anyNullable rs

end

/-- The leftmost match from an offset on that does not end inside a
character: after one that does, the search starts one byte further on.
`fuel` bounds how often. -/
def searchWhole (bs : Bytes) (r : Regex) : Nat → Nat → Option (Nat × Nat)
  | 0, _ => none
  | fuel + 1, start =>
    match search bs r start with
    | none => none
    | some (from_, stop) =>
      if Text.isBoundary bs stop then some (from_, stop) else searchWhole bs r fuel (start + 1)

/-- The leftmost match from an offset on. Where characters must stay whole
and the expression can match nothing at all, matches that end inside a
character do not count. -/
def find (bs : Bytes) (whole : Bool) (r : Regex) (start : Nat) : Option (Nat × Nat) :=
  if whole && nullable r then searchWhole bs r (bs.size + 1 - start) start else search bs r start

/-- The matches from an offset on, the one before having ended at `last`. An
empty match right at that end does not count; the search goes on one byte
behind it. `fuel` bounds the number of matches. -/
def findFrom (bs : Bytes) (whole : Bool) (r : Regex) :
    Nat → Nat → Option Nat → List (Nat × Nat)
  | 0, _, _ => []
  | fuel + 1, start, last =>
    match find bs whole r start with
    | none => []
    | some (from_, stop) =>
      -- Nothing is left between the match before and this one, which is empty.
      if from_ = stop ∧ last = some stop then
        match find bs whole r (start + 1) with
        | none => []
        | some (from_, stop) => (from_, stop) :: findFrom bs whole r fuel stop (some stop)
      else (from_, stop) :: findFrom bs whole r fuel stop (some stop)

/-- The first match, start and end. -/
def findFirst (bs : Bytes) (whole : Bool) (r : Regex) : Option (Nat × Nat) := find bs whole r 0

/-- All matches, from left to right: start and end of each. -/
def findAll (bs : Bytes) (whole : Bool) (r : Regex) : List (Nat × Nat) :=
  findFrom bs whole r (bs.size + 2) 0 none

end Multiscan.Regex
