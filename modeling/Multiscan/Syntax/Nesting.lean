import Multiscan.Syntax.Parse
/-!
# Syntax — how deep a pattern may nest

Groups, repetitions, sequences, alternations and bracketed classes each
count as one level, and so do unions and set operations inside brackets.
A tree with more than a fixed number of levels is refused at the first
node, in reading order, that lies too deep.
-/

namespace Multiscan.Syntax

mutual

/-- Where a class set, itself `depth` levels deep, first exceeds the
limit. -/
def ClassSet.tooDeep? (limit depth : Nat) : ClassSet → Option Nat
  | .bracketed s _ inner =>
    if depth < limit then inner.tooDeep? limit (depth + 1) else some s.start
  | .union s items =>
    if depth < limit then ClassSet.anyTooDeep? limit (depth + 1) items else some s.start
  | .op s _ lhs rhs =>
    if depth < limit then
      lhs.tooDeep? limit (depth + 1) <|> rhs.tooDeep? limit (depth + 1)
    else some s.start
  | _ => none

/-- The same for several class sets in order. -/
def ClassSet.anyTooDeep? (limit depth : Nat) : List ClassSet → Option Nat
  | [] => none
  | set :: sets => set.tooDeep? limit depth <|> ClassSet.anyTooDeep? limit depth sets

end

mutual

/-- Where a tree, itself `depth` levels deep, first exceeds the limit. -/
def Tree.tooDeep? (limit depth : Nat) : Tree → Option Nat
  | .bracketed s _ set =>
    if depth < limit then set.tooDeep? limit (depth + 1) else some s.start
  | .repetition s _ _ _ sub =>
    if depth < limit then sub.tooDeep? limit (depth + 1) else some s.start
  | .group s _ sub =>
    if depth < limit then sub.tooDeep? limit (depth + 1) else some s.start
  | .alternation s ts =>
    if depth < limit then Tree.anyTooDeep? limit (depth + 1) ts else some s.start
  | .concat s ts =>
    if depth < limit then Tree.anyTooDeep? limit (depth + 1) ts else some s.start
  | _ => none

/-- The same for several trees in order. -/
def Tree.anyTooDeep? (limit depth : Nat) : List Tree → Option Nat
  | [] => none
  | t :: ts => t.tooDeep? limit depth <|> Tree.anyTooDeep? limit depth ts

end

/-- The number of levels a pattern may have. -/
def nestLimit : Nat := 250

/-- The tree of a pattern, unless it is malformed or nests too deep. -/
def Tree.ofPattern? (pattern : List Char) : Except SyntaxError Tree := do
  let tree ← patternRest (pattern.length + 1) [] ⟨0, []⟩ (Cursor.start pattern)
  match tree.tooDeep? nestLimit 0 with
  | some offset => throw ⟨.nestLimitExceeded nestLimit, offset⟩
  | none => return tree

end Multiscan.Syntax
