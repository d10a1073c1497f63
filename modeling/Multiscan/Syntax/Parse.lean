import Multiscan.Syntax.Brackets
import Multiscan.Syntax.Group
/-!
# Syntax — reading a pattern

A pattern is read item by item, with a stack of what is open: groups, each
with the items before it, and alternations, each with the alternatives
before the one that is being read. Main statement of the module is the
function `Tree.ofPattern?`.
-/

namespace Multiscan.Syntax

open Unicode (isWhiteSpace)

/-- Items read so far, in order, and where they start. -/
structure Items where
  start : Nat
  trees : List Tree

/-- The items as one tree that ends at `stop`. -/
def Items.toTree (i : Items) (stop : Nat) : Tree :=
  match i.trees with
  | [] => .empty ⟨i.start, stop⟩
  | [t] => t
  | ts => .concat ⟨i.start, stop⟩ ts

/-- Something open in a pattern. -/
inductive OpenItem
  /-- A group opened at `start` behind the items `outer`; `verbose` holds
  around it. -/
  | group (outer : Items) (start : Nat) (kind : GroupKind) (verbose : Bool)
  /-- An alternation that starts at `start`, with the alternatives before. -/
  | alternatives (start : Nat) (before : List Tree)

/-- The items that a bar ends as one more alternative of the alternation
that is open on their level. -/
def pushAlternative (items : Items) (stop : Nat) : List OpenItem → List OpenItem
  | .alternatives start before :: rest =>
    .alternatives start (before ++ [items.toTree stop]) :: rest
  | stack => .alternatives items.start [items.toTree stop] :: stack

/-- The items at the end of a level, joined with the alternatives before
them, and what is open outside. -/
def closeAlternatives (items : Items) (stop : Nat) : List OpenItem → Tree × List OpenItem
  | .alternatives start before :: rest =>
    (.alternation ⟨start, stop⟩ (before ++ [items.toTree stop]), rest)
  | stack => (items.toTree stop, stack)

/-- The tree of a pattern at its end. -/
def finish (stack : List OpenItem) (items : Items) (c : Cursor) : Except SyntaxError Tree :=
  match closeAlternatives items c.offset stack with
  | (tree, []) => .ok tree
  | (_, .group _ start _ _ :: _) => .error ⟨.groupUnclosed, start⟩
  | (tree, .alternatives _ _ :: _) => .ok tree

/-- The last item, to be repeated by an operator at `offset`. -/
def repeatable (items : Items) (offset : Nat) : Except SyntaxError (Tree × Items) :=
  match items.trees.getLast? with
  | none => .error ⟨.repetitionMissing, offset⟩
  | some (.empty _) => .error ⟨.repetitionMissing, offset⟩
  | some (.flags _ _ _) => .error ⟨.repetitionMissing, offset⟩
  | some t => .ok (t, { items with trees := items.trees.dropLast })

/-- The items with the last one repeated; a question mark behind the
operator makes the repetition reluctant. -/
def repeated (sub : Tree) (items : Items) (opStart : Nat) (kind : RepetitionKind) (c : Cursor) :
    Items × Cursor :=
  let (greedy, c) := if c.char? == some '?' then (false, c.bump) else (true, c)
  let tree := Tree.repetition ⟨sub.span.start, c.offset⟩ ⟨opStart, c.offset⟩ kind greedy sub
  ({ items with trees := items.trees ++ [tree] }, c)

/-- A number between blanks and the cursor behind it. -/
def decimal (c : Cursor) : Except SyntaxError Nat × Cursor :=
  let blanks := c.rest.takeWhile isWhiteSpace
  let c := blanks.foldl (fun c _ => c.bump) c
  let start := c.offset
  let (digits, c) := c.run Char.isDigit
  let (_, c) := c.run isWhiteSpace
  if digits.isEmpty then (.error ⟨.repetitionCountDecimalEmpty, start⟩, c)
  else
    let n := digits.foldl (fun n d => 10 * n + (d.toNat - 48)) 0
    if n < UInt32.size then (.ok n, c) else (.error ⟨.decimalInvalid, start⟩, c)

/-- The counts between braces, the cursor at the opening one; the cursor
behind is at the closing one. -/
def counts (c : Cursor) : Except SyntaxError (RepetitionKind × Cursor) := do
  let start := c.offset
  let unclosed : SyntaxError := ⟨.repetitionCountUnclosed, start⟩
  let c := c.next
  if c.char?.isNone then throw unclosed
  let (first, c) := decimal c
  let (kind, c) ← match c.char? with
    | none => throw unclosed
    | some ',' =>
      let c := c.next
      match c.char? with
      | none => throw unclosed
      | some '\x7d' => pure (RepetitionKind.atLeast (← first), c)
      | some _ =>
        let n ← first
        let (last, c) := decimal c
        pure (RepetitionKind.bounded n (← last), c)
    | some _ => pure (RepetitionKind.exactly (← first), c)
  if c.char? == some '\x7d' then return (kind, c) else throw unclosed

/-- Whether the least count is at most the greatest. -/
def RepetitionKind.isValid : RepetitionKind → Bool
  | .bounded n m => n ≤ m
  | _ => true

/-- The rest of a pattern: `stack` is open and `items` are read on the
innermost level. Every step takes a character, so `fuel` may be the number
of characters left. -/
def patternRest : Nat → List OpenItem → Items → Cursor → Except SyntaxError Tree
  | 0, stack, items, c => finish stack items c
  | fuel + 1, stack, items, c => do
    let c := c.skip
    match c.char? with
    | none => finish stack items c
    | some '(' =>
      match ← opening c with
      | (.flags span flagSpan flags, c) =>
        -- Verbose mode is the one flag that changes how the rest is read.
        let c := { c with verbose := (flagState flags .verbose).getD c.verbose }
        patternRest fuel stack { items with trees := items.trees ++ [.flags span flagSpan flags] } c
      | (.group start kind, c) =>
        let inside := (kind.flags?.bind (flagState · .verbose)).getD c.verbose
        patternRest fuel (.group items start kind c.verbose :: stack) ⟨c.offset, []⟩
          { c with verbose := inside }
    | some ')' =>
      match closeAlternatives items c.offset stack with
      | (sub, .group outer start kind verbose :: rest) =>
        let c := { c.bump with verbose }
        let tree := Tree.group ⟨start, c.offset⟩ kind sub
        patternRest fuel rest { outer with trees := outer.trees ++ [tree] } c
      | _ => throw ⟨.groupUnopened, c.offset⟩
    | some '|' =>
      let stack := pushAlternative items c.offset stack
      let c := c.bump
      patternRest fuel stack ⟨c.offset, []⟩ c
    | some '[' =>
      let (tree, c) ← bracketedClass c
      patternRest fuel stack { items with trees := items.trees ++ [tree] } c
    | some '\x7b' =>
      let start := c.offset
      let (sub, items) ← repeatable items start
      let (kind, c) ← counts c
      let (items, c) := repeated sub items start kind c.next
      if kind.isValid then patternRest fuel stack items c
      else throw ⟨.repetitionCountInvalid, start⟩
    | some x =>
      let operator : Option RepetitionKind := match x with
        | '?' => some .zeroOrOne
        | '*' => some .zeroOrMore
        | '+' => some .oneOrMore
        | _ => none
      match operator with
      | some kind =>
        let (sub, items) ← repeatable items c.offset
        let (items, c) := repeated sub items c.offset kind c.bump
        patternRest fuel stack items c
      | none =>
        let (a, c) ← atom c x
        patternRest fuel stack { items with trees := items.trees ++ [a.toTree] } c

end Multiscan.Syntax
