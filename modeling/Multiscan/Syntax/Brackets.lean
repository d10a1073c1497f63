import Multiscan.Syntax.Escape
/-!
# Syntax — bracketed classes

A bracketed class is read with a stack of what is still open: brackets,
each with the members it stands among, and set operations whose right side
is being read. Operations on one level associate to the left.
-/

namespace Multiscan.Syntax

/-- Members of a class read so far, in order, and where they stand. -/
structure Members where
  span : Span
  items : List ClassSet

/-- No members yet, at the cursor. -/
def Members.none (c : Cursor) : Members := ⟨c.here, []⟩

/-- One more member behind the others. -/
def Members.push (m : Members) (item : ClassSet) : Members :=
  let start := if m.items.isEmpty then item.span.start else m.span.start
  ⟨⟨start, item.span.stop⟩, m.items ++ [item]⟩

/-- The members as one set. -/
def Members.toSet (m : Members) : ClassSet :=
  match m.items with
  | [] => .empty m.span
  | [item] => item
  | items => .union m.span items

/-- Something open in a class. -/
inductive OpenSet
  /-- A bracket opened at `start` among the members `outer`. -/
  | bracket (outer : Members) (start : Nat) (negated : Bool)
  /-- An operation whose left side is complete. -/
  | operation (kind : SetOp) (lhs : ClassSet)

/-- The innermost open bracket, with what is open outside it. -/
def innermost? : List OpenSet → Option (Nat × Bool × Members × List OpenSet)
  | [] => none
  | .bracket outer start negated :: rest => some (start, negated, outer, rest)
  | .operation _ _ :: rest => innermost? rest

/-- The error that the innermost open bracket is not closed. -/
def unclosedSet (stack : List OpenSet) : SyntaxError :=
  ⟨.classUnclosed, (innermost? stack).elim 0 (·.1)⟩

/-- A set as the right side of the operation that is open on its level, if
there is one, and what stays open. -/
def closeOperation (rhs : ClassSet) : List OpenSet → ClassSet × List OpenSet
  | .operation kind lhs :: rest => (.op ⟨lhs.span.start, rhs.span.stop⟩ kind lhs rhs, rest)
  | stack => (rhs, stack)

/-- The members `-` that may come first, the cursor at the first of them. A
bracket opened at `start` must not end there. `fuel` bounds their number. -/
def leadingHyphens (start : Nat) : Nat → Members → Cursor → Except SyntaxError (Members × Cursor)
  | 0, m, c => .ok (m, c)
  | fuel + 1, m, c =>
    if c.char? = some '-' then
      let m := m.push (.literal ⟨c.charSpan, .verbatim, '-'⟩)
      let c := c.next
      if c.char?.isNone then .error ⟨.classUnclosed, start⟩ else leadingHyphens start fuel m c
    else .ok (m, c)

/-- The inside of a bracket up to its first ordinary member, the cursor at
the bracket: whether it is negated, and the members that only stand for
themselves in first place, hyphens or one closing bracket. -/
def openBracket (c : Cursor) : Except SyntaxError (Bool × Members × Cursor) := do
  let start := c.offset
  let unclosed : SyntaxError := ⟨.classUnclosed, start⟩
  let c := c.next
  if c.char?.isNone then throw unclosed
  let negated := c.char? == some '^'
  let c := if negated then c.next else c
  if c.char?.isNone then throw unclosed
  let (m, c) ← leadingHyphens start c.rest.length (Members.none c) c
  if m.items.isEmpty && c.char? == some ']' then
    let m := m.push (.literal ⟨c.charSpan, .verbatim, ']'⟩)
    let c := c.next
    if c.char?.isNone then throw unclosed
    return (negated, m, c)
  return (negated, m, c)

/-- The class that a name between `[:` and `:]` stands for. -/
def asciiKind? (name : String) : Option AsciiKind :=
  match name with
  | "alnum" => some .alnum
  | "alpha" => some .alpha
  | "ascii" => some .ascii
  | "blank" => some .blank
  | "cntrl" => some .cntrl
  | "digit" => some .digit
  | "graph" => some .graph
  | "lower" => some .lower
  | "print" => some .print
  | "punct" => some .punct
  | "space" => some .space
  | "upper" => some .upper
  | "word" => some .word
  | "xdigit" => some .xdigit
  | _ => none

/-- A named ASCII class, if one starts at the cursor, which is at a
bracket. -/
def asciiClass? (c : Cursor) : Option (AsciiClass × Cursor) := do
  let start := c.offset
  let c ← c.after? "[:"
  let negated := c.char? == some '^'
  let c := if negated then c.bump else c
  let name := c.rest.takeWhile (· != ':')
  let c ← (name.foldl (fun c _ => c.bump) c).after? ":]"
  let kind ← asciiKind? (String.ofList name)
  return (⟨⟨start, c.offset⟩, kind, negated⟩, c)

/-- A member or a range of members, the cursor at its first character `x`,
with `stack` open. A hyphen makes a range unless a bracket closes or another
hyphen follows. -/
def classRange (stack : List OpenSet) (c : Cursor) (x : Char) :
    Except SyntaxError (ClassSet × Cursor) := do
  let (lo, c) ← classAtom c x
  let c := c.skip
  match c.char? with
  | none => .error (unclosedSet stack)
  | some '-' =>
    if c.peekPastBlanks? == some ']' || c.peekPastBlanks? == some '-' then
      return (← lo.toClassSet, c)
    else
      let c := c.next
      match c.char? with
      | none => .error (unclosedSet stack)
      | some y =>
        let (hi, c) ← classAtom c y
        let span : Span := ⟨lo.span.start, hi.span.stop⟩
        let first ← lo.toRangeEnd
        let last ← hi.toRangeEnd
        if first.char ≤ last.char then return (.range span first last, c)
        else .error ⟨.classRangeInvalid, span.start⟩
  | some _ => return (← lo.toClassSet, c)

/-- The operation whose sign, one character written twice, starts with the
given character. -/
def setOp? : Char → Option SetOp
  | '&' => some .intersection
  | '-' => some .difference
  | '~' => some .symmetricDifference
  | _ => none

/-- The rest of a class: `stack` is open and `m` are the members read on the
innermost level. Every step takes a character, so `fuel` may be the number
of characters left. -/
def classRest : Nat → List OpenSet → Members → Cursor → Except SyntaxError (Tree × Cursor)
  | 0, stack, _, _ => .error (unclosedSet stack)
  | fuel + 1, stack, m, c => do
    let c := c.skip
    match c.char? with
    | none => .error (unclosedSet stack)
    | some '[' =>
      match asciiClass? c with
      | some (a, c) => classRest fuel stack (m.push (.ascii a)) c
      | none =>
        let (negated, inner, c') ← openBracket c
        classRest fuel (.bracket m c.offset negated :: stack) inner c'
    | some ']' =>
      let (set, stack) := closeOperation m.toSet stack
      let c := c.bump
      match innermost? stack with
      | none => .error (unclosedSet stack)
      | some (start, negated, outer, rest) =>
        let span : Span := ⟨start, c.offset⟩
        if rest.isEmpty then return (.bracketed span negated set, c)
        else classRest fuel rest (outer.push (.bracketed span negated set)) c
    | some x =>
      match setOp? x with
      | some kind =>
        if c.peek? == some x then
          let (lhs, stack) := closeOperation m.toSet stack
          let c := c.bump.bump
          classRest fuel (.operation kind lhs :: stack) (Members.none c) c
        else
          let (item, c) ← classRange stack c x
          classRest fuel stack (m.push item) c
      | none =>
        let (item, c) ← classRange stack c x
        classRest fuel stack (m.push item) c

/-- A bracketed class, the cursor at its bracket. -/
def bracketedClass (c : Cursor) : Except SyntaxError (Tree × Cursor) := do
  let (negated, m, c') ← openBracket c
  classRest (c.rest.length + 1) [.bracket (Members.none c) c.offset negated] m c'

end Multiscan.Syntax
