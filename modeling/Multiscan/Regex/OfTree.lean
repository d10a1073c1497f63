import Multiscan.Regex.Basic
import Multiscan.Syntax.AsciiClasses
import Multiscan.Syntax.Nesting
import Multiscan.Unicode.Property
/-!
# Regex — the meaning of a syntax tree

A tree becomes a regular expression under a setting of flags. Inline flags
change the setting for what follows them in their group, alternatives
included; a group restores it at its end. Under the character reading,
literals and classes are about characters; otherwise about bytes, and then
what names a character outside ASCII has no place in a class.
-/

namespace Multiscan.Regex

open Syntax

/-- The flags in force at a place in a pattern. -/
structure Setting where
  caseless : Bool
  multiLine : Bool
  dotAll : Bool
  swapGreed : Bool
  unicode : Bool
  crlf : Bool
  deriving DecidableEq, Repr

/-- The alphabet of the setting. -/
def Setting.alphabet (f : Setting) : Alphabet := if f.unicode then .character else .byte

/-- The setting after a list of inline flags. -/
def Setting.withFlags (f : Setting) (items : List FlagItem) : Setting where
  caseless := (flagState items .caseless).getD f.caseless
  multiLine := (flagState items .multiLine).getD f.multiLine
  dotAll := (flagState items .dotAll).getD f.dotAll
  swapGreed := (flagState items .swapGreed).getD f.swapGreed
  unicode := (flagState items .unicode).getD f.unicode
  crlf := (flagState items .crlf).getD f.crlf

/-- A set with the case variants of its members, if case does not count,
and then with members and others exchanged, if negated. -/
def foldThenNegate (f : Setting) (negated : Bool) (s : SymbolSet) : SymbolSet :=
  let s := if f.caseless then s.caseFold f.alphabet else s.joined
  if negated then s.compl f.alphabet else s

/-! ## Classes -/

/-- The ranges of a named ASCII class. -/
def asciiIntervals : AsciiKind → List (Nat × Nat)
  | .alnum => [(0x30, 0x39), (0x41, 0x5A), (0x61, 0x7A)]
  | .alpha => [(0x41, 0x5A), (0x61, 0x7A)]
  | .ascii => [(0x00, 0x7F)]
  | .blank => [(0x09, 0x09), (0x20, 0x20)]
  | .cntrl => [(0x00, 0x1F), (0x7F, 0x7F)]
  | .digit => [(0x30, 0x39)]
  | .graph => [(0x21, 0x7E)]
  | .lower => [(0x61, 0x7A)]
  | .print => [(0x20, 0x7E)]
  | .punct => [(0x21, 0x2F), (0x3A, 0x40), (0x5B, 0x60), (0x7B, 0x7E)]
  | .space => [(0x09, 0x0D), (0x20, 0x20)]
  | .upper => [(0x41, 0x5A)]
  | .word => [(0x30, 0x39), (0x41, 0x5A), (0x5F, 0x5F), (0x61, 0x7A)]
  | .xdigit => [(0x30, 0x39), (0x41, 0x46), (0x61, 0x66)]

/-- The set of a named ASCII class. -/
def asciiSet (f : Setting) (c : AsciiClass) : SymbolSet :=
  foldThenNegate f c.negated (.ofIntervals (asciiIntervals c.kind))

/-- The members of a shorthand class before negation. -/
def shorthandIntervals (f : Setting) (kind : ShorthandKind) : List (Nat × Nat) :=
  if f.unicode then
    match kind with
    | .digit => Unicode.decimalDigits
    | .space => Unicode.whiteSpace
    | .word => Unicode.wordCharacters
  else asciiIntervals kind.toAscii

/-- The set of a shorthand class. Case does not matter to it. -/
def shorthandSet (f : Setting) (c : Shorthand) : SymbolSet :=
  let s := SymbolSet.ofIntervals (shorthandIntervals f c.kind)
  if c.negated then s.compl f.alphabet else s

/-- The fault of a property class whose query has no answer. -/
def propertyFault : Unicode.QueryFault → Fault
  | .propertyNotFound => .unicodePropertyNotFound
  | .valueNotFound => .unicodePropertyValueNotFound

/-- The ranges that a property query asks for, negated or not. -/
def queryIntervals : PropertyQuery → Except Unicode.QueryFault (List (Nat × Nat))
  | .letter c => Unicode.setNamed (String.singleton c)
  | .named name => Unicode.setNamed name
  | .valued _ name value => Unicode.setWithValue name value

/-- The set of a property class, which needs the character reading. -/
def propertySet (f : Setting) (c : PropertyClass) : Except SyntaxError SymbolSet :=
  if f.unicode then
    match queryIntervals c.query with
    | .ok intervals => .ok (foldThenNegate f c.excludes (.ofCodePoints intervals))
    | .error fault => .error ⟨propertyFault fault, c.span.start⟩
  else .error ⟨.unicodeNotAllowed, c.span.start⟩

/-- The symbol that a literal in a class stands for. -/
def classSymbol (f : Setting) (l : Literal) : Except SyntaxError Nat :=
  if f.unicode then .ok l.char.toNat
  else match l.byte? with
    | some b => .ok b.toNat
    | none =>
      if l.char.toNat < 128 then .ok l.char.toNat
      else .error ⟨.unicodeNotAllowed, l.span.start⟩

/-- The set that an operation makes of two, case variants added to both
first if case does not count. -/
def applySetOp (f : Setting) (kind : SetOp) (lhs rhs : SymbolSet) : SymbolSet :=
  let prepare (s : SymbolSet) := if f.caseless then s.caseFold f.alphabet else s.joined
  match kind with
  | .intersection => (prepare lhs).inter (prepare rhs)
  | .difference => (prepare lhs).diff f.alphabet (prepare rhs)
  | .symmetricDifference => (prepare lhs).symmDiff f.alphabet (prepare rhs)

mutual

/-- The members of what stands between brackets. -/
def classMembers (f : Setting) : ClassSet → Except SyntaxError SymbolSet
  | .empty _ => .ok .empty
  | .literal l => do
    let n ← classSymbol f l
    return .interval n n
  | .range _ lo hi => do
    let first ← classSymbol f lo
    let last ← classSymbol f hi
    return .ofIntervals [(Nat.min first last, Nat.max first last)]
  | .ascii c => .ok (asciiSet f c)
  | .property c => propertySet f c
  | .shorthand c => .ok (shorthandSet f c)
  | .bracketed _ negated inner => do
    return foldThenNegate f negated (← classMembers f inner)
  | .union _ items => do
    return .ofIntervals (← unionMembers f items)
  | .op _ kind lhs rhs => do
    let s ← classMembers f lhs
    let t ← classMembers f rhs
    return applySetOp f kind s t

/-- The members of several sets, as intervals in no order. -/
def unionMembers (f : Setting) : List ClassSet → Except SyntaxError (List (Nat × Nat))
  | [] => .ok []
  | set :: sets => do
    let s ← classMembers f set
    let rest ← unionMembers f sets
    return s.intervals ++ rest

end

/-! ## Single items -/

/-- The expression of a literal. Where case does not count it is the set of
the variants of its symbol, if there are any. -/
def literalRegex (f : Setting) (l : Literal) : Regex :=
  let plain :=
    match l.byte? with
    | some b => if !f.unicode && 0x80 ≤ b then [b] else Text.encodeChar l.char
    | none => Text.encodeChar l.char
  let foldable := f.unicode || l.char.toNat < 128
  if f.caseless && foldable then
    let single := SymbolSet.interval l.char.toNat l.char.toNat
    let folded := single.caseFold f.alphabet
    if folded = single then ofBytes plain else ofSet f.alphabet folded
  else ofBytes plain

/-- The symbols that any-character does not match. -/
def lineEnds (f : Setting) : List (Nat × Nat) :=
  if f.dotAll then [] else if f.crlf then [(0x0A, 0x0A), (0x0D, 0x0D)] else [(0x0A, 0x0A)]

/-- The expression of any-character. -/
def dotRegex (f : Setting) : Regex :=
  ofSet f.alphabet (SymbolSet.compl f.alphabet ⟨lineEnds f⟩)

/-- The assertion that a written one means. -/
def lookOf (f : Setting) (kind : AssertionKind) : Look :=
  match kind with
  | .startLine => if f.multiLine then (if f.crlf then .startLineCrlf else .startLine) else .start
  | .endLine => if f.multiLine then (if f.crlf then .stopLineCrlf else .stopLine) else .stop
  | .startText => .start
  | .endText => .stop
  | .wordBoundary => if f.unicode then .wordUnicode else .wordAscii
  | .notWordBoundary => if f.unicode then .wordUnicodeNegate else .wordAsciiNegate
  | .wordStart | .wordStartAngle => if f.unicode then .wordStartUnicode else .wordStartAscii
  | .wordEnd | .wordEndAngle => if f.unicode then .wordEndUnicode else .wordEndAscii
  | .wordStartHalf => if f.unicode then .wordStartHalfUnicode else .wordStartHalfAscii
  | .wordEndHalf => if f.unicode then .wordEndHalfUnicode else .wordEndHalfAscii

/-- The expression that a group makes of its inside. -/
def groupRegex (kind : GroupKind) (sub : Regex) : Regex :=
  match kind with
  | .numbered index => .capture index none sub
  | .named index _ name => .capture index (some name) sub
  | .plain _ _ => sub

/-! ## Trees -/

mutual

/-- The expression of a tree under a setting, and the setting behind it. -/
def ofTree (f : Setting) : Tree → Except SyntaxError (Regex × Setting)
  | .empty _ => .ok (.empty, f)
  | .flags _ _ items => .ok (.empty, f.withFlags items)
  | .literal l => .ok (literalRegex f l, f)
  | .dot _ => .ok (dotRegex f, f)
  | .assertion _ kind => .ok (.look (lookOf f kind), f)
  | .shorthand c => .ok (ofSet f.alphabet (shorthandSet f c), f)
  | .property c => do return (ofSet f.alphabet (← propertySet f c), f)
  | .bracketed _ negated set => do
    return (ofSet f.alphabet (foldThenNegate f negated (← classMembers f set)), f)
  | .repetition _ _ kind greedy sub => do
    -- Flags set inside stay set behind: only groups restore them.
    let (r, f') ← ofTree f sub
    let (min, max) := kind.counts
    return (ofRepetition min max (greedy != f'.swapGreed) r, f')
  | .group _ kind sub => do
    let inside := (kind.flags?.map f.withFlags).getD f
    let (r, _) ← ofTree inside sub
    return (groupRegex kind r, f)
  | .alternation _ ts => do
    let (rs, f') ← ofTrees f ts
    return (ofAlternation rs, f')
  | .concat _ ts => do
    let (rs, f') ← ofTrees f ts
    return (ofConcat rs, f')

/-- The expressions of several trees, each under the setting behind the one
before it. -/
def ofTrees (f : Setting) : List Tree → Except SyntaxError (List Regex × Setting)
  | [] => .ok ([], f)
  | t :: ts => do
    let (r, f) ← ofTree f t
    let (rs, f) ← ofTrees f ts
    return (r :: rs, f)

end

end Multiscan.Regex
