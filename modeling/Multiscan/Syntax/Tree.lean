/-!
# Syntax — the tree of a pattern

The tree of a pattern as it was written, before any flag is applied: every
node knows the byte offsets between which it stands. Bracketed classes have
a tree of their own, in which nested brackets, unions and set operations
are nodes too.
-/

namespace Multiscan.Syntax

/-- The bytes of a pattern from `start` up to, not including, `stop`. -/
structure Span where
  start : Nat
  stop : Nat
  deriving DecidableEq, Repr, Inhabited

/-- How a literal character was written. -/
inductive LiteralForm
  /-- The character itself. -/
  | verbatim
  /-- The character after a backslash. -/
  | escaped
  /-- A letter after a backslash that names a control character. -/
  | control
  /-- Two hexadecimal digits, which can also stand for a byte. -/
  | hexByte
  /-- Hexadecimal digits in any other form. -/
  | hexCode
  deriving DecidableEq, Repr

/-- A character that stands for itself. -/
structure Literal where
  span : Span
  form : LiteralForm
  char : Char
  deriving DecidableEq, Repr

/-- The byte a literal can stand for when characters are bytes. -/
def Literal.byte? (l : Literal) : Option UInt8 :=
  if l.form = .hexByte then some (UInt8.ofNat l.char.toNat) else none

/-- What a shorthand class holds. -/
inductive ShorthandKind
  | digit
  | space
  | word
  deriving DecidableEq, Repr

/-- A shorthand class: `\d`, `\s`, `\w` or, negated, `\D`, `\S`, `\W`. -/
structure Shorthand where
  span : Span
  kind : ShorthandKind
  negated : Bool
  deriving DecidableEq, Repr

/-- The ASCII classes that have a name. -/
inductive AsciiKind
  | alnum | alpha | ascii | blank | cntrl | digit | graph
  | lower | print | punct | space | upper | word | xdigit
  deriving DecidableEq, Repr

/-- A named ASCII class such as `[:alpha:]` or, negated, `[:^alpha:]`. -/
structure AsciiClass where
  span : Span
  kind : AsciiKind
  negated : Bool
  deriving DecidableEq, Repr

/-- The relation sign between a property and its value. -/
inductive PropertySign
  | equal
  | colon
  | notEqual
  deriving DecidableEq, Repr

/-- What a property class asks for. -/
inductive PropertyQuery
  /-- `\pL`: a name of one letter. -/
  | letter (c : Char)
  /-- `\p{Greek}`: a name. -/
  | named (name : String)
  /-- `\p{sc=Greek}`: a property and its value. -/
  | valued (sign : PropertySign) (name value : String)
  deriving DecidableEq, Repr

/-- A property class. -/
structure PropertyClass where
  span : Span
  negated : Bool
  query : PropertyQuery
  deriving DecidableEq, Repr

/-- Whether a property class stands for the characters that its query does
not ask for. An unequal sign negates it, once more if it is negated already. -/
def PropertyClass.excludes (c : PropertyClass) : Bool :=
  match c.query with
  | .valued .notEqual _ _ => !c.negated
  | _ => c.negated

/-- The operations on sets inside brackets. -/
inductive SetOp
  | intersection
  | difference
  | symmetricDifference
  deriving DecidableEq, Repr

/-- What stands between the brackets of a class. -/
inductive ClassSet
  | empty (span : Span)
  | literal (l : Literal)
  | range (span : Span) (lo hi : Literal)
  | ascii (c : AsciiClass)
  | property (c : PropertyClass)
  | shorthand (c : Shorthand)
  | bracketed (span : Span) (negated : Bool) (inner : ClassSet)
  | union (span : Span) (items : List ClassSet)
  | op (span : Span) (kind : SetOp) (lhs rhs : ClassSet)
  deriving Repr

/-- Where a class set stands. -/
def ClassSet.span : ClassSet → Span
  | .empty s => s
  | .literal l => l.span
  | .range s _ _ => s
  | .ascii c => c.span
  | .property c => c.span
  | .shorthand c => c.span
  | .bracketed s _ _ => s
  | .union s _ => s
  | .op s _ _ _ => s

/-- Assertions about a position, as written. -/
inductive AssertionKind
  /-- `^` -/
  | startLine
  /-- `$` -/
  | endLine
  /-- `\A` -/
  | startText
  /-- `\z` -/
  | endText
  /-- `\b` -/
  | wordBoundary
  /-- `\B` -/
  | notWordBoundary
  /-- `\b{start}` -/
  | wordStart
  /-- `\b{end}` -/
  | wordEnd
  /-- `\<` -/
  | wordStartAngle
  /-- `\>` -/
  | wordEndAngle
  /-- `\b{start-half}` -/
  | wordStartHalf
  /-- `\b{end-half}` -/
  | wordEndHalf
  deriving DecidableEq, Repr

/-- The flags that can be set inside a pattern. -/
inductive InlineFlag
  /-- `i` -/
  | caseless
  /-- `m` -/
  | multiLine
  /-- `s` -/
  | dotAll
  /-- `U` -/
  | swapGreed
  /-- `u` -/
  | unicode
  /-- `R` -/
  | crlf
  /-- `x` -/
  | verbose
  deriving DecidableEq, Repr

/-- One item of a flag list: a flag, or the sign that negates those after
it. -/
inductive FlagItemKind
  | negation
  | flag (f : InlineFlag)
  deriving DecidableEq, Repr

/-- A flag item with its place. -/
structure FlagItem where
  span : Span
  kind : FlagItemKind
  deriving DecidableEq, Repr

/-- What a flag list says about one flag, if anything. -/
def flagState (items : List FlagItem) (f : InlineFlag) : Option Bool :=
  go false items
where
  /-- `negated` tells whether the sign has been passed. -/
  go (negated : Bool) : List FlagItem → Option Bool
    | [] => none
    | ⟨_, .negation⟩ :: rest => go true rest
    | ⟨_, .flag g⟩ :: rest => if g = f then some (!negated) else go negated rest

/-- How a group was opened. -/
inductive GroupKind
  /-- A capture group with its number. -/
  | numbered (index : Nat)
  /-- A capture group with its number and a name at a place. -/
  | named (index : Nat) (nameSpan : Span) (name : String)
  /-- A group that does not capture, with flags for its inside. -/
  | plain (flagSpan : Span) (flags : List FlagItem)
  deriving DecidableEq, Repr

/-- The flags a group sets for its inside, if it is of the kind that can. -/
def GroupKind.flags? : GroupKind → Option (List FlagItem)
  | .plain _ items => some items
  | _ => none

/-- How often a repetition repeats. -/
inductive RepetitionKind
  /-- `?` -/
  | zeroOrOne
  /-- `*` -/
  | zeroOrMore
  /-- `+` -/
  | oneOrMore
  /-- `{n}` -/
  | exactly (n : Nat)
  /-- `{n,}` -/
  | atLeast (n : Nat)
  /-- `{n,m}` -/
  | bounded (n m : Nat)
  deriving DecidableEq, Repr

/-- The least and the greatest count, without bound if there is none. -/
def RepetitionKind.counts : RepetitionKind → Nat × Option Nat
  | .zeroOrOne => (0, some 1)
  | .zeroOrMore => (0, none)
  | .oneOrMore => (1, none)
  | .exactly n => (n, some n)
  | .atLeast n => (n, none)
  | .bounded n m => (n, some m)

/-- The tree of a pattern. -/
inductive Tree
  | empty (span : Span)
  | flags (span : Span) (flagSpan : Span) (items : List FlagItem)
  | literal (l : Literal)
  | dot (span : Span)
  | assertion (span : Span) (kind : AssertionKind)
  | shorthand (c : Shorthand)
  | property (c : PropertyClass)
  | bracketed (span : Span) (negated : Bool) (set : ClassSet)
  | repetition (span : Span) (opSpan : Span) (kind : RepetitionKind) (greedy : Bool) (sub : Tree)
  | group (span : Span) (kind : GroupKind) (sub : Tree)
  | alternation (span : Span) (alternatives : List Tree)
  | concat (span : Span) (parts : List Tree)
  deriving Repr

/-- Where a tree stands. -/
def Tree.span : Tree → Span
  | .empty s => s
  | .flags s _ _ => s
  | .literal l => l.span
  | .dot s => s
  | .assertion s _ => s
  | .shorthand c => c.span
  | .property c => c.span
  | .bracketed s _ _ => s
  | .repetition s _ _ _ _ => s
  | .group s _ _ => s
  | .alternation s _ => s
  | .concat s _ => s

end Multiscan.Syntax
