import Multiscan.Syntax.Tree
/-!
# Syntax — shorthand classes as ASCII classes

In a pattern for characters whose classes are to stay ASCII, every
shorthand class is replaced by the named ASCII class of the same kind, and
every `\b` and `\B` by a group in which characters are bytes. Nothing else
in the tree changes.
-/

namespace Multiscan.Syntax

/-- The named class of the same kind as a shorthand. -/
def ShorthandKind.toAscii : ShorthandKind → AsciiKind
  | .digit => .digit
  | .space => .space
  | .word => .word

/-- The named ASCII class that a shorthand class becomes. -/
def Shorthand.toAscii (c : Shorthand) : AsciiClass := ⟨c.span, c.kind.toAscii, c.negated⟩

mutual

/-- A class set with its shorthand classes replaced, at any depth. -/
def ClassSet.toAscii : ClassSet → ClassSet
  | .shorthand c => .ascii c.toAscii
  | .bracketed s negated inner => .bracketed s negated inner.toAscii
  | .union s items => .union s (ClassSet.allToAscii items)
  | .op s kind lhs rhs => .op s kind lhs.toAscii rhs.toAscii
  | set => set

/-- The same for every set of a list. -/
def ClassSet.allToAscii : List ClassSet → List ClassSet
  | [] => []
  | set :: sets => set.toAscii :: ClassSet.allToAscii sets

end

/-- A group around a node that stands at `s`, in which characters are
bytes. -/
def byteGroup (s : Span) (sub : Tree) : Tree :=
  .group s (.plain s [⟨s, .negation⟩, ⟨s, .flag .unicode⟩]) sub

mutual

/-- A tree with its shorthand classes and plain word boundaries replaced. -/
def Tree.toAscii : Tree → Tree
  | .shorthand c => .bracketed c.span false (.ascii c.toAscii)
  | .assertion s .wordBoundary => byteGroup s (.assertion s .wordBoundary)
  | .assertion s .notWordBoundary => byteGroup s (.assertion s .notWordBoundary)
  | .bracketed s negated set => .bracketed s negated set.toAscii
  | .repetition s opSpan kind greedy sub => .repetition s opSpan kind greedy sub.toAscii
  | .group s kind sub => .group s kind sub.toAscii
  | .alternation s ts => .alternation s (Tree.allToAscii ts)
  | .concat s ts => .concat s (Tree.allToAscii ts)
  | t => t

/-- The same for every tree of a list. -/
def Tree.allToAscii : List Tree → List Tree
  | [] => []
  | t :: ts => t.toAscii :: Tree.allToAscii ts

end

end Multiscan.Syntax
