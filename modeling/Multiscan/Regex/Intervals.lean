import Multiscan.Unicode.CaseFolding
import Multiscan.Unicode.Word
/-!
# Regex — sets of symbols as intervals

The symbols of a pattern are bytes or characters. A set of symbols is kept
as closed intervals of numbers in ascending order that do not overlap. In a
joined set no two of them touch either; only such sets are complemented. The
numbers of surrogates stand for nothing: the successor of the last character
before them is the first after them. They do separate intervals, though: one
that ends right before them does not touch one that starts right after.
-/

namespace Multiscan.Regex

/-- What the numbers in a set stand for. -/
inductive Alphabet
  | byte
  | character
  deriving DecidableEq, Repr

/-- The greatest symbol. -/
def Alphabet.last : Alphabet → Nat
  | .byte => 0xFF
  | .character => 0x10FFFF

/-- The symbol after a symbol. -/
def Alphabet.succ (a : Alphabet) (n : Nat) : Nat :=
  if a = .character ∧ n = 0xD7FF then 0xE000 else n + 1

/-- The symbol before a symbol. -/
def Alphabet.pred (a : Alphabet) (n : Nat) : Nat :=
  if a = .character ∧ n = 0xE000 then 0xD7FF else n - 1

/-- A set of symbols. -/
structure SymbolSet where
  intervals : List (Nat × Nat)
  deriving DecidableEq, Repr

namespace SymbolSet

/-- The set without members. -/
def empty : SymbolSet := ⟨[]⟩

/-- Membership. -/
def contains (s : SymbolSet) (n : Nat) : Bool :=
  s.intervals.any fun r => decide (r.1 ≤ n) && decide (n ≤ r.2)

/-- Intervals in ascending order of their starts, with those that overlap
or touch joined; `current` is the one that may still grow. -/
def join (current : Nat × Nat) : List (Nat × Nat) → List (Nat × Nat)
  | [] => [current]
  | r :: rest =>
    if r.1 ≤ current.2 + 1 then join (current.1, max current.2 r.2) rest
    else current :: join r rest

/-- The set whose members are those of the given intervals. -/
def ofIntervals (intervals : List (Nat × Nat)) : SymbolSet :=
  match intervals.mergeSort (fun a b => decide (a.1 ≤ b.1)) with
  | [] => empty
  | r :: rest => ⟨join r rest⟩

/-- What an interval of code points holds of characters, if anything. -/
def charactersIn (r : Nat × Nat) : Option (Nat × Nat) :=
  let isSurrogate (n : Nat) : Bool := 0xD800 ≤ n && n ≤ 0xDFFF
  let lo := if isSurrogate r.1 then 0xE000 else r.1
  let hi := if isSurrogate r.2 then 0xD7FF else Nat.min r.2 0x10FFFF
  if lo ≤ hi then some (lo, hi) else none

/-- The set of the characters among code points. Tables of code points may
list surrogates, which are no characters. -/
def ofCodePoints (intervals : List (Nat × Nat)) : SymbolSet :=
  ⟨(ofIntervals intervals).intervals.filterMap charactersIn⟩

/-- The same members in intervals that do not touch. -/
def joined (s : SymbolSet) : SymbolSet := ofIntervals s.intervals

/-- The set of one interval. -/
def interval (lo hi : Nat) : SymbolSet := ⟨[(lo, hi)]⟩

/-- The members of either. -/
def union (s t : SymbolSet) : SymbolSet := ofIntervals (s.intervals ++ t.intervals)

/-- What two intervals have in common. -/
def overlap? (r q : Nat × Nat) : Option (Nat × Nat) :=
  let lo := max r.1 q.1
  let hi := min r.2 q.2
  if lo ≤ hi then some (lo, hi) else none

/-- The members of both. -/
def inter (s t : SymbolSet) : SymbolSet :=
  ⟨s.intervals.flatMap fun r => t.intervals.filterMap (overlap? r)⟩

/-- The interval that two symbols bound, in whichever order they come. -/
def bounded (m n : Nat) : Nat × Nat := (min m n, max m n)

/-- The intervals behind the one that ends at `stop`: those between two of
the given ones, and what is left behind the last. -/
def gaps (a : Alphabet) (stop : Nat) : List (Nat × Nat) → List (Nat × Nat)
  | [] => if stop < a.last then [(a.succ stop, a.last)] else []
  | r :: rest => bounded (a.succ stop) (a.pred r.1) :: gaps a r.2 rest

/-- The symbols that are no members. Two intervals always count as having
something between them: if one ends and the next starts on either side of
the surrogates, it is these two symbols. -/
def compl (a : Alphabet) (s : SymbolSet) : SymbolSet :=
  match s.intervals with
  | [] => ⟨[(0, a.last)]⟩
  | r :: rest =>
    ⟨if 0 < r.1 then (0, a.pred r.1) :: gaps a r.2 rest else gaps a r.2 rest⟩

/-- What is left of an interval without the symbols of intervals in
ascending order. -/
def cut (a : Alphabet) (r : Nat × Nat) : List (Nat × Nat) → List (Nat × Nat)
  | [] => [r]
  | q :: rest =>
    if q.2 < r.1 then cut a r rest
    else if r.2 < q.1 then [r]
    else
      let before := if r.1 < q.1 then [(r.1, a.pred q.1)] else []
      if q.2 < r.2 then before ++ cut a (a.succ q.2, r.2) rest else before

/-- The members of the first that are no members of the second. -/
def diff (a : Alphabet) (s t : SymbolSet) : SymbolSet :=
  ⟨s.intervals.flatMap fun r => cut a r t.intervals⟩

/-- The members of exactly one of the two. -/
def symmDiff (a : Alphabet) (s t : SymbolSet) : SymbolSet := (s.union t).diff a (s.inter t)

/-- Letters of ASCII in both cases, where one of them is a member. -/
def otherCase (s : SymbolSet) : List (Nat × Nat) :=
  let moved (lo hi shift : Nat) (up : Bool) :=
    s.intervals.filterMap fun r =>
      (overlap? r (lo, hi)).map fun q =>
        if up then (q.1 + shift, q.2 + shift) else (q.1 - shift, q.2 - shift)
  moved 0x61 0x7A 32 false ++ moved 0x41 0x5A 32 true

/-- The set with the case variants of its members. -/
def caseFold (a : Alphabet) (s : SymbolSet) : SymbolSet :=
  match a with
  | .byte => ofIntervals (s.intervals ++ s.otherCase)
  | .character =>
    let classes := Unicode.caseVariants.filter fun c => c.any s.contains
    ofIntervals (s.intervals ++ classes.flatMap fun c => c.map fun n => (n, n))

/-- Whether every member is in ASCII. -/
def isAscii (s : SymbolSet) : Bool := s.intervals.all fun r => decide (r.2 ≤ 0x7F)

end SymbolSet

end Multiscan.Regex
