import Multiscan.Syntax.Escape
import Multiscan.Syntax.Group
import Multiscan.Syntax.AsciiClasses
/-!
# Syntax — trees without their places

Every node of a tree knows where in the pattern it stands. A tree is bare
(`Tree.bare`) when all of its places are the start of the pattern, so two trees
are the same but for where they stand if their bare trees are. What is replaced
to keep classes in ASCII does not depend on places (`Tree.bare_toAscii`), nor
does what a flag list says (`flagState_bare`).
-/

namespace Multiscan.Syntax

/-- The place that stands for any. -/
def Span.origin : Span := ⟨0, 0⟩

namespace Literal

/-- A literal wherever it stands. -/
def bare (l : Literal) : Literal := { l with span := .origin }

@[simp] theorem bare_char (l : Literal) : l.bare.char = l.char := rfl

theorem char_of_bare {l l' : Literal} (h : l'.bare = l.bare) : l'.char = l.char := by
  rw [← bare_char, h, bare_char]

@[simp] theorem bare_byte? (l : Literal) : l.bare.byte? = l.byte? := rfl

end Literal

namespace Shorthand

/-- A shorthand class wherever it stands. -/
def bare (c : Shorthand) : Shorthand := { c with span := .origin }

end Shorthand

namespace AsciiClass

/-- A named class wherever it stands. -/
def bare (c : AsciiClass) : AsciiClass := { c with span := .origin }

end AsciiClass

namespace PropertyClass

/-- A property class wherever it stands. -/
def bare (c : PropertyClass) : PropertyClass := { c with span := .origin }

end PropertyClass

namespace FlagItem

/-- A flag item wherever it stands. -/
def bare (i : FlagItem) : FlagItem := { i with span := .origin }

end FlagItem

/-- What a flag list says does not depend on where it stands. -/
@[simp] theorem flagState_bare (items : List FlagItem) (f : InlineFlag) :
    flagState (items.map FlagItem.bare) f = flagState items f := by
  suffices h : ∀ negated, flagState.go f negated (items.map FlagItem.bare) =
      flagState.go f negated items from h false
  induction items with
  | nil => exact fun _ => rfl
  | cons item items ih =>
    intro negated
    rcases item with ⟨s, kind⟩
    cases kind with
    | negation => exact ih true
    | flag g => simp only [List.map_cons, FlagItem.bare, flagState.go, ih]

theorem flagState_of_bare {items items' : List FlagItem}
    (h : items'.map FlagItem.bare = items.map FlagItem.bare) (f : InlineFlag) :
    flagState items' f = flagState items f := by
  rw [← flagState_bare, h, flagState_bare]

/-- The way a group was opened, wherever it stands. -/
def GroupKind.bare : GroupKind → GroupKind
  | .numbered index => .numbered index
  | .named index _ name => .named index .origin name
  | .plain _ items => .plain .origin (items.map FlagItem.bare)

@[simp] theorem GroupKind.flags?_bare (kind : GroupKind) :
    kind.bare.flags? = kind.flags?.map (·.map FlagItem.bare) := by
  cases kind <;> rfl

/-- What a group says about a flag does not depend on where it stands. -/
theorem GroupKind.state_of_bare {kind kind' : GroupKind} (h : kind'.bare = kind.bare)
    (f : InlineFlag) :
    kind'.flags?.bind (flagState · f) = kind.flags?.bind (flagState · f) := by
  have hbare (kind : GroupKind) :
      kind.bare.flags?.bind (flagState · f) = kind.flags?.bind (flagState · f) := by
    cases kind with
    | plain _ items => exact flagState_bare items f
    | _ => rfl
  rw [← hbare, h, hbare]

/-- What an opening parenthesis introduces, wherever it stands. -/
def Opening.bare : Opening → Opening
  | .flags _ _ items => .flags .origin .origin (items.map FlagItem.bare)
  | .group _ kind => .group 0 kind.bare

/-- An atom wherever it stands. -/
def Atom.bare : Atom → Atom
  | .literal l => .literal l.bare
  | .assertion _ kind => .assertion .origin kind
  | .dot _ => .dot .origin
  | .shorthand c => .shorthand c.bare
  | .property c => .property c.bare

/-! ## Class sets -/

mutual

/-- What stands between brackets, wherever it stands. -/
def ClassSet.bare : ClassSet → ClassSet
  | .empty _ => .empty .origin
  | .literal l => .literal l.bare
  | .range _ lo hi => .range .origin lo.bare hi.bare
  | .ascii c => .ascii c.bare
  | .property c => .property c.bare
  | .shorthand c => .shorthand c.bare
  | .bracketed _ negated inner => .bracketed .origin negated inner.bare
  | .union _ items => .union .origin (ClassSet.allBare items)
  | .op _ kind lhs rhs => .op .origin kind lhs.bare rhs.bare

/-- The same for every set of a list. -/
def ClassSet.allBare : List ClassSet → List ClassSet
  | [] => []
  | set :: sets => set.bare :: ClassSet.allBare sets

end

@[simp] theorem ClassSet.allBare_eq_map (sets : List ClassSet) :
    ClassSet.allBare sets = sets.map ClassSet.bare := by
  induction sets with
  | nil => rfl
  | cons set sets ih => rw [ClassSet.allBare, ih, List.map_cons]

mutual

/-- Replacing shorthand classes does not look at places. -/
theorem ClassSet.bare_toAscii : (set : ClassSet) → set.toAscii.bare = set.bare.toAscii
  | .empty _ | .literal _ | .range _ _ _ | .ascii _ | .property _ | .shorthand _ => rfl
  | .bracketed _ _ inner => by
    simp only [ClassSet.toAscii, ClassSet.bare, ClassSet.bare_toAscii inner]
  | .union _ items => by
    simp only [ClassSet.toAscii, ClassSet.bare, ClassSet.allBare_toAscii items]
  | .op _ _ lhs rhs => by
    simp only [ClassSet.toAscii, ClassSet.bare, ClassSet.bare_toAscii lhs,
      ClassSet.bare_toAscii rhs]

theorem ClassSet.allBare_toAscii : (sets : List ClassSet) →
    ClassSet.allBare (ClassSet.allToAscii sets) = ClassSet.allToAscii (ClassSet.allBare sets)
  | [] => rfl
  | set :: sets => by
    rw [ClassSet.allToAscii, ClassSet.allBare, ClassSet.allBare, ClassSet.allToAscii,
      ClassSet.bare_toAscii set, ClassSet.allBare_toAscii sets]

end

/-! ## Trees -/

mutual

/-- A tree wherever it stands. -/
def Tree.bare : Tree → Tree
  | .empty _ => .empty .origin
  | .flags _ _ items => .flags .origin .origin (items.map FlagItem.bare)
  | .literal l => .literal l.bare
  | .dot _ => .dot .origin
  | .assertion _ kind => .assertion .origin kind
  | .shorthand c => .shorthand c.bare
  | .property c => .property c.bare
  | .bracketed _ negated set => .bracketed .origin negated set.bare
  | .repetition _ _ kind greedy sub => .repetition .origin .origin kind greedy sub.bare
  | .group _ kind sub => .group .origin kind.bare sub.bare
  | .alternation _ ts => .alternation .origin (Tree.allBare ts)
  | .concat _ ts => .concat .origin (Tree.allBare ts)

/-- The same for every tree of a list. -/
def Tree.allBare : List Tree → List Tree
  | [] => []
  | t :: ts => t.bare :: Tree.allBare ts

end

@[simp] theorem Tree.allBare_eq_map (ts : List Tree) : Tree.allBare ts = ts.map Tree.bare := by
  induction ts with
  | nil => rfl
  | cons t ts ih => rw [Tree.allBare, ih, List.map_cons]

mutual

/-- **Replacing shorthand classes and word boundaries** does not look at places. -/
theorem Tree.bare_toAscii : (t : Tree) → t.toAscii.bare = t.bare.toAscii
  | .empty _ | .flags _ _ _ | .literal _ | .dot _ | .shorthand _ | .property _ => rfl
  | .assertion _ kind => by cases kind <;> rfl
  | .bracketed _ _ set => by
    simp only [Tree.toAscii, Tree.bare, ClassSet.bare_toAscii set]
  | .repetition _ _ _ _ sub => by
    simp only [Tree.toAscii, Tree.bare, Tree.bare_toAscii sub]
  | .group _ _ sub => by
    simp only [Tree.toAscii, Tree.bare, Tree.bare_toAscii sub]
  | .alternation _ ts => by
    rw [Tree.toAscii, Tree.bare, Tree.bare, Tree.toAscii, Tree.allBare_toAscii ts]
  | .concat _ ts => by
    rw [Tree.toAscii, Tree.bare, Tree.bare, Tree.toAscii, Tree.allBare_toAscii ts]

theorem Tree.allBare_toAscii : (ts : List Tree) →
    Tree.allBare (Tree.allToAscii ts) = Tree.allToAscii (Tree.allBare ts)
  | [] => rfl
  | t :: ts => by
    rw [Tree.allToAscii, Tree.allBare, Tree.allBare, Tree.allToAscii, Tree.bare_toAscii t,
      Tree.allBare_toAscii ts]

end

/-- The tree of an atom stands where the atom does. -/
theorem Atom.bare_toTree (a : Atom) : a.toTree.bare = a.bare.toTree := by
  cases a <;> rfl

end Multiscan.Syntax
