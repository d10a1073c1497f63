import Multiscan.Proofs.Syntax.Reader
import Multiscan.Syntax.AsciiClasses
/-!
# Syntax — repetitions that are read can be carried out

The counts of a repetition are refused if the least is above the greatest. So
every repetition in a tree that comes out of the reader is one that was not
refused (`counted_ofPattern?`), and rewriting the tree adds none.
-/

namespace Multiscan

namespace Syntax

mutual

/-- Every repetition in a tree can be carried out. -/
def Tree.Counted : Tree → Prop
  | .repetition _ _ kind _ sub => kind.isValid = true ∧ sub.Counted
  | .group _ _ sub => sub.Counted
  | .alternation _ ts => Tree.AllCounted ts
  | .concat _ ts => Tree.AllCounted ts
  | _ => True

/-- The same for several trees. -/
def Tree.AllCounted : List Tree → Prop
  | [] => True
  | t :: ts => t.Counted ∧ Tree.AllCounted ts

end

theorem Tree.allCounted_iff {ts : List Tree} : Tree.AllCounted ts ↔ ∀ t ∈ ts, t.Counted := by
  induction ts with
  | nil => exact ⟨fun _ t ht => (nomatch ht), fun _ => trivial⟩
  | cons t ts ih => rw [Tree.AllCounted, ih, List.forall_mem_cons]

/-! ## Reading -/

/-- A class has no repetition in it, whatever else it has. -/
theorem keptInside_true : KeptInside fun _ => True where
  empty _ := trivial
  verbatim _ _ := trivial
  atom _ _ := trivial
  range _ _ _ _ _ := trivial
  ascii _ := trivial
  bracketed _ _ _ _ := trivial
  union _ _ _ := trivial
  op _ _ _ _ _ _ := trivial

/-- **Reading keeps all trees counted**: a repetition is refused where it is
made. -/
theorem kept_counted : Kept Tree.Counted where
  empty _ := trivial
  flags _ _ _ := trivial
  atom a := by
    cases a <;> trivial
  bracketed h := by
    obtain ⟨span, negated, set, rfl, -⟩ := keptInside_true.bracketedClass h
    trivial
  repetition _ _ _ _ _ hkind h := ⟨hkind, h⟩
  group _ _ _ h := h
  alternation _ _ h := Tree.allCounted_iff.2 h
  concat _ _ h := Tree.allCounted_iff.2 h

/-- **A pattern that is read** has repetitions that can be carried out. -/
theorem counted_ofPattern? {pattern : List Char} {t : Tree}
    (h : Tree.ofPattern? pattern = .ok t) : t.Counted :=
  kept_counted.ofPattern? h

/-! ## Rewriting -/

mutual

theorem counted_toAscii : (t : Tree) → t.Counted → t.toAscii.Counted
  | .empty _, _ | .flags _ _ _, _ | .literal _, _ | .dot _, _ | .property _, _ => trivial
  | .shorthand _, _ | .bracketed _ _ _, _ => trivial
  | .assertion _ kind, _ => by
    cases kind <;> trivial
  | .repetition _ _ _ _ sub, h => ⟨h.1, counted_toAscii sub h.2⟩
  | .group _ _ sub, h => counted_toAscii sub h
  | .alternation _ ts, h => counted_allToAscii ts h
  | .concat _ ts, h => counted_allToAscii ts h

theorem counted_allToAscii : (ts : List Tree) → Tree.AllCounted ts →
    Tree.AllCounted (Tree.allToAscii ts)
  | [], _ => trivial
  | t :: ts, h => ⟨counted_toAscii t h.1, counted_allToAscii ts h.2⟩

end

end Syntax

end Multiscan
