import Multiscan.Proofs.Syntax.BehindFlags
import Multiscan.Regex.OfTree
/-!
# Regex — a meaning does not depend on places

The places in a tree are there for what is said when it has no meaning. So trees
that are the same but for their places mean the same (`meaning_bare`).
-/

namespace Multiscan

/-- What is made of a result that there is. -/
theorem toOption_bind {ε α β : Type} (x : Except ε α) (f : α → Except ε β) :
    (x >>= f).toOption = x.toOption.bind fun a => (f a).toOption := by
  cases x <;> rfl

namespace Regex

open Syntax

variable {f : Setting}

/-! ## Classes -/

theorem classSymbol_bare (l : Literal) :
    (classSymbol f l.bare).toOption = (classSymbol f l).toOption := by
  unfold classSymbol
  rw [Literal.bare_byte?, Literal.bare_char]
  split
  · rfl
  · split
    · rfl
    · split <;> rfl

theorem propertySet_bare (c : PropertyClass) :
    (propertySet f c.bare).toOption = (propertySet f c).toOption := by
  have hquery : c.bare.query = c.query := rfl
  have hexcludes : c.bare.excludes = c.excludes := rfl
  unfold propertySet
  rw [hquery, hexcludes]
  split
  · split <;> rfl
  · rfl

mutual

/-- The members of a class do not depend on where it stands. -/
theorem classMembers_bare : (set : ClassSet) →
    (classMembers f set.bare).toOption = (classMembers f set).toOption
  | .empty _ | .ascii _ | .shorthand _ => rfl
  | .literal l => by
    simp only [ClassSet.bare, classMembers, toOption_bind, classSymbol_bare l]
  | .range _ lo hi => by
    simp only [ClassSet.bare, classMembers, toOption_bind, classSymbol_bare lo,
      classSymbol_bare hi]
  | .property c => propertySet_bare c
  | .bracketed _ _ inner => by
    simp only [ClassSet.bare, classMembers, toOption_bind, classMembers_bare inner]
  | .union _ items => by
    simp only [ClassSet.bare, classMembers, toOption_bind, unionMembers_bare items]
  | .op _ _ lhs rhs => by
    simp only [ClassSet.bare, classMembers, toOption_bind, classMembers_bare lhs,
      classMembers_bare rhs]

theorem unionMembers_bare : (sets : List ClassSet) →
    (unionMembers f (ClassSet.allBare sets)).toOption = (unionMembers f sets).toOption
  | [] => rfl
  | set :: sets => by
    rw [ClassSet.allBare]
    simp only [unionMembers, toOption_bind, classMembers_bare set, unionMembers_bare sets]

end

/-! ## Trees -/

/-- The expression of a tree under a setting and the setting behind it, if the tree
has a meaning. -/
def meaning (f : Setting) (t : Tree) : Option (Regex × Setting) := (ofTree f t).toOption

/-- The same for several trees, one behind the other. -/
def meanings (f : Setting) (ts : List Tree) : Option (List Regex × Setting) :=
  (ofTrees f ts).toOption

theorem meaning_repetition (s opSpan : Span) (kind : RepetitionKind) (greedy : Bool) (sub : Tree) :
    meaning f (.repetition s opSpan kind greedy sub) = (meaning f sub).map fun m =>
      (ofRepetition kind.counts.1 kind.counts.2 (greedy != m.2.swapGreed) m.1, m.2) := by
  unfold meaning
  rw [ofTree]
  cases ofTree f sub <;> rfl

theorem meaning_group (s : Span) (kind : GroupKind) (sub : Tree) :
    meaning f (.group s kind sub) =
      (meaning ((kind.flags?.map f.withFlags).getD f) sub).map fun m =>
        (groupRegex kind m.1, f) := by
  unfold meaning
  rw [ofTree]
  cases ofTree ((kind.flags?.map f.withFlags).getD f) sub <;> rfl

theorem meaning_alternation (s : Span) (ts : List Tree) :
    meaning f (.alternation s ts) = (meanings f ts).map fun m => (ofAlternation m.1, m.2) := by
  unfold meaning meanings
  rw [ofTree]
  cases ofTrees f ts <;> rfl

theorem meaning_concat (s : Span) (ts : List Tree) :
    meaning f (.concat s ts) = (meanings f ts).map fun m => (ofConcat m.1, m.2) := by
  unfold meaning meanings
  rw [ofTree]
  cases ofTrees f ts <;> rfl

theorem meanings_cons (t : Tree) (ts : List Tree) :
    meanings f (t :: ts) = (meaning f t).bind fun m =>
      (meanings m.2 ts).map fun ms => (m.1 :: ms.1, ms.2) := by
  unfold meaning meanings
  rw [ofTrees]
  rcases ofTree f t with _ | ⟨r, f₁⟩
  · rfl
  · change (ofTrees f₁ ts >>= _).toOption = Option.map _ (ofTrees f₁ ts).toOption
    cases ofTrees f₁ ts <;> rfl

theorem withFlags_bare (f : Setting) (items : List FlagItem) :
    f.withFlags (items.map FlagItem.bare) = f.withFlags items := by
  simp only [Setting.withFlags, flagState_bare]

theorem inside_bare (kind : GroupKind) :
    (kind.bare.flags?.map f.withFlags).getD f = (kind.flags?.map f.withFlags).getD f := by
  rw [GroupKind.flags?_bare, Option.map_map]
  exact congrArg (fun g => (kind.flags?.map g).getD f) (funext (withFlags_bare f))

theorem groupRegex_bare (kind : GroupKind) (r : Regex) :
    groupRegex kind.bare r = groupRegex kind r := by
  cases kind <;> rfl

mutual

/-- **What a tree means does not depend on where it stands.** -/
theorem meaning_bare : (t : Tree) → ∀ {f : Setting}, meaning f t.bare = meaning f t
  | .empty _, _ | .literal _, _ | .dot _, _ | .assertion _ _, _ | .shorthand _, _ => rfl
  | .flags _ _ items, f => by
    simp only [Tree.bare, meaning, ofTree, withFlags_bare]
  | .property c, f => by
    simp only [Tree.bare, meaning, ofTree, toOption_bind, propertySet_bare c]
  | .bracketed _ _ set, f => by
    simp only [Tree.bare, meaning, ofTree, toOption_bind, classMembers_bare set]
  | .repetition _ _ _ _ sub, f => by
    rw [Tree.bare, meaning_repetition, meaning_repetition, meaning_bare sub]
  | .group _ kind sub, f => by
    rw [Tree.bare, meaning_group, meaning_group, inside_bare, meaning_bare sub]
    simp only [groupRegex_bare]
  | .alternation _ ts, f => by
    rw [Tree.bare, meaning_alternation, meaning_alternation, meanings_bare ts]
  | .concat _ ts, f => by
    rw [Tree.bare, meaning_concat, meaning_concat, meanings_bare ts]

theorem meanings_bare : (ts : List Tree) → ∀ {f : Setting},
    meanings f (Tree.allBare ts) = meanings f ts
  | [], _ => rfl
  | t :: ts, f => by
    rw [Tree.allBare, meanings_cons, meanings_cons, meaning_bare t]
    simp only [meanings_bare ts]

end

/-- Trees that are the same but for their places mean the same. -/
theorem meaning_congr {t t' : Tree} (h : t'.bare = t.bare) : meaning f t' = meaning f t := by
  rw [← meaning_bare, h, meaning_bare]

theorem meanings_congr {ts ts' : List Tree} (h : ts'.map Tree.bare = ts.map Tree.bare) :
    meanings f ts' = meanings f ts := by
  rw [← meanings_bare, Tree.allBare_eq_map, h, ← Tree.allBare_eq_map, meanings_bare]

end Regex

end Multiscan
