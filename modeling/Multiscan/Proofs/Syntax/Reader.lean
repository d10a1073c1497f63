import Multiscan.Syntax.Nesting
/-!
# Syntax — what holds of every tree that is read

A pattern is read with a stack of what is open, so a property of the tree that
comes out is one of everything on the stack on the way. This file follows the
reader once and for all: what holds of single items and passes from parts to
what is made of them (`Kept`) holds of the tree of every pattern
(`Kept.ofPattern?`), and the same for what stands between brackets (`KeptInside`,
`KeptInside.bracketedClass`).
-/

namespace Multiscan

/-- What comes first, and what is made of it, if both succeed. -/
theorem bind_eq_ok {ε α β : Type} {x : Except ε α} {f : α → Except ε β} {b : β} :
    x >>= f = .ok b ↔ ∃ a, x = .ok a ∧ f a = .ok b := by
  rcases x with e | a
  · constructor
    · exact fun h => nomatch h
    · rintro ⟨a, ha, -⟩
      exact nomatch ha
  · constructor
    · exact fun h => ⟨a, rfl, h⟩
    · rintro ⟨a', ha, h⟩
      obtain rfl := Except.ok.inj ha
      exact h

namespace Syntax

/-! ## Inside brackets -/

/-- A property of what stands between brackets that reading keeps. -/
structure KeptInside (Q : ClassSet → Prop) : Prop where
  empty (span : Span) : Q (.empty span)
  verbatim (span : Span) (x : Char) : Q (.literal ⟨span, .verbatim, x⟩)
  atom {c c' : Cursor} {x : Char} {a : Atom} {set : ClassSet} (h : classAtom c x = .ok (a, c'))
    (hset : a.toClassSet = .ok set) : Q set
  range {c c' d d' : Cursor} {x y : Char} {lo hi : Atom} {first last : Literal} (span : Span)
    (hlo : classAtom c x = .ok (lo, c')) (hhi : classAtom d y = .ok (hi, d'))
    (hfirst : lo.toRangeEnd = .ok first) (hlast : hi.toRangeEnd = .ok last) :
    Q (.range span first last)
  ascii (a : AsciiClass) : Q (.ascii a)
  bracketed (span : Span) (negated : Bool) {set : ClassSet} (h : Q set) :
    Q (.bracketed span negated set)
  union (span : Span) {items : List ClassSet} (h : ∀ item ∈ items, Q item) : Q (.union span items)
  op (span : Span) (kind : SetOp) {lhs rhs : ClassSet} (hlhs : Q lhs) (hrhs : Q rhs) :
    Q (.op span kind lhs rhs)

namespace KeptInside

variable {Q : ClassSet → Prop} {m : Members} {stack : List OpenSet} {c c' : Cursor} {set : ClassSet}

/-- What is open in a class holds sets that have the property. -/
def Open (Q : ClassSet → Prop) : OpenSet → Prop
  | .bracket outer _ _ => ∀ item ∈ outer.items, Q item
  | .operation _ lhs => Q lhs

theorem none (c : Cursor) : ∀ item ∈ (Members.none c).items, Q item :=
  fun _ hitem => nomatch hitem

theorem push (hm : ∀ item ∈ m.items, Q item) (hset : Q set) :
    ∀ item ∈ (m.push set).items, Q item := by
  intro item hitem
  rcases List.mem_append.1 hitem with hitem | hitem
  · exact hm item hitem
  · exact List.mem_singleton.1 hitem ▸ hset

theorem toSet (hQ : KeptInside Q) (hm : ∀ item ∈ m.items, Q item) : Q m.toSet := by
  unfold Members.toSet
  split
  · exact hQ.empty m.span
  · next item hone => exact hm item (hone ▸ List.mem_singleton_self item)
  · exact hQ.union m.span hm

theorem closeOperation (hQ : KeptInside Q) (hset : Q set) (hstack : ∀ o ∈ stack, Open Q o) :
    Q (closeOperation set stack).1 ∧ ∀ o ∈ (closeOperation set stack).2, Open Q o := by
  unfold Syntax.closeOperation
  split
  · obtain ⟨hlhs, hrest⟩ := List.forall_mem_cons.1 hstack
    exact ⟨hQ.op _ _ hlhs hset, hrest⟩
  · exact ⟨hset, hstack⟩

theorem innermost? {start : Nat} {negated : Bool} {outer : Members} {rest : List OpenSet}
    (hstack : ∀ o ∈ stack, Open Q o)
    (h : innermost? stack = some (start, negated, outer, rest)) :
    (∀ item ∈ outer.items, Q item) ∧ ∀ o ∈ rest, Open Q o := by
  induction stack with
  | nil => cases h
  | cons o stack ih =>
    obtain ⟨ho, hrest⟩ := List.forall_mem_cons.1 hstack
    cases o with
    | bracket =>
      cases h
      exact ⟨ho, hrest⟩
    | operation => exact ih hrest h

theorem leadingHyphens (hQ : KeptInside Q) {start fuel : Nat} {m' : Members}
    (hm : ∀ item ∈ m.items, Q item) (h : leadingHyphens start fuel m c = .ok (m', c')) :
    ∀ item ∈ m'.items, Q item := by
  induction fuel generalizing m c with
  | zero =>
    obtain ⟨rfl, -⟩ := Prod.mk.inj (Except.ok.inj h)
    exact hm
  | succ fuel ih =>
    unfold Syntax.leadingHyphens at h
    dsimp only at h
    split at h
    · split at h
      · cases h
      · exact ih (push hm (hQ.verbatim _ _)) h
    · obtain ⟨rfl, -⟩ := Prod.mk.inj (Except.ok.inj h)
      exact hm

theorem openBracket (hQ : KeptInside Q) {negated : Bool}
    (h : openBracket c = .ok (negated, m, c')) : ∀ item ∈ m.items, Q item := by
  unfold Syntax.openBracket at h
  dsimp only at h
  split at h
  · obtain ⟨_, hthrow, -⟩ := bind_eq_ok.1 h
    cases hthrow
  generalize (if (c.next.char? == some '^') = true then c.next.next else c.next) = d at h
  split at h
  · obtain ⟨_, hthrow, -⟩ := bind_eq_ok.1 h
    cases hthrow
  obtain ⟨⟨m', c₁⟩, hhyphens, h⟩ := bind_eq_ok.1 h
  have hm : ∀ item ∈ m'.items, Q item :=
    leadingHyphens hQ (none d) hhyphens
  dsimp only at h
  split at h
  · split at h
    · obtain ⟨_, hthrow, -⟩ := bind_eq_ok.1 h
      cases hthrow
    · cases h
      exact push hm (hQ.verbatim _ _)
  · cases h
    exact hm

theorem classRange (hQ : KeptInside Q) {x : Char} (h : classRange stack c x = .ok (set, c')) :
    Q set := by
  obtain ⟨⟨lo, c₁⟩, hlo, h⟩ := bind_eq_ok.1 h
  dsimp only at h
  split at h
  · cases h
  · split at h
    · obtain ⟨set', hset, h⟩ := bind_eq_ok.1 h
      cases h
      exact hQ.atom hlo hset
    · split at h
      · cases h
      · obtain ⟨⟨hi, c₂⟩, hhi, h⟩ := bind_eq_ok.1 h
        obtain ⟨first, hfirst, h⟩ := bind_eq_ok.1 h
        obtain ⟨last, hlast, h⟩ := bind_eq_ok.1 h
        split at h
        · cases h
          exact hQ.range _ hlo hhi hfirst hlast
        · cases h
  · obtain ⟨set', hset, h⟩ := bind_eq_ok.1 h
    cases h
    exact hQ.atom hlo hset

/-- **One step of the reader after the other** keeps the property: of the
members on the innermost level and of those in what is open. -/
theorem classRest (hQ : KeptInside Q) {fuel : Nat} {t : Tree} (hm : ∀ item ∈ m.items, Q item)
    (hstack : ∀ o ∈ stack, Open Q o) (h : classRest fuel stack m c = .ok (t, c')) :
    ∃ span negated set, t = .bracketed span negated set ∧ Q set := by
  induction fuel generalizing stack m c with
  | zero => cases h
  | succ fuel ih =>
    unfold Syntax.classRest at h
    dsimp only at h
    obtain ⟨hset, hrest⟩ := closeOperation hQ (toSet hQ hm) hstack
    split at h
    · cases h
    · split at h
      · exact ih (push hm (hQ.ascii _)) hstack h
      · obtain ⟨⟨negated, inner, c₁⟩, hopen, h⟩ := bind_eq_ok.1 h
        refine ih (openBracket hQ hopen) ?_ h
        exact List.forall_mem_cons.2 ⟨hm, hstack⟩
    · split at h
      · cases h
      · next hinner =>
        obtain ⟨houter, hrest⟩ := innermost? hrest hinner
        split at h
        · cases h
          exact ⟨_, _, _, rfl, hset⟩
        · exact ih (push houter (hQ.bracketed _ _ hset)) hrest h
    · split at h
      · split at h
        · refine ih (none _) ?_ h
          exact List.forall_mem_cons.2 ⟨hset, hrest⟩
        · obtain ⟨⟨item, c₁⟩, hitem, h⟩ := bind_eq_ok.1 h
          exact ih (push hm (classRange hQ hitem)) hstack h
      · obtain ⟨⟨item, c₁⟩, hitem, h⟩ := bind_eq_ok.1 h
        exact ih (push hm (classRange hQ hitem)) hstack h

/-- **A class that is read** is one pair of brackets, with the property
inside. -/
theorem bracketedClass (hQ : KeptInside Q) {t : Tree} (h : bracketedClass c = .ok (t, c')) :
    ∃ span negated set, t = .bracketed span negated set ∧ Q set := by
  obtain ⟨⟨negated, m, c₁⟩, hopen, h⟩ := bind_eq_ok.1 h
  refine classRest hQ (openBracket hQ hopen) ?_ h
  exact List.forall_mem_singleton.2 (none c)

end KeptInside

/-! ## Patterns -/

/-- A tree that an operator can repeat. -/
def Tree.Repeats : Tree → Prop
  | .empty _ => False
  | .flags _ _ _ => False
  | _ => True

/-- The last item is repeated, if it can be. -/
theorem repeatable_eq_ok {items rest : Items} {offset : Nat} {t : Tree} :
    repeatable items offset = .ok (t, rest) ↔
      t.Repeats ∧ items = { rest with trees := rest.trees ++ [t] } := by
  rcases items with ⟨start, trees⟩
  rcases List.eq_nil_or_concat trees with rfl | ⟨before, u, rfl⟩
  · refine iff_of_false (fun h => nomatch h) ?_
    rintro ⟨-, h⟩
    exact List.append_ne_nil_of_right_ne_nil _ (List.cons_ne_nil _ _) (Items.mk.inj h).2.symm
  · simp only [repeatable, List.concat_eq_append, List.getLast?_concat, List.dropLast_concat]
    constructor
    · intro h
      split at h
      · cases h
      · cases h
      · cases h
      · next u hempty hflags heq =>
        obtain rfl := Option.some.inj heq
        obtain ⟨rfl, rfl⟩ := Prod.mk.inj (Except.ok.inj h)
        refine ⟨?_, rfl⟩
        cases u with
        | empty s => exact hempty s rfl
        | flags s fs items => exact hflags s fs items rfl
        | _ => trivial
    · rintro ⟨hrepeats, h⟩
      obtain ⟨rfl, htrees⟩ := Items.mk.inj h
      obtain ⟨rfl, hlast⟩ := List.append_inj' htrees rfl
      obtain rfl := List.singleton_inj.1 hlast
      cases u with
      | empty s => cases hrepeats
      | flags s fs items => cases hrepeats
      | _ => rfl

/-- Nesting is looked at when a pattern has been read. -/
theorem patternRest_of_ofPattern? {pattern : List Char} {t : Tree}
    (h : Tree.ofPattern? pattern = .ok t) :
    patternRest (pattern.length + 1) [] ⟨0, []⟩ (Cursor.start pattern) = .ok t := by
  obtain ⟨tree, htree, h⟩ := bind_eq_ok.1 h
  split at h
  · cases h
  · cases h
    exact htree

/-- A property of trees that reading keeps. -/
structure Kept (P : Tree → Prop) : Prop where
  empty (span : Span) : P (.empty span)
  flags (span flagSpan : Span) (items : List FlagItem) : P (.flags span flagSpan items)
  atom (a : Atom) : P a.toTree
  bracketed {c c' : Cursor} {t : Tree} (h : bracketedClass c = .ok (t, c')) : P t
  repetition (span opSpan : Span) {kind : RepetitionKind} (greedy : Bool) {sub : Tree}
    (hkind : kind.isValid = true) (h : P sub) : P (.repetition span opSpan kind greedy sub)
  group (span : Span) (kind : GroupKind) {sub : Tree} (h : P sub) : P (.group span kind sub)
  alternation (span : Span) {ts : List Tree} (h : ∀ t ∈ ts, P t) : P (.alternation span ts)
  concat (span : Span) {ts : List Tree} (h : ∀ t ∈ ts, P t) : P (.concat span ts)

namespace Kept

variable {P : Tree → Prop} {items : Items} {stack : List OpenItem} {t : Tree}

/-- What is open in a pattern holds trees that have the property. -/
def Open (P : Tree → Prop) : OpenItem → Prop
  | .group outer _ _ _ => ∀ t ∈ outer.trees, P t
  | .alternatives _ before => ∀ t ∈ before, P t

theorem push {ts : List Tree} (hts : ∀ t ∈ ts, P t) (ht : P t) : ∀ u ∈ ts ++ [t], P u :=
  List.forall_mem_append.2 ⟨hts, List.forall_mem_singleton.2 ht⟩

theorem toTree (hP : Kept P) (stop : Nat) (h : ∀ t ∈ items.trees, P t) : P (items.toTree stop) := by
  unfold Items.toTree
  split
  · exact hP.empty _
  · next t hone => exact h t (hone ▸ List.mem_singleton_self t)
  · exact hP.concat _ h

theorem pushAlternative (hP : Kept P) (stop : Nat) (h : ∀ t ∈ items.trees, P t)
    (hstack : ∀ o ∈ stack, Open P o) : ∀ o ∈ pushAlternative items stop stack, Open P o := by
  unfold Syntax.pushAlternative
  split
  · obtain ⟨hbefore, hrest⟩ := List.forall_mem_cons.1 hstack
    exact List.forall_mem_cons.2 ⟨push hbefore (toTree hP stop h), hrest⟩
  · refine List.forall_mem_cons.2 ⟨?_, hstack⟩
    exact List.forall_mem_singleton.2 (toTree hP stop h)

theorem closeAlternatives (hP : Kept P) (stop : Nat) (h : ∀ t ∈ items.trees, P t)
    (hstack : ∀ o ∈ stack, Open P o) :
    P (closeAlternatives items stop stack).1 ∧
      ∀ o ∈ (closeAlternatives items stop stack).2, Open P o := by
  unfold Syntax.closeAlternatives
  split
  · obtain ⟨hbefore, hrest⟩ := List.forall_mem_cons.1 hstack
    exact ⟨hP.alternation _ (push hbefore (toTree hP stop h)), hrest⟩
  · exact ⟨toTree hP stop h, hstack⟩

theorem finish (hP : Kept P) {c : Cursor} (h : ∀ t ∈ items.trees, P t)
    (hstack : ∀ o ∈ stack, Open P o) (ht : finish stack items c = .ok t) : P t := by
  obtain ⟨htree, -⟩ := closeAlternatives hP c.offset h hstack
  unfold Syntax.finish at ht
  split at ht
  · next tree heq =>
    obtain rfl := Except.ok.inj ht
    rwa [heq] at htree
  · exact nomatch ht
  · next tree _ _ _ heq =>
    obtain rfl := Except.ok.inj ht
    rwa [heq] at htree

/-- The last item and the items before it. -/
theorem repeatable {offset : Nat} {sub : Tree} {rest : Items} (h : ∀ t ∈ items.trees, P t)
    (hsub : repeatable items offset = .ok (sub, rest)) : P sub ∧ ∀ t ∈ rest.trees, P t := by
  unfold Syntax.repeatable at hsub
  split at hsub
  · exact nomatch hsub
  · exact nomatch hsub
  · exact nomatch hsub
  · next t _ _ hlast =>
    obtain ⟨rfl, rfl⟩ := Prod.mk.inj (Except.ok.inj hsub)
    exact ⟨h _ (List.mem_of_getLast? hlast), fun u hu => h u (List.dropLast_subset _ hu)⟩

/-- The items with the last one repeated. -/
theorem repeated (hP : Kept P) {sub : Tree} {opStart : Nat} {kind : RepetitionKind} {c : Cursor}
    (h : ∀ t ∈ items.trees, P t) (hsub : P sub) (hkind : kind.isValid = true) :
    ∀ t ∈ (repeated sub items opStart kind c).1.trees, P t := by
  unfold Syntax.repeated
  exact push h (hP.repetition _ _ _ hkind hsub)

/-- **One step of the reader after the other** keeps the property: of the
trees on the innermost level and of those in what is open. -/
theorem patternRest (hP : Kept P) {fuel : Nat} {c : Cursor} (h : ∀ t ∈ items.trees, P t)
    (hstack : ∀ o ∈ stack, Open P o) (ht : patternRest fuel stack items c = .ok t) : P t := by
  have hnone : ∀ u ∈ ([] : List Tree), P u := fun u hu => nomatch hu
  induction fuel generalizing stack items c with
  | zero => exact finish hP h hstack ht
  | succ fuel ih =>
    unfold Syntax.patternRest at ht
    dsimp only at ht
    split at ht
    · exact finish hP h hstack ht
    · obtain ⟨⟨opening, c₁⟩, -, ht⟩ := bind_eq_ok.1 ht
      rcases opening with ⟨span, flagSpan, flags⟩ | ⟨start, kind⟩
      · refine ih ?_ hstack ht
        exact push h (hP.flags _ _ _)
      · refine ih ?_ ?_ ht
        · exact hnone
        · exact List.forall_mem_cons.2 ⟨h, hstack⟩
    · obtain ⟨hsub, hrest⟩ := closeAlternatives hP c.skip.offset h hstack
      split at ht
      · next sub outer start kind verbose rest heq =>
        rw [heq] at hsub hrest
        obtain ⟨houter, hrest⟩ := List.forall_mem_cons.1 hrest
        refine ih ?_ hrest ht
        exact push houter (hP.group _ _ hsub)
      · exact nomatch ht
    · refine ih ?_ ?_ ht
      · exact hnone
      · exact pushAlternative hP _ h hstack
    · obtain ⟨⟨tree, c₁⟩, hclass, ht⟩ := bind_eq_ok.1 ht
      refine ih ?_ hstack ht
      exact push h (hP.bracketed hclass)
    · obtain ⟨⟨sub, rest⟩, hsub, ht⟩ := bind_eq_ok.1 ht
      obtain ⟨⟨kind, c₁⟩, -, ht⟩ := bind_eq_ok.1 ht
      obtain ⟨hsub, hrest⟩ := repeatable h hsub
      dsimp only at ht
      split at ht
      · next hkind =>
        refine ih ?_ hstack ht
        exact repeated hP hrest hsub hkind
      · exact nomatch ht
    · split at ht
      · next kind hoperator =>
        obtain ⟨⟨sub, rest⟩, hsub, ht⟩ := bind_eq_ok.1 ht
        obtain ⟨hsub, hrest⟩ := repeatable h hsub
        have hkind : kind.isValid = true := by
          split at hoperator
          case h_4 => exact nomatch hoperator
          all_goals
            rw [← Option.some.inj hoperator]
            rfl
        refine ih ?_ hstack ht
        exact repeated hP hrest hsub hkind
      · obtain ⟨⟨a, c₁⟩, -, ht⟩ := bind_eq_ok.1 ht
        refine ih ?_ hstack ht
        exact push h (hP.atom a)

/-- **What reading keeps** holds of the tree of every pattern. -/
theorem ofPattern? (hP : Kept P) {pattern : List Char} (h : Tree.ofPattern? pattern = .ok t) :
    P t := by
  refine patternRest hP ?_ ?_ (patternRest_of_ofPattern? h)
  · exact fun u hu => nomatch hu
  · exact fun o ho => nomatch ho

end Kept

end Syntax

end Multiscan
