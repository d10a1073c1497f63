import Multiscan.Proofs.Syntax.Errors
import Multiscan.Syntax.AsciiClasses
/-!
# Syntax — trees that stand in the text

Some errors show only when a tree is looked at, which then points to the place that
one of its nodes has kept. Every node of a tree that is read stands in the text
between two characters, and one that may be refused later, a property class or a
character, where that is written (`Tree.Placed`). So an error points to the text
whether it shows on the way, in the nesting or behind (`reads_ofPattern?`).
-/

namespace Multiscan.Syntax

open Text (Between)

variable {text : List Char}

/-! ## Inside brackets -/

mutual

/-- What stands between brackets stands in a text. -/
def ClassSet.Placed (text : List Char) : ClassSet → Prop
  | .literal l => l.Placed text
  | .range s lo hi => Between text s.start ∧ lo.Placed text ∧ hi.Placed text
  | .property c => Stands text c.span.start '\\'
  | .bracketed s _ inner => Between text s.start ∧ inner.Placed text
  | .union s items => Between text s.start ∧ ClassSet.AllPlaced text items
  | .op s _ lhs rhs => Between text s.start ∧ lhs.Placed text ∧ rhs.Placed text
  | .empty s => Between text s.start
  | .ascii c => Between text c.span.start
  | .shorthand c => Between text c.span.start

/-- The same for several sets. -/
def ClassSet.AllPlaced (text : List Char) : List ClassSet → Prop
  | [] => True
  | set :: sets => set.Placed text ∧ ClassSet.AllPlaced text sets

end

theorem ClassSet.allPlaced_iff {sets : List ClassSet} :
    ClassSet.AllPlaced text sets ↔ ∀ set ∈ sets, set.Placed text := by
  induction sets with
  | nil => exact ⟨fun _ set hset => (nomatch hset), fun _ => trivial⟩
  | cons set sets ih => rw [ClassSet.AllPlaced, ih, List.forall_mem_cons]

theorem Literal.Placed.between {l : Literal} (h : l.Placed text) : Between text l.span.start :=
  Stands.between h

/-- It starts between two characters. -/
theorem ClassSet.Placed.between {set : ClassSet} (h : set.Placed text) :
    Between text set.span.start := by
  cases set with
  | literal l => exact Literal.Placed.between h
  | property c => exact Stands.between h
  | range s lo hi => exact h.1
  | bracketed s negated inner => exact h.1
  | union s items => exact h.1
  | op s kind lhs rhs => exact h.1
  | _ => exact h

/-- Members of a class stand in the text, and so does where they start. -/
structure Members.Placed (text : List Char) (m : Members) : Prop where
  start : Between text m.span.start
  items : ∀ item ∈ m.items, item.Placed text

namespace Members.Placed

variable {m : Members} {set : ClassSet} {c : Cursor}

theorem none (h : c.In text) : (Members.none c).Placed text :=
  ⟨h.between, fun _ hitem => nomatch hitem⟩

theorem push (h : m.Placed text) (hset : set.Placed text) : (m.push set).Placed text := by
  refine ⟨?_, List.forall_mem_append.2 ⟨h.items, List.forall_mem_singleton.2 hset⟩⟩
  unfold Members.push
  dsimp only
  split
  · exact hset.between
  · exact h.start

theorem toSet (h : m.Placed text) : m.toSet.Placed text := by
  unfold Members.toSet
  split
  · exact h.start
  · next item hone => exact h.items item (hone ▸ List.mem_singleton_self item)
  · exact ⟨h.start, ClassSet.allPlaced_iff.2 h.items⟩

end Members.Placed

/-- What is open in a class stands in the text, a bracket at the bottom. -/
inductive OpenPlaced (text : List Char) : List OpenSet → Prop
  | bottom {outer : Members} {start : Nat} (negated : Bool) (houter : outer.Placed text)
    (hstart : Stands text start '[') : OpenPlaced text [.bracket outer start negated]
  | bracket {outer : Members} {start : Nat} {stack : List OpenSet} (negated : Bool)
    (houter : outer.Placed text) (hstart : Stands text start '[') (h : OpenPlaced text stack) :
    OpenPlaced text (.bracket outer start negated :: stack)
  | operation {lhs : ClassSet} {stack : List OpenSet} (kind : SetOp) (hlhs : lhs.Placed text)
    (h : OpenPlaced text stack) : OpenPlaced text (.operation kind lhs :: stack)

namespace OpenPlaced

variable {stack : List OpenSet} {set : ClassSet}

theorem closeOperation (h : OpenPlaced text stack) (hset : set.Placed text) :
    (closeOperation set stack).1.Placed text ∧ OpenPlaced text (closeOperation set stack).2 := by
  cases h with
  | bottom negated houter hstart => exact ⟨hset, .bottom negated houter hstart⟩
  | bracket negated houter hstart h => exact ⟨hset, .bracket negated houter hstart h⟩
  | operation kind hlhs h => exact ⟨⟨hlhs.between, hlhs, hset⟩, h⟩

/-- Some bracket is open, and it stands where it was opened. -/
theorem innermost? (h : OpenPlaced text stack) : ∃ start negated outer rest,
    innermost? stack = some (start, negated, outer, rest) ∧ Stands text start '[' ∧
      outer.Placed text ∧ (rest = [] ∨ OpenPlaced text rest) := by
  induction h with
  | bottom negated houter hstart => exact ⟨_, _, _, _, rfl, hstart, houter, .inl rfl⟩
  | bracket negated houter hstart h => exact ⟨_, _, _, _, rfl, hstart, houter, .inr h⟩
  | operation kind hlhs h ih => exact ih

theorem points_unclosedSet (h : OpenPlaced text stack) : (unclosedSet stack).Points text := by
  obtain ⟨start, negated, outer, rest, hinner, hstart, -, -⟩ := h.innermost?
  rw [unclosedSet, hinner]
  exact hstart.points fun _ => rfl

end OpenPlaced

/-! ## Trees -/

mutual

/-- A tree stands in a text. -/
def Tree.Placed (text : List Char) : Tree → Prop
  | .property c => Stands text c.span.start '\\'
  | .bracketed s _ set => Between text s.start ∧ set.Placed text
  | .repetition s _ _ _ sub => Between text s.start ∧ sub.Placed text
  | .group s _ sub => Between text s.start ∧ sub.Placed text
  | .alternation s ts => Between text s.start ∧ Tree.AllPlaced text ts
  | .concat s ts => Between text s.start ∧ Tree.AllPlaced text ts
  | .literal l => Between text l.span.start
  | .shorthand c => Between text c.span.start
  | .empty s => Between text s.start
  | .flags s _ _ => Between text s.start
  | .dot s => Between text s.start
  | .assertion s _ => Between text s.start

/-- The same for several trees. -/
def Tree.AllPlaced (text : List Char) : List Tree → Prop
  | [] => True
  | t :: ts => t.Placed text ∧ Tree.AllPlaced text ts

end

theorem Tree.allPlaced_iff {ts : List Tree} :
    Tree.AllPlaced text ts ↔ ∀ t ∈ ts, t.Placed text := by
  induction ts with
  | nil => exact ⟨fun _ t ht => (nomatch ht), fun _ => trivial⟩
  | cons t ts ih => rw [Tree.AllPlaced, ih, List.forall_mem_cons]

/-- It starts between two characters. -/
theorem Tree.Placed.between {t : Tree} (h : t.Placed text) : Between text t.span.start := by
  cases t with
  | property c => exact Stands.between h
  | bracketed s negated set => exact h.1
  | repetition s opSpan kind greedy sub => exact h.1
  | group s kind sub => exact h.1
  | alternation s ts => exact h.1
  | concat s ts => exact h.1
  | _ => exact h

theorem Atom.Placed.toTree {a : Atom} (h : a.Placed text) : a.toTree.Placed text := by
  cases a with
  | property c => exact h
  | _ => exact Stands.between h

/-- Items stand in the text, and so does where they start. -/
structure Items.Placed (text : List Char) (i : Items) : Prop where
  start : Between text i.start
  trees : ∀ t ∈ i.trees, t.Placed text

/-- What is open in a pattern stands in the text, a group at its parenthesis. -/
def OpenItem.Placed (text : List Char) : OpenItem → Prop
  | .group outer start _ _ => outer.Placed text ∧ Stands text start '('
  | .alternatives start before => Between text start ∧ ∀ t ∈ before, t.Placed text

section

variable {items : Items} {stack : List OpenItem} {t : Tree}

namespace Items.Placed

theorem none {start : Nat} (h : Between text start) : Items.Placed text ⟨start, []⟩ :=
  ⟨h, fun _ ht => nomatch ht⟩

theorem push (h : items.Placed text) (ht : t.Placed text) :
    Items.Placed text { items with trees := items.trees ++ [t] } :=
  ⟨h.start, List.forall_mem_append.2 ⟨h.trees, List.forall_mem_singleton.2 ht⟩⟩

theorem toTree (h : items.Placed text) (stop : Nat) : (items.toTree stop).Placed text := by
  unfold Items.toTree
  split
  · exact h.start
  · next t hone => exact h.trees t (hone ▸ List.mem_singleton_self t)
  · exact ⟨h.start, Tree.allPlaced_iff.2 h.trees⟩

theorem pushAlternative (h : items.Placed text) (stop : Nat)
    (hstack : ∀ o ∈ stack, OpenItem.Placed text o) :
    ∀ o ∈ pushAlternative items stop stack, OpenItem.Placed text o := by
  have hone := List.forall_mem_singleton.2 (h.toTree stop)
  unfold Syntax.pushAlternative
  split
  · obtain ⟨⟨hstart, hbefore⟩, hrest⟩ := List.forall_mem_cons.1 hstack
    exact List.forall_mem_cons.2 ⟨⟨hstart, List.forall_mem_append.2 ⟨hbefore, hone⟩⟩, hrest⟩
  · exact List.forall_mem_cons.2 ⟨⟨h.start, hone⟩, hstack⟩

theorem closeAlternatives (h : items.Placed text) (stop : Nat)
    (hstack : ∀ o ∈ stack, OpenItem.Placed text o) :
    (closeAlternatives items stop stack).1.Placed text ∧
      ∀ o ∈ (closeAlternatives items stop stack).2, OpenItem.Placed text o := by
  have hone := List.forall_mem_singleton.2 (h.toTree stop)
  unfold Syntax.closeAlternatives
  split
  · obtain ⟨⟨hstart, hbefore⟩, hrest⟩ := List.forall_mem_cons.1 hstack
    exact ⟨⟨hstart, Tree.allPlaced_iff.2 (List.forall_mem_append.2 ⟨hbefore, hone⟩)⟩, hrest⟩
  · exact ⟨h.toTree stop, hstack⟩

/-- The end of a pattern, or a group that is open there. -/
theorem finish (h : items.Placed text) (hstack : ∀ o ∈ stack, OpenItem.Placed text o)
    (c : Cursor) : Reads text (Tree.Placed text) (finish stack items c) := by
  obtain ⟨htree, hrest⟩ := h.closeAlternatives c.offset hstack
  unfold Syntax.finish
  split
  · next tree heq => rwa [heq] at htree
  · next heq =>
    rw [heq] at hrest
    exact (List.forall_mem_cons.1 hrest).1.2.points fun _ => rfl
  · next tree _ _ _ heq => rwa [heq] at htree

/-- The last item, or an operator that has nothing to repeat. -/
theorem repeatable {offset : Nat} {x : Char} (h : items.Placed text)
    (hx : Stands text offset x) (hoperator : ['?', '*', '+', '\x7b'].contains x = true) :
    Reads text (fun r => r.1.Placed text ∧ r.2.Placed text) (repeatable items offset) := by
  have hmissing : SyntaxError.Points text ⟨.repetitionMissing, offset⟩ :=
    hx.points fun _ => hoperator
  unfold Syntax.repeatable
  split
  · exact hmissing
  · exact hmissing
  · exact hmissing
  · next t _ _ hlast =>
    exact ⟨h.trees _ (List.mem_of_getLast? hlast), h.start,
      fun u hu => h.trees u (List.dropLast_subset _ hu)⟩

/-- The items with the last one repeated. -/
theorem repeated (h : items.Placed text) (ht : t.Placed text) (opStart : Nat)
    (kind : RepetitionKind) {c : Cursor} (hc : c.In text) :
    (repeated t items opStart kind c).1.Placed text ∧
      (repeated t items opStart kind c).2.In text := by
  simp only [Syntax.repeated]
  split
  · exact ⟨h.push ⟨ht.between, ht⟩, hc.bump⟩
  · exact ⟨h.push ⟨ht.between, ht⟩, hc⟩

end Items.Placed

end

/-! ## Reading classes -/

section

variable {a : Atom}

theorem Atom.Placed.toClassSet (h : a.Placed text) :
    Reads text (ClassSet.Placed text) a.toClassSet := by
  cases a with
  | literal l => exact h
  | shorthand c => exact Stands.between h
  | property c => exact h
  | assertion s kind => exact h.points fun _ => rfl
  | dot s => exact h.points fun _ => rfl

theorem Atom.Placed.toRangeEnd (h : a.Placed text) :
    Reads text (fun l => l.Placed text ∧ a = .literal l) a.toRangeEnd := by
  cases a with
  | literal l => exact ⟨h, rfl⟩
  | shorthand c => exact h.points fun _ => rfl
  | property c => exact h.points fun _ => rfl
  | assertion s kind => exact h.points fun _ => rfl
  | dot s => exact h.points fun _ => rfl

end

namespace Cursor.In

variable {c : Cursor} {start : Nat} {m : Members} {stack : List OpenSet} {x : Char}

theorem leadingHyphens (h : c.In text) (hstart : Stands text start '[') (hm : m.Placed text)
    (fuel : Nat) : Reads text (Behind text (Members.Placed text))
      (leadingHyphens start fuel m c) := by
  induction fuel generalizing c m with
  | zero => exact ⟨hm, h⟩
  | succ fuel ih =>
    simp only [Syntax.leadingHyphens]
    split
    · next hx =>
      split
      · exact hstart.points fun _ => rfl
      · exact ih h.next (hm.push (h.stands hx))
    · exact ⟨hm, h⟩

theorem openBracket (h : c.In text) (hx : c.char? = some '[') :
    Reads text (fun r => r.2.1.Placed text ∧ r.2.2.In text) (openBracket c) := by
  have hstart := h.stands hx
  have hunclosed : SyntaxError.Points text ⟨.classUnclosed, c.offset⟩ :=
    hstart.points fun _ => rfl
  have hfirst : (if c.next.char? == some '^' then c.next.next else c.next).In text := by
    split
    · exact h.next.next
    · exact h.next
  simp only [Syntax.openBracket]
  split
  · exact hunclosed
  generalize (if c.next.char? == some '^' then c.next.next else c.next) = c₁ at hfirst ⊢
  split
  · exact hunclosed
  refine (hfirst.leadingHyphens hstart (.none hfirst) _).bind ?_
  rintro ⟨m, c₂⟩ ⟨hm, hbehind⟩
  dsimp only
  split
  · next hbracket =>
    split
    · exact hunclosed
    · have hx := beq_iff_eq.1 (Bool.and_eq_true_iff.1 hbracket).2
      exact ⟨hm.push (hbehind.stands hx), hbehind.next⟩
  · exact ⟨hm, hbehind⟩

/-- A named class that stands at the cursor. -/
theorem asciiClass? (h : c.In text) :
    ∀ a ∈ asciiClass? c, Behind text (fun a => Between text a.span.start) a := by
  intro a ha
  simp only [Syntax.asciiClass?, Option.bind_eq_bind, Option.mem_def, Option.bind_eq_some_iff] at ha
  obtain ⟨c₁, hopen, c₂, hclose, kind, -, ha⟩ := ha
  obtain rfl := Option.some.inj ha
  refine ⟨h.between, Cursor.In.after? (Cursor.In.bumps _ ?_) hclose⟩
  split
  · exact (h.after? hopen).bump
  · exact h.after? hopen

/-- **A member or a range of members** stands where it is written. -/
theorem classRange (h : c.In text) (hx : c.char? = some x) (hstack : OpenPlaced text stack) :
    Reads text (Behind text (ClassSet.Placed text)) (classRange stack c x) := by
  refine (h.classAtom hx).bind ?_
  rintro ⟨lo, c₁⟩ ⟨hlo, hlow⟩
  have hbehind := hlow.skip
  have halone : Reads text (Behind text (ClassSet.Placed text))
      (do return (← lo.toClassSet, c₁.skip)) :=
    hlo.toClassSet.bind fun _ hset => ⟨hset, hbehind⟩
  dsimp only
  split
  · exact hstack.points_unclosedSet
  · split
    · exact halone
    · split
      · exact hstack.points_unclosedSet
      · next hy =>
        refine (hbehind.next.classAtom hy).bind ?_
        rintro ⟨hi, c₂⟩ ⟨hhi, hend⟩
        refine hlo.toRangeEnd.bind ?_
        rintro first ⟨hfirst, rfl⟩
        refine hhi.toRangeEnd.bind ?_
        rintro last ⟨hlast, rfl⟩
        split
        · exact ⟨⟨hfirst.between, hfirst, hlast⟩, hend⟩
        · exact Stands.points hfirst fun _ => rfl
  · exact halone

/-- **One step of the reader after the other**, with what is open and what has been
read in the text, ends with a class that stands there. -/
theorem classRest (h : c.In text) (fuel : Nat) (hm : m.Placed text)
    (hstack : OpenPlaced text stack) :
    Reads text (Behind text (Tree.Placed text)) (classRest fuel stack m c) := by
  induction fuel generalizing c m stack with
  | zero => exact hstack.points_unclosedSet
  | succ fuel ih =>
    have hc := h.skip
    obtain ⟨hset, hclosed⟩ := hstack.closeOperation hm.toSet
    -- An ordinary member is read in two places: behind a sign that is not doubled,
    -- and where there is no sign.
    have hmember {x : Char} (hx : c.skip.char? = some x) :
        Reads text (Behind text (Tree.Placed text))
          (Syntax.classRange stack c.skip x >>= fun r =>
            Syntax.classRest fuel stack (m.push r.1) r.2) := by
      refine (hc.classRange hx hstack).bind ?_
      rintro ⟨item, c'⟩ ⟨hitem, hbehind⟩
      exact ih hbehind (hm.push hitem) hstack
    simp only [Syntax.classRest]
    split
    · exact hstack.points_unclosedSet
    · next hx =>
      split
      · next a c' hascii =>
        obtain ⟨hclass, hbehind⟩ := hc.asciiClass? _ hascii
        exact ih hbehind (hm.push hclass) hstack
      · refine (hc.openBracket hx).bind ?_
        rintro ⟨negated, inner, c'⟩ ⟨hinner, hinside⟩
        exact ih hinside hinner (.bracket negated hm (hc.stands hx) hstack)
    · obtain ⟨start, negated, outer, rest, hinner, hstart, houter, hrest⟩ := hclosed.innermost?
      simp only [hinner]
      split
      · exact ⟨⟨hstart.between, hset⟩, hc.bump⟩
      · next hempty =>
        have houtside : OpenPlaced text rest := by
          rcases hrest with rfl | hrest
          · exact absurd rfl hempty
          · exact hrest
        exact ih hc.bump (houter.push ⟨hstart.between, hset⟩) houtside
    · next hx =>
      split
      · split
        · exact ih hc.bump.bump (.none hc.bump.bump) (.operation _ hset hclosed)
        · exact hmember hx
      · exact hmember hx

/-- **A class** stands where its bracket does. -/
theorem bracketedClass (h : c.In text) (hx : c.char? = some '[') :
    Reads text (Behind text (Tree.Placed text)) (bracketedClass c) := by
  refine (h.openBracket hx).bind ?_
  rintro ⟨negated, m, c'⟩ ⟨hm, hinside⟩
  exact hinside.classRest _ hm (.bottom negated (.none h) (h.stands hx))

/-! ## Reading patterns -/

theorem atom (h : c.In text) (hx : c.char? = some x) :
    Reads text (Behind text fun a => a.toTree.Placed text) (atom c x) := by
  unfold Syntax.atom
  split
  · exact Reads.mono (h.escape hx) fun _ ha => ⟨ha.1.toTree, ha.2⟩
  all_goals exact ⟨h.between, h.bump⟩

/-- **One step of the reader after the other**, with what is open and what has been
read in the text, ends with a tree that stands there. -/
theorem patternRest {items : Items} {stack : List OpenItem} (h : c.In text) (fuel : Nat)
    (hitems : items.Placed text) (hstack : ∀ o ∈ stack, OpenItem.Placed text o) :
    Reads text (Tree.Placed text) (patternRest fuel stack items c) := by
  induction fuel generalizing c items stack with
  | zero => exact hitems.finish hstack c
  | succ fuel ih =>
    have hc := h.skip
    simp only [Syntax.patternRest]
    split
    · exact hitems.finish hstack c.skip
    · next hx =>
      refine (hc.opening hx).bind ?_
      rintro ⟨⟨s, fs, flags⟩ | ⟨start, kind⟩, c₁⟩ ⟨hopening, hbehind⟩
      · exact ih (hbehind.congr rfl rfl) (hitems.push hopening) hstack
      · refine ih (hbehind.congr rfl rfl) (.none hbehind.between) ?_
        exact List.forall_mem_cons.2 ⟨⟨hitems, hopening⟩, hstack⟩
    · next hx =>
      obtain ⟨hsub, hrest⟩ := hitems.closeAlternatives c.skip.offset hstack
      split
      · next sub outer start kind verbose rest heq =>
        rw [heq] at hsub hrest
        obtain ⟨⟨houter, hstart⟩, hrest⟩ := List.forall_mem_cons.1 hrest
        exact ih (hc.bump.congr rfl rfl) (houter.push ⟨hstart.between, hsub⟩) hrest
      · exact (hc.stands hx).points fun _ => rfl
    · exact ih hc.bump (.none hc.bump.between) (hitems.pushAlternative _ hstack)
    · next hx =>
      refine (hc.bracketedClass hx).bind ?_
      rintro ⟨tree, c₁⟩ ⟨htree, hbehind⟩
      exact ih hbehind (hitems.push htree) hstack
    · next hx =>
      have hbrace := hc.stands hx
      refine (hitems.repeatable hbrace rfl).bind ?_
      rintro ⟨sub, rest⟩ ⟨hsub, hrest⟩
      refine (hc.counts hx).bind ?_
      rintro ⟨kind, c₁⟩ ⟨-, hbehind⟩
      obtain ⟨hrepeated, hend⟩ := hrest.repeated hsub c.skip.offset kind hbehind.next
      dsimp only
      split
      · exact ih hend hrepeated hstack
      · exact hbrace.points fun _ => rfl
    · next x _ _ _ _ _ hx =>
      split
      · next kind hoperator =>
        have hsign : ['?', '*', '+', '\x7b'].contains x = true := by
          split at hoperator
          case h_4 => cases hoperator
          all_goals rfl
        refine (hitems.repeatable (hc.stands hx) hsign).bind ?_
        rintro ⟨sub, rest⟩ ⟨hsub, hrest⟩
        obtain ⟨hrepeated, hend⟩ := hrest.repeated hsub c.skip.offset kind hc.bump
        exact ih hend hrepeated hstack
      · refine (hc.atom hx).bind ?_
        rintro ⟨a, c₁⟩ ⟨ha, hbehind⟩
        exact ih hbehind (hitems.push ha) hstack

end Cursor.In

/-! ## Nesting -/

section

variable {limit depth offset : Nat}

/-- A node that lies too deep itself, or something in it. -/
theorem between_of_level {start : Nat} {inside : Option Nat} (hstart : Between text start)
    (hinside : inside = some offset → Between text offset)
    (h : (if depth < limit then inside else some start) = some offset) : Between text offset := by
  split at h
  · exact hinside h
  · exact Option.some.inj h ▸ hstart

/-- One of two, or the other. -/
theorem between_of_orElse {first second : Option Nat}
    (hfirst : first = some offset → Between text offset)
    (hsecond : second = some offset → Between text offset)
    (h : (first <|> second) = some offset) : Between text offset := by
  rcases (Option.orElse_eq_some _ _ _).1 h with h | ⟨-, h⟩
  · exact hfirst h
  · exact hsecond h

mutual

theorem ClassSet.between_of_tooDeep? {depth : Nat} : (set : ClassSet) → set.Placed text →
    set.tooDeep? limit depth = some offset → Between text offset
  | .empty _, _, h | .literal _, _, h | .range _ _ _, _, h => by cases h
  | .ascii _, _, h | .property _, _, h | .shorthand _, _, h => by cases h
  | .bracketed _ _ inner, ⟨hs, hinner⟩, h =>
    between_of_level hs (ClassSet.between_of_tooDeep? inner hinner) h
  | .union _ items, ⟨hs, hitems⟩, h =>
    between_of_level hs (ClassSet.between_of_anyTooDeep? items hitems) h
  | .op _ _ lhs rhs, ⟨hs, hlhs, hrhs⟩, h =>
    between_of_level hs (between_of_orElse (ClassSet.between_of_tooDeep? lhs hlhs)
      (ClassSet.between_of_tooDeep? rhs hrhs)) h

theorem ClassSet.between_of_anyTooDeep? {depth : Nat} : (sets : List ClassSet) →
    ClassSet.AllPlaced text sets → ClassSet.anyTooDeep? limit depth sets = some offset →
    Between text offset
  | [], _, h => by cases h
  | set :: sets, ⟨hset, hsets⟩, h =>
    between_of_orElse (ClassSet.between_of_tooDeep? set hset)
      (ClassSet.between_of_anyTooDeep? sets hsets) h

end

mutual

/-- **The first node that lies too deep** stands in the text. -/
theorem Tree.between_of_tooDeep? {depth : Nat} : (t : Tree) → t.Placed text →
    t.tooDeep? limit depth = some offset → Between text offset
  | .empty _, _, h | .flags _ _ _, _, h | .literal _, _, h | .dot _, _, h => by cases h
  | .assertion _ _, _, h | .shorthand _, _, h | .property _, _, h => by cases h
  | .bracketed _ _ set, ⟨hs, hset⟩, h =>
    between_of_level hs (ClassSet.between_of_tooDeep? set hset) h
  | .repetition _ _ _ _ sub, ⟨hs, hsub⟩, h =>
    between_of_level hs (Tree.between_of_tooDeep? sub hsub) h
  | .group _ _ sub, ⟨hs, hsub⟩, h =>
    between_of_level hs (Tree.between_of_tooDeep? sub hsub) h
  | .alternation _ ts, ⟨hs, hts⟩, h =>
    between_of_level hs (Tree.between_of_anyTooDeep? ts hts) h
  | .concat _ ts, ⟨hs, hts⟩, h =>
    between_of_level hs (Tree.between_of_anyTooDeep? ts hts) h

theorem Tree.between_of_anyTooDeep? {depth : Nat} : (ts : List Tree) →
    Tree.AllPlaced text ts → Tree.anyTooDeep? limit depth ts = some offset →
    Between text offset
  | [], _, h => by cases h
  | t :: ts, ⟨ht, hts⟩, h =>
    between_of_orElse (Tree.between_of_tooDeep? t ht)
      (Tree.between_of_anyTooDeep? ts hts) h

end

end

/-- **A pattern is read as a tree that stands in it**, or what is wrong with it shows
where the error points. -/
theorem reads_ofPattern? (pattern : List Char) :
    Reads pattern (Tree.Placed pattern) (Tree.ofPattern? pattern) := by
  have hstart := Cursor.In.start pattern
  refine (hstart.patternRest _ (.none hstart.between) (List.forall_mem_nil _)).bind ?_
  intro tree htree
  split
  · next offset hdeep =>
    obtain ⟨before, after, htext, hoffset⟩ := tree.between_of_tooDeep? htree hdeep
    exact ⟨before, after, htext, hoffset, rfl⟩
  · exact htree

end Multiscan.Syntax
