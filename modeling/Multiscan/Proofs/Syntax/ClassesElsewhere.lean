import Multiscan.Proofs.Syntax.Elsewhere
import Mathlib.Data.List.Forall2
/-!
# Syntax — bracketed classes elsewhere

A class is read with a stack of what is open. Two cursors with the same ahead of
them read the same members, open and close the same brackets and operations, and
so end with the same class but for the places in it
(`Cursor.Along.bracketedClass`).
-/

namespace Multiscan.Syntax

/-! ## What is open -/

/-- The same members, wherever they stand. -/
structure Members.Like (m m' : Members) : Prop where
  items : m'.items.map ClassSet.bare = m.items.map ClassSet.bare

/-- The same open, with members of the one kind and sets of the other related. -/
inductive OpenSet.Rel (M : Members → Members → Prop) (S : ClassSet → ClassSet → Prop) :
    OpenSet → OpenSet → Prop
  | bracket {outer outer' : Members} (start start' : Nat) (negated : Bool) (h : M outer outer') :
    Rel M S (.bracket outer start negated) (.bracket outer' start' negated)
  | operation (kind : SetOp) {lhs lhs' : ClassSet} (h : S lhs lhs') :
    Rel M S (.operation kind lhs) (.operation kind lhs')

section
variable {m m' : Members} {set set' : ClassSet} {stack stack' : List OpenSet}

/-- The set that members make does not depend on where they stand. -/
theorem Members.bare_toSet (m : Members) :
    m.toSet.bare = Members.toSet ⟨.origin, m.items.map ClassSet.bare⟩ := by
  rcases m with ⟨span, _ | ⟨a, _ | ⟨b, rest⟩⟩⟩
  · rfl
  · rfl
  · simp only [Members.toSet, ClassSet.bare, ClassSet.allBare_eq_map, List.map_cons]

namespace Members.Like

theorem none (c d : Cursor) : (Members.none c).Like (Members.none d) := ⟨rfl⟩

theorem push (h : m.Like m') (hset : set'.bare = set.bare) :
    (m.push set).Like (m'.push set') :=
  ⟨by simp only [Members.push, List.map_append, List.map_singleton, hset, h.items]⟩

theorem isEmpty (h : m.Like m') : m'.items.isEmpty = m.items.isEmpty := by
  simpa only [List.isEmpty_map] using congrArg List.isEmpty h.items

theorem toSet (h : m.Like m') : m'.toSet.bare = m.toSet.bare := by
  rw [Members.bare_toSet, Members.bare_toSet, h.items]

end Members.Like

variable {M : Members → Members → Prop} {S : ClassSet → ClassSet → Prop}

/-- The operation that is open on a level, if any, is closed in both. -/
theorem closeOperation_rel (hset : S set set')
    (hop : ∀ s s' kind {lhs lhs'}, S lhs lhs' → S (.op s kind lhs set) (.op s' kind lhs' set'))
    (h : List.Forall₂ (OpenSet.Rel M S) stack stack') :
    S (closeOperation set stack).1 (closeOperation set' stack').1 ∧
      List.Forall₂ (OpenSet.Rel M S) (closeOperation set stack).2
        (closeOperation set' stack').2 := by
  cases h with
  | nil => exact ⟨hset, .nil⟩
  | cons ho hrest =>
    cases ho with
    | bracket _ _ _ houter => exact ⟨hset, .cons (.bracket _ _ _ houter) hrest⟩
    | operation kind hlhs => exact ⟨hop _ _ kind hlhs, hrest⟩

/-- The innermost open brackets are related, or there are none. -/
theorem innermost_rel (h : List.Forall₂ (OpenSet.Rel M S) stack stack') :
    Option.Rel (fun o o' => o'.2.1 = o.2.1 ∧ M o.2.2.1 o'.2.2.1 ∧
        List.Forall₂ (OpenSet.Rel M S) o.2.2.2 o'.2.2.2)
      (innermost? stack) (innermost? stack') := by
  induction h with
  | nil => exact .none
  | cons ho hrest ih =>
    cases ho with
    | bracket _ _ _ houter => exact .some ⟨rfl, houter, hrest⟩
    | operation => exact ih

end

/-! ## Readers -/

/-- Atoms that differ in their places only are members alike. -/
theorem toClassSet_gives {a a' : Atom} (h : a'.bare = a.bare) :
    Gives (fun set set' => set'.bare = set.bare) a.toClassSet a'.toClassSet := by
  cases a <;> cases a' <;> simp only [Atom.bare, reduceCtorEq] at h
  case literal => exact .ok (congrArg ClassSet.literal (Atom.literal.inj h))
  case shorthand => exact .ok (congrArg ClassSet.shorthand (Atom.shorthand.inj h))
  case property => exact .ok (congrArg ClassSet.property (Atom.property.inj h))
  all_goals exact .error

/-- And they are ends of ranges alike. -/
theorem toRangeEnd_gives {a a' : Atom} (h : a'.bare = a.bare) :
    Gives (fun l l' => l'.bare = l.bare) a.toRangeEnd a'.toRangeEnd := by
  cases a <;> cases a' <;> simp only [Atom.bare, reduceCtorEq] at h
  case literal => exact .ok (Atom.literal.inj h)
  all_goals exact .error

namespace Cursor.Along

variable {n start start' : Nat} {c d : Cursor} {m m' : Members} {stack stack' : List OpenSet}

theorem leadingHyphens (h : c.Along n d) (hm : m.Like m') (fuel : Nat) :
    Gives (Both Members.Like n) (leadingHyphens start fuel m c)
      (leadingHyphens start' fuel m' d) := by
  induction fuel generalizing c d m m' with
  | zero => exact .ok ⟨hm, h⟩
  | succ fuel ih =>
    simp only [Syntax.leadingHyphens, h.char?, h.next_le.char?]
    split
    · split
      · exact .error
      · exact ih h.next_le (hm.push rfl)
    · exact .ok ⟨hm, h⟩

theorem openBracket (h : c.Along (n + 1) d) :
    Gives (fun a b => b.1 = a.1 ∧ a.2.1.Like b.2.1 ∧ a.2.2.Along n b.2.2)
      (openBracket c) (openBracket d) := by
  have hfirst := h.next.next_le.choose (c.next.char? == some '^') h.next
  simp only [Syntax.openBracket, h.next.char?]
  split
  · exact .throw
  generalize (if c.next.char? == some '^' then c.next.next else c.next) = c₁,
    (if c.next.char? == some '^' then d.next.next else d.next) = d₁ at hfirst ⊢
  rw [hfirst.char?]
  split
  · exact .throw
  rw [hfirst.rest]
  refine (hfirst.leadingHyphens (.none _ _) _).bind ?_
  rintro ⟨m, c₂⟩ ⟨m', d₂⟩ ⟨hm, hbehind⟩
  have hnext := hbehind.next_le
  simp only [hm.isEmpty, hbehind.char?, hnext.char?]
  split
  · split
    · exact .throw
    · exact .ok ⟨rfl, hm.push rfl, hnext⟩
  · exact .ok ⟨rfl, hm, hbehind⟩

/-- A named class stands at both places or at neither. -/
theorem asciiClass? (h : c.Along n d) :
    Option.Rel (Both (fun a a' => a'.bare = a.bare) n) (asciiClass? c) (asciiClass? d) := by
  have hopen := h.after? "[:"
  simp only [Syntax.asciiClass?]
  generalize c.after? "[:" = x, d.after? "[:" = y at hopen ⊢
  rcases hopen with hopen | _
  · next c₁ d₁ =>
    have hname := hopen.bump_le.choose (c₁.char? == some '^') hopen
    simp only [Option.bind_eq_bind, Option.bind_some, hopen.char?]
    generalize (if c₁.char? == some '^' then c₁.bump else c₁) = c₂,
      (if c₁.char? == some '^' then d₁.bump else d₁) = d₂ at hname ⊢
    rw [hname.rest]
    have hclose := (hname.bumps (c₂.rest.takeWhile (· != ':'))).after? ":]"
    generalize (List.foldl _ c₂ _).after? ":]" = x, (List.foldl _ d₂ _).after? ":]" = y
      at hclose ⊢
    rcases hclose with hclose | _
    · simp only [Option.bind_some]
      cases asciiKind? _
      · exact .none
      · exact .some ⟨rfl, hclose⟩
    · exact .none
  · exact .none

/-- A member or a range of members is the same. -/
theorem classRange (h : c.Along n d) (x : Char) :
    Gives (Both (fun set set' => set'.bare = set.bare) n) (classRange stack c x)
      (classRange stack' d x) := by
  refine ((h.mono (Nat.le_succ n)).classAtom x).bind ?_
  rintro ⟨lo, c₁⟩ ⟨lo', d₁⟩ ⟨hlo, hlow⟩
  have hbehind := hlow.skip
  have halone : Gives (Both (fun set set' => set'.bare = set.bare) n)
      (do return (← lo.toClassSet, c₁.skip)) (do return (← lo'.toClassSet, d₁.skip)) :=
    (toClassSet_gives hlo).bind fun _ _ hset => .ok ⟨hset, hbehind⟩
  simp only [hbehind.char?, hbehind.peekPastBlanks?, hbehind.next_le.char?]
  split
  · exact .error
  · split
    · exact halone
    · split
      · exact .error
      · refine ((hbehind.next_le.mono (Nat.le_succ n)).classAtom _).bind ?_
        rintro ⟨hi, c₂⟩ ⟨hi', d₂⟩ ⟨hhi, hend⟩
        refine (toRangeEnd_gives hlo).bind fun first first' hfirst => ?_
        refine (toRangeEnd_gives hhi).bind fun last last' hlast => ?_
        rw [Literal.char_of_bare hfirst, Literal.char_of_bare hlast]
        split
        · exact .ok ⟨by simp only [ClassSet.bare, hfirst, hlast], hend⟩
        · exact .error
  · exact halone

/-- **One step of the reader after the other**, with the same open and the same
members read, ends with the same class. -/
theorem classRest (h : c.Along n d) (fuel : Nat) (hm : m.Like m')
    (hstack : List.Forall₂ (OpenSet.Rel Members.Like fun set set' => set'.bare = set.bare)
      stack stack') :
    Gives (Both (fun t t' => t'.bare = t.bare) n) (classRest fuel stack m c)
      (classRest fuel stack' m' d) := by
  induction fuel generalizing c d m m' stack stack' with
  | zero => exact .error
  | succ fuel ih =>
    have hc := h.skip
    obtain ⟨hset, hrest⟩ := closeOperation_rel (S := fun set set' => set'.bare = set.bare) hm.toSet
      (fun _ _ kind _ _ hlhs => by simp only [ClassSet.bare, hm.toSet, hlhs]) hstack
    -- An ordinary member is read in two places: behind a sign that is not doubled,
    -- and where there is no sign.
    have hmember (x : Char) : Gives (Both (fun t t' => t'.bare = t.bare) n)
        (Syntax.classRange stack c.skip x >>= fun r =>
          Syntax.classRest fuel stack (m.push r.1) r.2)
        (Syntax.classRange stack' d.skip x >>= fun r =>
          Syntax.classRest fuel stack' (m'.push r.1) r.2) := by
      refine (hc.classRange x).bind ?_
      rintro ⟨item, c'⟩ ⟨item', d'⟩ ⟨hitem, hbehind⟩
      exact ih hbehind (hm.push hitem) hstack
    simp only [Syntax.classRest, hc.char?, hc.peek?]
    split
    · exact .error
    · have hascii := hc.asciiClass?
      generalize Syntax.asciiClass? c.skip = x, Syntax.asciiClass? d.skip = y at hascii ⊢
      rcases hascii with ⟨hclass, hbehind⟩ | _
      · exact ih hbehind (hm.push (congrArg ClassSet.ascii hclass)) hstack
      · refine (hc.mono (Nat.le_succ n)).openBracket.bind ?_
        rintro ⟨_, inner, c'⟩ ⟨negated, inner', d'⟩ ⟨rfl, hinner, hinside⟩
        exact ih hinside hinner (.cons (.bracket _ _ negated hm) hstack)
    · have hinner := innermost_rel hrest
      generalize innermost? (closeOperation m.toSet stack).2 = x,
        innermost? (closeOperation m'.toSet stack').2 = y at hinner ⊢
      rcases hinner with @⟨⟨_, _, outer, rest⟩, ⟨_, negated, outer', rest'⟩, hinner⟩ | _
      · obtain ⟨rfl, houter, houtside⟩ := hinner
        have hclass (s s' : Span) : (ClassSet.bracketed s' negated
            (closeOperation m'.toSet stack').1).bare =
            (ClassSet.bracketed s negated (closeOperation m.toSet stack).1).bare := by
          simp only [ClassSet.bare, hset]
        have hempty : rest'.isEmpty = rest.isEmpty := by cases houtside <;> rfl
        simp only [hempty]
        split
        · exact .ok ⟨by simp only [Tree.bare, hset], hc.bump_le⟩
        · exact ih hc.bump_le (houter.push (hclass _ _)) houtside
      · exact .error
    · split
      · split
        · exact ih hc.bump_le.bump_le (.none _ _) (.cons (.operation _ hset) hrest)
        · exact hmember _
      · exact hmember _

/-- **The same classes are read** wherever their brackets stand. -/
theorem bracketedClass (h : c.Along (n + 1) d) :
    Gives (Both (fun t t' => t'.bare = t.bare) n) (bracketedClass c) (bracketedClass d) := by
  simp only [Syntax.bracketedClass, h.rest]
  refine h.openBracket.bind ?_
  rintro ⟨_, m, c'⟩ ⟨negated, m', d'⟩ ⟨rfl, hm, hinside⟩
  exact hinside.classRest _ hm (.cons (.bracket _ _ negated (.none c d)) .nil)

end Cursor.Along

end Multiscan.Syntax
