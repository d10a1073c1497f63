import Multiscan.Proofs.Syntax.ClassesElsewhere
/-!
# Syntax — a pattern behind a flag list

A flag list at the front of a pattern is one more item before the first ones.
What is read behind it is the tree that is read without it, with the list put at
the front of its first alternative (`Tree.Led`). The two readings go side by side:
they have the same open and the same items read, but for the list at the bottom
of what is open (`Reading`), and every step keeps that (`patternRest_led`).
-/

namespace Multiscan.Syntax

/-- The second tree is the first with another one put before its first alternative,
wherever both stand. -/
inductive Tree.Led (lead : Tree) : Tree → Tree → Prop
  | alone (s : Span) : Led lead (.empty s) lead
  | before (s : Span) {t t' : Tree} (h : t'.bare = t.bare) : Led lead t (.concat s [lead, t'])
  | front (s s' : Span) {ts ts' : List Tree} (h : ts'.map Tree.bare = ts.map Tree.bare) :
    Led lead (.concat s ts) (.concat s' (lead :: ts'))
  | first (s s' : Span) {t t' : Tree} {ts ts' : List Tree} (h : Led lead t t')
    (hrest : ts'.map Tree.bare = ts.map Tree.bare) :
    Led lead (.alternation s (t :: ts)) (.alternation s' (t' :: ts'))

theorem Tree.exists_eq_empty {t : Tree} {s : Span} (h : (Tree.empty s).bare = t.bare) :
    ∃ s', t = .empty s' := by
  cases t <;> simp only [Tree.bare, reduceCtorEq] at h
  exact ⟨_, rfl⟩

theorem Tree.exists_eq_flags {t : Tree} {s fs : Span} {items : List FlagItem}
    (h : (Tree.flags s fs items).bare = t.bare) : ∃ s' fs' items', t = .flags s' fs' items' := by
  cases t <;> simp only [Tree.bare, reduceCtorEq] at h
  exact ⟨_, _, _, rfl⟩

theorem Tree.map_bare_append {ts ts' : List Tree} {t t' : Tree}
    (hts : ts'.map Tree.bare = ts.map Tree.bare) (ht : t'.bare = t.bare) :
    (ts' ++ [t']).map Tree.bare = (ts ++ [t]).map Tree.bare := by
  rw [List.map_append, List.map_append, hts, List.map_singleton, List.map_singleton, ht]

/-! ## What is read and what is open -/

/-- The same items, wherever they stand, behind others. -/
structure Items.After (front : List Tree) (i i' : Items) : Prop where
  trees : ∃ ts, i'.trees = front ++ ts ∧ ts.map Tree.bare = i.trees.map Tree.bare

/-- The same is open and has been read on the innermost level, but for a tree
before the first items. -/
inductive Reading (lead : Tree) : List OpenItem → Items → List OpenItem → Items → Prop
  /-- Nothing is open. -/
  | outside {items items' : Items} (h : items.After [lead] items') : Reading lead [] items [] items'
  /-- The alternation of the whole pattern is open. -/
  | choice (start start' : Nat) {t t' : Tree} {before before' : List Tree} {items items' : Items}
    (hled : Tree.Led lead t t') (hbefore : before'.map Tree.bare = before.map Tree.bare)
    (h : items.After [] items') :
    Reading lead [.alternatives start (t :: before)] items
      [.alternatives start' (t' :: before')] items'
  /-- A group is open. -/
  | group (start start' : Nat) (verbose : Bool) {kind kind' : GroupKind} {outer outer' : Items}
    {items items' : Items} {stack stack' : List OpenItem}
    (houter : Reading lead stack outer stack' outer') (hkind : kind'.bare = kind.bare)
    (h : items.After [] items') :
    Reading lead (.group outer start kind verbose :: stack) items
      (.group outer' start' kind' verbose :: stack') items'
  /-- A group is open, and an alternation in it. -/
  | groupChoice (start start' bar bar' : Nat) (verbose : Bool) {kind kind' : GroupKind}
    {outer outer' : Items} {before before' : List Tree} {items items' : Items}
    {stack stack' : List OpenItem}
    (houter : Reading lead stack outer stack' outer') (hkind : kind'.bare = kind.bare)
    (hbefore : before'.map Tree.bare = before.map Tree.bare) (h : items.After [] items') :
    Reading lead (.alternatives bar before :: .group outer start kind verbose :: stack) items
      (.alternatives bar' before' :: .group outer' start' kind' verbose :: stack') items'

/-- The tree that items make does not depend on where they stand. -/
theorem Items.bare_toTree (i : Items) (stop : Nat) :
    (i.toTree stop).bare = Items.toTree ⟨0, i.trees.map Tree.bare⟩ 0 := by
  rcases i with ⟨start, _ | ⟨a, _ | ⟨b, rest⟩⟩⟩
  · rfl
  · rfl
  · simp only [Items.toTree, Tree.bare, Tree.allBare_eq_map, List.map_cons]
    rfl

variable {lead : Tree} {front : List Tree} {i i' : Items} {stack stack' : List OpenItem}

namespace Items.After

theorem none (start start' : Nat) : Items.After [] ⟨start, []⟩ ⟨start', []⟩ := ⟨[], rfl, rfl⟩

theorem push {t t' : Tree} (h : i.After front i') (ht : t'.bare = t.bare) :
    Items.After front { i with trees := i.trees ++ [t] } { i' with trees := i'.trees ++ [t'] } := by
  obtain ⟨ts, htrees, hts⟩ := h.trees
  refine ⟨ts ++ [t'], ?_, ?_⟩
  · rw [htrees, List.append_assoc]
  · exact Tree.map_bare_append hts ht

/-- With nothing before them, they make the same tree. -/
theorem toTree (h : i.After [] i') (stop stop' : Nat) :
    (i'.toTree stop').bare = (i.toTree stop).bare := by
  obtain ⟨ts, htrees, hts⟩ := h.trees
  rw [Items.bare_toTree, Items.bare_toTree, htrees, List.nil_append, hts]

/-- With one tree before them, they make a tree that it leads. -/
theorem led_toTree (h : i.After [lead] i') (stop stop' : Nat) :
    Tree.Led lead (i.toTree stop) (i'.toTree stop') := by
  obtain ⟨ts, htrees, hts⟩ := h.trees
  rcases i with ⟨s, trees⟩
  rcases i' with ⟨s', _⟩
  obtain rfl : _ = lead :: ts := htrees
  rcases trees with _ | ⟨a, _ | ⟨b, rest⟩⟩
  · obtain rfl := List.map_eq_nil_iff.1 hts
    exact .alone _
  · obtain ⟨a', rfl, ha⟩ := List.map_eq_singleton_iff.1 hts
    exact .before _ ha
  · obtain ⟨a', more, rfl, ha, hmore⟩ := List.map_eq_cons_iff.1 hts
    exact .front _ _ hts

/-- Only what is behind the front can be repeated where it could without. -/
theorem repeatable (h : i.After front i') (offset offset' : Nat) :
    Gives (fun a b => b.1.bare = a.1.bare ∧ a.2.After front b.2) (repeatable i offset)
      (repeatable i' offset') := by
  obtain ⟨ts, htrees, hts⟩ := h.trees
  rcases i with ⟨s, trees⟩
  rcases i' with ⟨s', _⟩
  obtain rfl : _ = front ++ ts := htrees
  rcases List.eq_nil_or_concat trees with rfl | ⟨before, t, rfl⟩
  · exact .error
  · rw [List.concat_eq_append, List.map_append] at hts
    obtain ⟨before', last, rfl, hbefore, hlast⟩ := List.map_eq_append_iff.1 hts
    obtain ⟨t', rfl, ht⟩ := List.map_eq_singleton_iff.1 hlast
    simp only [Syntax.repeatable, List.concat_eq_append, ← List.append_assoc, List.getLast?_concat,
      List.dropLast_concat]
    split
    · next heq => cases heq
    · exact .error
    · exact .error
    · next u hempty hflags heq =>
      obtain rfl := Option.some.inj heq
      split
      · next heq' => cases heq'
      · next s heq' =>
        obtain rfl := Option.some.inj heq'
        obtain ⟨s, rfl⟩ := Tree.exists_eq_empty ht
        exact absurd rfl (hempty s)
      · next s fs items heq' =>
        obtain rfl := Option.some.inj heq'
        obtain ⟨s, fs, items, rfl⟩ := Tree.exists_eq_flags ht
        exact absurd rfl (hflags s fs items)
      · next heq' =>
        obtain rfl := Option.some.inj heq'
        exact .ok ⟨ht, before', rfl, hbefore⟩

end Items.After

namespace Reading

variable {items items' : Items}

/-- The items read on the innermost level are the same behind some front, and may be
exchanged for others of which this holds. -/
theorem exists_front (h : Reading lead stack items stack' items') :
    ∃ front, items.After front items' ∧
      ∀ {more more' : Items}, more.After front more' → Reading lead stack more stack' more' := by
  cases h with
  | outside h => exact ⟨_, h, .outside⟩
  | choice start start' hled hbefore h => exact ⟨_, h, .choice start start' hled hbefore⟩
  | group start start' verbose houter hkind h =>
    exact ⟨_, h, .group start start' verbose houter hkind⟩
  | groupChoice start start' bar bar' verbose houter hkind hbefore h =>
    exact ⟨_, h, .groupChoice start start' bar bar' verbose houter hkind hbefore⟩

theorem push {t t' : Tree} (h : Reading lead stack items stack' items') (ht : t'.bare = t.bare) :
    Reading lead stack { items with trees := items.trees ++ [t] } stack'
      { items' with trees := items'.trees ++ [t'] } := by
  obtain ⟨front, hitems, hmore⟩ := h.exists_front
  exact hmore (hitems.push ht)

/-- What is to be repeated is the same, and so is what stays. -/
theorem repeatable (h : Reading lead stack items stack' items') (offset offset' : Nat) :
    Gives (fun a b => b.1.bare = a.1.bare ∧ Reading lead stack a.2 stack' b.2)
      (repeatable items offset) (repeatable items' offset') := by
  obtain ⟨front, hitems, hmore⟩ := h.exists_front
  intro a ha
  obtain ⟨b, hb, hsub, hrest⟩ := hitems.repeatable offset offset' a ha
  exact ⟨b, hb, hsub, hmore hrest⟩

/-- The repetition is the same. -/
theorem repeated {n : Nat} {c d : Cursor} {sub sub' : Tree}
    (h : Reading lead stack items stack' items') (hsub : sub'.bare = sub.bare)
    (hc : c.Along n d) (opStart opStart' : Nat) (kind : RepetitionKind) :
    Reading lead stack (repeated sub items opStart kind c).1 stack'
        (repeated sub' items' opStart' kind d).1 ∧
      (repeated sub items opStart kind c).2.Along n (repeated sub' items' opStart' kind d).2 := by
  simp only [Syntax.repeated, hc.char?]
  split
  · exact ⟨h.push (by simp only [Tree.bare, hsub]), hc.bump_le⟩
  · exact ⟨h.push (by simp only [Tree.bare, hsub]), hc⟩

/-- A bar ends one more alternative in both. -/
theorem pushAlternative (h : Reading lead stack items stack' items')
    (stop stop' start start' : Nat) :
    Reading lead (pushAlternative items stop stack) ⟨start, []⟩
      (pushAlternative items' stop' stack') ⟨start', []⟩ := by
  have hnone := Items.After.none start start'
  cases h with
  | outside h => exact .choice _ _ (h.led_toTree stop stop') rfl hnone
  | choice _ _ hled hbefore h =>
    exact .choice _ _ hled (Tree.map_bare_append hbefore (h.toTree stop stop')) hnone
  | group _ _ verbose houter hkind h =>
    exact .groupChoice _ _ _ _ verbose houter hkind
      (congrArg ([·]) (h.toTree stop stop')) hnone
  | groupChoice _ _ _ _ verbose houter hkind hbefore h =>
    exact .groupChoice _ _ _ _ verbose houter hkind
      (Tree.map_bare_append hbefore (h.toTree stop stop')) hnone

/-- A pattern that can end here ends in both, in the same tree but for the one that
leads the second. -/
theorem finish (h : Reading lead stack items stack' items') (c d : Cursor) :
    Gives (Tree.Led lead) (finish stack items c) (finish stack' items' d) := by
  cases h with
  | outside h => exact .ok (h.led_toTree _ _)
  | choice _ _ hled hbefore h =>
    exact .ok (.first _ _ hled (Tree.map_bare_append hbefore (h.toTree c.offset d.offset)))
  | group => exact .error
  | groupChoice => exact .error

/-- A parenthesis closes the same group in both, if one is open. -/
theorem close (h : Reading lead stack items stack' items') (stop stop' : Nat) {sub : Tree}
    {outer : Items} {start : Nat} {kind : GroupKind} {verbose : Bool} {rest : List OpenItem}
    (hclose : closeAlternatives items stop stack = (sub, .group outer start kind verbose :: rest)) :
    ∃ sub' outer' start' kind' rest', closeAlternatives items' stop' stack' =
        (sub', .group outer' start' kind' verbose :: rest') ∧
      sub'.bare = sub.bare ∧ kind'.bare = kind.bare ∧ Reading lead rest outer rest' outer' := by
  cases h with
  | outside => cases hclose
  | choice => cases hclose
  | group _ _ _ houter hkind h =>
    cases hclose
    exact ⟨_, _, _, _, _, rfl, h.toTree stop stop', hkind, houter⟩
  | groupChoice _ _ _ _ _ houter hkind hbefore h =>
    cases hclose
    refine ⟨_, _, _, _, _, rfl, ?_, hkind, houter⟩
    simp only [Tree.bare, Tree.allBare_eq_map,
      Tree.map_bare_append hbefore (h.toTree stop stop')]

end Reading

/-- **One step of the reader after the other** keeps two readings side by side, so
what is read behind a tree is led by it. -/
theorem patternRest_led (extra : Nat) {fuel : Nat} {items items' : Items} {c d : Cursor}
    (h : Reading lead stack items stack' items') (hc : c.Along fuel d) :
    Gives (Tree.Led lead) (patternRest fuel stack items c)
      (patternRest (fuel + extra) stack' items' d) := by
  induction fuel generalizing stack stack' items items' c d with
  | zero =>
    -- Nothing is left, so the second reading has nothing to do with its extra steps.
    have hnil : d.skip.char? = none := by
      rw [hc.skip.char?, Cursor.char?, List.length_eq_zero_iff.1 (Nat.le_zero.1 hc.skip.length)]
      rfl
    rw [Nat.zero_add]
    cases extra with
    | zero => exact h.finish c d
    | succ extra =>
      simp only [patternRest, hnil]
      exact h.finish c d.skip
  | succ fuel ih =>
    have hskip := hc.skip
    rw [Nat.add_right_comm]
    simp only [patternRest, hskip.char?]
    split
    · exact h.finish _ _
    · refine hskip.opening.bind ?_
      rintro ⟨⟨s, fs, flags⟩ | ⟨start, kind⟩, c₁⟩ ⟨⟨s', fs', flags'⟩ | ⟨start', kind'⟩, d₁⟩
        ⟨hopening, hbehind⟩ <;> simp only [Opening.bare, reduceCtorEq] at hopening
      · have hflags : flags'.map FlagItem.bare = flags.map FlagItem.bare :=
          (Opening.flags.inj hopening).2.2
        refine ih (h.push ?_) { hbehind with verbose := ?_ }
        · simp only [Tree.bare, hflags]
        · rw [flagState_of_bare hflags, hbehind.verbose]
      · have hkind : kind'.bare = kind.bare := (Opening.group.inj hopening).2
        have hinside : Reading lead (.group items start kind c₁.verbose :: stack) ⟨c₁.offset, []⟩
            (.group items' start' kind' d₁.verbose :: stack') ⟨d₁.offset, []⟩ := by
          rw [hbehind.verbose]
          exact .group start start' c₁.verbose h hkind (.none _ _)
        refine ih hinside { hbehind with verbose := ?_ }
        rw [GroupKind.state_of_bare hkind, hbehind.verbose]
    · split
      · next sub outer start kind verbose rest hclose =>
        obtain ⟨sub', outer', start', kind', rest', hclose', hsub, hkind, houter⟩ :=
          h.close _ d.skip.offset hclose
        rw [hclose']
        refine ih (houter.push ?_) { hskip.bump with verbose := rfl }
        simp only [Tree.bare, hsub, hkind]
      · exact .throw
    · exact ih (h.pushAlternative _ _ _ _) hskip.bump
    · refine hskip.bracketedClass.bind ?_
      rintro ⟨tree, c₁⟩ ⟨tree', d₁⟩ ⟨htree, hbehind⟩
      exact ih (h.push htree) hbehind
    · refine (h.repeatable _ _).bind ?_
      rintro ⟨sub, rest⟩ ⟨sub', rest'⟩ ⟨hsub, hrest⟩
      refine hskip.counts.bind ?_
      rintro ⟨kind, c₁⟩ ⟨_, d₁⟩ ⟨hkind, hbehind⟩
      obtain rfl : kind = _ := hkind
      obtain ⟨hitems, hend⟩ := hrest.repeated hsub hbehind.next_le _ _ kind
      dsimp only
      split
      · exact ih hitems hend
      · exact .throw
    · split
      · next kind _ =>
        refine (h.repeatable _ _).bind ?_
        rintro ⟨sub, rest⟩ ⟨sub', rest'⟩ ⟨hsub, hrest⟩
        obtain ⟨hitems, hend⟩ := hrest.repeated hsub hskip.bump _ _ kind
        exact ih hitems hend
      · refine (hskip.atom _).bind ?_
        rintro ⟨a, c₁⟩ ⟨a', d₁⟩ ⟨ha, hbehind⟩
        refine ih (h.push ?_) hbehind
        rw [Atom.bare_toTree, Atom.bare_toTree, ha]

/-! ## A flag before a pattern -/

/-- The tree of a flag set at the start of a pattern. -/
def leadingFlag (f : InlineFlag) : Tree := .flags ⟨0, 4⟩ ⟨2, 3⟩ [⟨⟨2, 3⟩, .flag f⟩]

/-- The first step on a pattern that sets a flag at its start. -/
theorem patternRest_leadingFlag {x : Char} {f : InlineFlag} (hx : inlineFlag? x = some f)
    (hf : f ≠ .verbose) (fuel : Nat) (pattern : List Char) :
    patternRest (fuel + 1) [] ⟨0, []⟩ (Cursor.start ('(' :: '?' :: x :: ')' :: pattern)) =
      patternRest fuel [] ⟨0, [leadingFlag f]⟩ { Cursor.start pattern with offset := 4 } := by
  unfold inlineFlag? at hx
  split at hx <;> cases hx
  case h_7 => exact absurd rfl hf
  all_goals rfl

/-- **Behind a flag at the start** stands the tree of the pattern without it. -/
theorem led_ofPattern? {x : Char} {f : InlineFlag} {pattern : List Char} {t t' : Tree}
    (hx : inlineFlag? x = some f) (hf : f ≠ .verbose) (ht : Tree.ofPattern? pattern = .ok t)
    (ht' : Tree.ofPattern? ('(' :: '?' :: x :: ')' :: pattern) = .ok t') :
    Tree.Led (leadingFlag f) t t' := by
  have hread := patternRest_of_ofPattern? ht
  have hread' := patternRest_of_ofPattern? ht'
  have hitems : Items.After [leadingFlag f] ⟨0, []⟩ ⟨0, [leadingFlag f]⟩ := ⟨[], rfl, rfl⟩
  have hcursor : (Cursor.start pattern).Along (pattern.length + 1)
      { Cursor.start pattern with offset := 4 } :=
    ⟨rfl, rfl, rfl, rfl, Nat.le_succ _⟩
  obtain ⟨u, hu, hled⟩ :=
    patternRest_led 3 (.outside hitems) hcursor t hread
  rw [patternRest_leadingFlag hx hf] at hread'
  obtain rfl := Except.ok.inj (hu.symm.trans hread')
  exact hled

end Multiscan.Syntax
