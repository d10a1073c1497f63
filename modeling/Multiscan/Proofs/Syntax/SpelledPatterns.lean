import Multiscan.Proofs.Syntax.SpelledClasses
import Multiscan.Proofs.Syntax.SpelledGroups
/-!
# Syntax — patterns spelled in bytes

A pattern and its spelling are read step by step. What is put for the items of the pattern
(`Items.PutFor`) and what is open around them (`OpenItem.PutFor`) belong together at every
step (`readAlongside`), so a pattern that is read is read when it is spelled
(`spelled_pattern_is_read`), its tree at most a level deeper.
-/

namespace Multiscan.Syntax

open Text (encodeChar)

variable {text : List Char} {c d : Cursor} {x : Char}

/-! ## What is read and what is open -/

/-- Items that are put for others, of which the last can be repeated if theirs can. -/
structure Items.PutFor (i i' : Items) : Prop where
  trees : Spreads Tree.tooDeep? i.trees i'.trees
  repeats : ∀ t ∈ i.trees.getLast?, t.Repeats → ∀ t' ∈ i'.trees.getLast?, t'.Repeats

/-- The last of items and those before it, and the same of what is put for them. -/
def LastPutFor (a b : Tree × Items) : Prop :=
  ∃ before ts, b.2.trees = before ++ ts ∧ Spreads Tree.tooDeep? a.2.trees before ∧
    Spread Tree.tooDeep? a.1 (ts ++ [b.1])

/-- The same open, with what is put for trees. -/
inductive OpenItem.PutFor (text : List Char) : OpenItem → OpenItem → Prop
  | group (start start' : Nat) (kind kind' : GroupKind) (verbose : Bool) {outer outer' : Items}
    (h : outer.PutFor outer') (hblanks : verbose = true → AsciiBlanks text) :
    PutFor text (.group outer start kind verbose) (.group outer' start' kind' verbose)
  | alternatives (start start' : Nat) {before before' : List Tree}
    (h : List.Forall₂ (Deepens Tree.tooDeep? 0) before before') :
    PutFor text (.alternatives start before) (.alternatives start' before')

section

variable {i i' rest : Items} {stack stack' : List OpenItem} {t sub : Tree} {ts : List Tree}

namespace Items.PutFor

theorem none (start start' : Nat) : Items.PutFor ⟨start, []⟩ ⟨start', []⟩ :=
  ⟨.nil, fun _ ht => nomatch ht⟩

theorem push (h : i.PutFor i') (ht : Spread Tree.tooDeep? t ts)
    (hlast : t.Repeats → ∀ u ∈ ts.getLast?, u.Repeats) :
    Items.PutFor { i with trees := i.trees ++ [t] } { i' with trees := i'.trees ++ ts } := by
  refine ⟨h.trees.push ht, fun u hu hrepeats u' hu' => ?_⟩
  rw [List.getLast?_concat] at hu
  obtain rfl := Option.some.inj hu
  refine hlast hrepeats u' ?_
  rwa [List.getLast?_append_of_ne_nil _ ht.ne_nil] at hu'

/-- One tree is put for another. -/
theorem push_one {t' : Tree} (h : i.PutFor i') (ht : Deepens Tree.tooDeep? 0 t t')
    (hlast : t.Repeats → t'.Repeats) :
    Items.PutFor { i with trees := i.trees ++ [t] } { i' with trees := i'.trees ++ [t'] } := by
  refine h.push (.one ht) fun hrepeats u hu => ?_
  obtain rfl := Option.some.inj hu
  exact hlast hrepeats

/-- **What is repeated** is the last of what is put for an item. -/
theorem repeatable (h : i.PutFor i') (offset offset' : Nat) :
    Gives LastPutFor (repeatable i offset) (repeatable i' offset') := by
  rintro ⟨sub, rest⟩ hsub
  obtain ⟨hrepeats, rfl⟩ := repeatable_eq_ok.1 hsub
  obtain ⟨before, all, htrees, hbefore, hall⟩ := h.trees.of_concat
  rcases List.eq_nil_or_concat all with rfl | ⟨ts, sub', rfl⟩
  · exact absurd rfl hall.ne_nil
  rw [List.concat_eq_append] at htrees hall
  rw [← List.append_assoc] at htrees
  have hlast : sub'.Repeats := h.repeats sub (by rw [List.getLast?_concat]; rfl) hrepeats sub'
    (by rw [htrees, List.getLast?_concat]; rfl)
  refine ⟨(sub', { i' with trees := before ++ ts }), ?_, before, ts, rfl, hbefore, hall⟩
  rw [repeatable_eq_ok, ← htrees]
  exact ⟨hlast, rfl⟩

end Items.PutFor

/-- With what is repeated in both, the items stay put for the others. -/
theorem LastPutFor.repeated {sub' : Tree} {rest' : Items} (h : LastPutFor (sub, rest) (sub', rest'))
    (hc : c.Spelled text d) (opStart opStart' : Nat) (kind : RepetitionKind) :
    (repeated sub rest opStart kind c).1.PutFor (repeated sub' rest' opStart' kind d).1 ∧
      (repeated sub rest opStart kind c).2.Spelled text
        (repeated sub' rest' opStart' kind d).2 := by
  obtain ⟨before, ts, htrees, hbefore, hspread⟩ := h
  dsimp only at htrees hbefore hspread
  have hitems (s s' opSpan opSpan' : Span) (greedy : Bool) :
      Items.PutFor { rest with trees := rest.trees ++ [.repetition s opSpan kind greedy sub] }
        { rest' with trees := rest'.trees ++ [.repetition s' opSpan' kind greedy sub'] } := by
    rw [htrees, List.append_assoc]
    refine ⟨hbefore.push (hspread.repeated s s' opSpan opSpan' kind greedy), fun _ _ _ u hu => ?_⟩
    rw [← List.append_assoc, List.getLast?_concat] at hu
    obtain rfl := Option.some.inj hu
    trivial
  simp only [Syntax.repeated, hc.char?_beq (x := '?') (by decide)]
  split
  · next hquestion => exact ⟨hitems _ _ _ _ _, hc.bump (beq_iff_eq.1 hquestion) (by decide)⟩
  · exact ⟨hitems _ _ _ _ _, hc⟩

namespace OpenItem.PutFor

/-- What is put for a level is put for it when it is closed. -/
theorem closeAlternatives (h : i.PutFor i')
    (hstack : List.Forall₂ (OpenItem.PutFor text) stack stack') (stop stop' : Nat) :
    Deepens Tree.tooDeep? 0 (closeAlternatives i stop stack).1
        (closeAlternatives i' stop' stack').1 ∧
      List.Forall₂ (OpenItem.PutFor text) (closeAlternatives i stop stack).2
        (closeAlternatives i' stop' stack').2 := by
  have htree := h.trees.toTree stop stop'
  cases hstack with
  | nil => exact ⟨htree, .nil⟩
  | cons ho hrest =>
    cases ho with
    | group start start' kind kind' verbose houter hblanks =>
      exact ⟨htree, .cons (.group start start' kind kind' verbose houter hblanks) hrest⟩
    | alternatives start start' hbefore =>
      exact ⟨deepens_alternation (List.rel_append hbefore (.cons htree .nil)) _ _, hrest⟩

theorem pushAlternative (h : i.PutFor i')
    (hstack : List.Forall₂ (OpenItem.PutFor text) stack stack') (stop stop' : Nat) :
    List.Forall₂ (OpenItem.PutFor text) (pushAlternative i stop stack)
      (pushAlternative i' stop' stack') := by
  have htree := h.trees.toTree stop stop'
  cases hstack with
  | nil => exact .cons (.alternatives _ _ (.cons htree .nil)) .nil
  | cons ho hrest =>
    cases ho with
    | group start start' kind kind' verbose houter hblanks =>
      exact .cons (.alternatives _ _ (.cons htree .nil))
        (.cons (.group start start' kind kind' verbose houter hblanks) hrest)
    | alternatives start start' hbefore =>
      exact .cons (.alternatives _ _ (List.rel_append hbefore (.cons htree .nil))) hrest

theorem finish (h : i.PutFor i') (hstack : List.Forall₂ (OpenItem.PutFor text) stack stack')
    (c d : Cursor) :
    Gives (Deepens Tree.tooDeep? 0) (finish stack i c) (finish stack' i' d) := by
  obtain ⟨htree, hrest⟩ := closeAlternatives h hstack c.offset d.offset
  unfold Syntax.finish
  generalize Syntax.closeAlternatives i c.offset stack = r,
    Syntax.closeAlternatives i' d.offset stack' = r' at htree hrest
  rcases r with ⟨t, rest⟩
  rcases r' with ⟨t', rest'⟩
  cases hrest with
  | nil => exact .ok htree
  | cons ho hrest =>
    cases ho with
    | group => exact .error
    | alternatives => exact .ok htree

end OpenItem.PutFor

end

/-! ## Steps of the reader -/

section

variable {i i' rest : Items} {stack stack' : List OpenItem} {t sub : Tree} {fuel : Nat}

theorem Cursor.length_repeated_le (sub : Tree) (i : Items) (opStart : Nat) (kind : RepetitionKind)
    (c : Cursor) : (repeated sub i opStart kind c).2.rest.length ≤ c.rest.length := by
  have hself : c.Along c.rest.length c := ⟨rfl, rfl, rfl, rfl, Nat.le_refl _⟩
  simp only [repeated]
  split
  · exact hself.bump_le.length
  · exact Nat.le_refl _

/-- Blanks before an item make no difference. -/
theorem patternRest_skip (fuel : Nat) (stack : List OpenItem) (i : Items) (c : Cursor) :
    patternRest (fuel + 1) stack i c.skip = patternRest (fuel + 1) stack i c := by
  simp only [patternRest, Cursor.skip_skip]

/-- What an item, a level or a repetition is told by. -/
def signs : List Char := ['(', ')', '|', '[', '\x7b', '?', '*', '+']

theorem mem_signs : x ∈ signs ↔
    x = '(' ∨ x = ')' ∨ x = '|' ∨ x = '[' ∨ x = '\x7b' ∨ x ∈ ['?', '*', '+'] := by
  simp only [signs, List.mem_cons]

/-- Where no sign stands, an atom is read. -/
theorem patternRest_atom (hx : c.skip.char? = some x) (hsign : x ∉ signs) :
    patternRest (fuel + 1) stack i c = atom c.skip x >>= fun r =>
      patternRest fuel stack { i with trees := i.trees ++ [r.1.toTree] } r.2 := by
  simp only [patternRest, hx]
  split
  case h_1 h => cases h
  case h_7 h =>
    cases h
    split
    · next hoperator =>
      split at hoperator
      case h_4 => cases hoperator
      all_goals exact absurd (by decide) hsign
    · rfl
  all_goals
    next h =>
      cases h
      exact absurd (by decide) hsign

/-- **The bytes that are still to be read** of a character are items one by one. -/
theorem Cursor.Pending.patternRest {bs : List UInt8} (h : c.Pending text bs d)
    (hfuel : d.rest.length < fuel) (stack : List OpenItem) (i : Items) :
    ∃ fuel' e i' as, patternRest fuel stack i d = patternRest fuel' stack i' e ∧
      i'.trees = i.trees ++ List.map Atom.toTree as ∧ as.length = bs.length ∧ c.Spelled text e ∧
      e.rest.length < fuel' := by
  induction bs generalizing d i fuel with
  | nil => exact ⟨fuel, d, i, [], rfl, (List.append_nil _).symm, rfl, h.spelled, hfuel⟩
  | cons b bs ih =>
    obtain ⟨l, e, hread, -, hrest, hlength⟩ := h.escape
    cases fuel with
    | zero => cases hfuel
    | succ fuel =>
      have hfuel' : e.rest.length < fuel := by omega
      obtain ⟨fuel', e', i', as, hpattern, htrees, hcount, hspelled, hlt⟩ :=
        ih hrest hfuel' { i with trees := i.trees ++ [.literal l] }
      refine ⟨fuel', e', i', .literal l :: as, ?_, ?_, congrArg (· + 1) hcount, hspelled, hlt⟩
      · obtain ⟨fuel, rfl⟩ := Nat.exists_eq_add_one_of_ne_zero (Nat.ne_zero_of_lt hfuel')
        have hescape : atom d '\\' = Syntax.escape d := rfl
        rw [patternRest_atom (h.skip.symm ▸ h.char?) (by decide), h.skip, hescape, hread,
          ← hpattern, ← patternRest_skip _ _ _ e]
        rfl
      · rw [htrees, List.append_assoc]
        rfl

end

/-- What a group says about verbose mode. -/
theorem GroupKind.Spellable.blanks {kind : GroupKind} (h : kind.Spellable text)
    (hstate : kind.flags?.bind (flagState · .verbose) = some true) : AsciiBlanks text := by
  cases kind with
  | plain _ items => exact h hstate
  | numbered => cases hstate
  | named => cases hstate

theorem Cursor.Spelled.setVerbose {state : Option Bool} (h : c.Spelled text d)
    (hstate : state = some true → AsciiBlanks text) :
    Cursor.Spelled text { c with verbose := state.getD c.verbose }
      { d with verbose := state.getD d.verbose } := by
  obtain ⟨hplace, hrest, hverbose, hgroups, hnames, hblanks⟩ := h
  refine ⟨hplace, hrest, congrArg state.getD hverbose, hgroups, hnames, ?_⟩
  cases state with
  | none => exact hblanks
  | some verbose => exact fun h => hstate (congrArg some h)

theorem counted_of_counts {kind : RepetitionKind} {c' : Cursor} (h : counts c = .ok (kind, c')) :
    kind.Counted := by
  have hclose (read : RepetitionKind) {d : Cursor} {e : SyntaxError} (hread : read.Counted)
      (h : (if d.char? == some '\x7d' then pure (read, d) else throw e :
        Except SyntaxError (RepetitionKind × Cursor)) = .ok (kind, c')) : kind.Counted := by
    split at h
    · cases h
      exact hread
    · cases h
  have hthrow {α : Type} {e : SyntaxError} {f : α → Except SyntaxError (RepetitionKind × Cursor)}
      (h : (throw e >>= f) = Except.ok (kind, c')) : kind.Counted := by cases h
  simp only [counts, pure_bind] at h
  split at h
  · exact hthrow h
  split at h
  · exact hthrow h
  · split at h
    · exact hthrow h
    · obtain ⟨least, -, h⟩ := bind_eq_ok.1 h
      exact hclose (.atLeast least) trivial h
    · obtain ⟨least, -, h⟩ := bind_eq_ok.1 h
      obtain ⟨most, -, h⟩ := bind_eq_ok.1 h
      exact hclose (.bounded least most) trivial h
  · obtain ⟨count, -, h⟩ := bind_eq_ok.1 h
    exact hclose (.exactly count) trivial h

section

variable {i i' rest : Items} {stack stack' : List OpenItem} {t sub : Tree} {fuel : Nat}

/-- An atom is put for one of the same sort. -/
theorem Atom.Alike.toTree {a a' : Atom} (h : a.Alike a') :
    Deepens Tree.tooDeep? 0 a.toTree a'.toTree ∧ a'.toTree.Repeats := by
  cases h <;> exact ⟨fun _ _ _ _ _ _ => rfl, trivial⟩

theorem Atom.repeats_of_mem {as : List Atom} (h : t ∈ as.map Atom.toTree) : t.Repeats := by
  obtain ⟨a, -, rfl⟩ := List.mem_map.1 h
  cases a <;> trivial

theorem Atom.Spellable.of_toTree {a : Atom} (h : a.toTree.Spellable text) : a.Spellable := by
  cases a with
  | property q => exact h
  | _ => trivial

theorem atom_wide (hx : ¬ x.toNat < 128) (c : Cursor) :
    atom c x = .ok (.literal ⟨c.charSpan, .verbatim, x⟩, c.bump) := by
  unfold atom
  split
  case h_5 => rfl
  all_goals exact absurd (by decide) hx

/-- A character outside ASCII stands for itself. -/
theorem patternRest_wide (hx : c.skip.char? = some x) (hwide : ¬ x.toNat < 128) :
    patternRest (fuel + 1) stack i c = patternRest fuel stack
      { i with trees := i.trees ++ [.literal ⟨c.skip.charSpan, .verbatim, x⟩] } c.skip.bump := by
  have hall : signs.all (fun x => decide (x.toNat < 128)) = true := by decide
  have hsign : x ∉ signs := fun h => hwide (of_decide_eq_true (List.all_eq_true.1 hall x h))
  rw [patternRest_atom hx hsign, atom_wide hwide]
  rfl

/-! ### One step -/

/-- Two readers at the same place, of a pattern and of its spelling: as much is read and
as much is open in both, and both have steps enough for what is left. -/
structure Alongside (text : List Char) (fuel fuel' : Nat) (stack stack' : List OpenItem)
    (i i' : Items) (c d : Cursor) : Prop where
  spelled : c.Spelled text d
  items : i.PutFor i'
  stack : List.Forall₂ (OpenItem.PutFor text) stack stack'
  enough : c.rest.length < fuel
  enough' : d.rest.length < fuel'

/-- A tree that can be spelled is read from the spelling too, at most a level deeper. -/
abbrev GivesTree (text : List Char) (r r' : Except SyntaxError Tree) : Prop :=
  GivesIf (Tree.Spellable text) (Deepens Tree.tooDeep? 0) r r'

/-- What is left is read in the spelling too, by readers with `fuel` steps. -/
def ReadAlongside (text : List Char) (fuel : Nat) : Prop :=
  ∀ ⦃fuel' stack stack' i i' c d⦄, Alongside text fuel fuel' stack stack' i i' c d →
    GivesTree text (patternRest fuel stack i c) (patternRest fuel' stack' i' d)

section

variable {fuel' : Nat} {i₁ i₁' : Items} {stack₁ stack₁' : List OpenItem} {c₁ d₁ : Cursor}

namespace Alongside

/-- A step takes a character, or more, from both. -/
theorem step (h : Alongside text (fuel + 1) (fuel' + 1) stack stack' i i' c d)
    (hspelled : c₁.Spelled text d₁) (hitems : i₁.PutFor i₁')
    (hstack : List.Forall₂ (OpenItem.PutFor text) stack₁ stack₁')
    (hlt : c₁.rest.length < c.skip.rest.length) (hlt' : d₁.rest.length < d.skip.rest.length) :
    Alongside text fuel fuel' stack₁ stack₁' i₁ i₁' c₁ d₁ := by
  have hle := c.length_skip_le
  have hle' := d.length_skip_le
  have henough := h.enough
  have henough' := h.enough'
  exact ⟨hspelled, hitems, hstack, by omega, by omega⟩

/-- The sign at which a pattern is read on is the sign in its spelling. -/
theorem char? (h : Alongside text fuel fuel' stack stack' i i' c d)
    (hx : c.skip.char? = some x) (hplain : isPlain x = true) : d.skip.char? = some x :=
  (h.spelled.skip.char?_eq_iff hplain).2 hx

end Alongside

namespace ReadAlongside

/-- **A character outside ASCII** is read as its bytes, one item for each. -/
theorem wide (hread : ReadAlongside text fuel)
    (h : Alongside text (fuel + 1) (fuel' + 1) stack stack' i i' c d)
    (hx : c.skip.char? = some x) (hwide : ¬ x.toNat < 128) :
    GivesTree text (patternRest (fuel + 1) stack i c) (patternRest (fuel' + 1) stack' i' d) := by
  have hpending := Cursor.Pending.of_wide h.spelled.skip hx hwide
  obtain ⟨fuel₁, e, i₁, as, hpattern, htrees, hcount, hrest, hfuel₁⟩ :=
    hpending.patternRest (Nat.lt_of_le_of_lt d.length_skip_le h.enough') stack' i'
  have hne : as ≠ [] := by
    rintro rfl
    obtain ⟨lead, mid, last, hbytes, -⟩ := Text.exists_encodeChar_wide hwide
    rw [hbytes] at hcount
    cases hcount
  have hput := h.items.push (spread_of_atoms hne (.literal ⟨c.skip.charSpan, .verbatim, x⟩))
    fun _ u hu => Atom.repeats_of_mem (List.mem_of_getLast? hu)
  have henough : c.skip.bump.rest.length < fuel := by
    have hlt := Cursor.length_bump_lt hx
    have hle := c.length_skip_le
    have hfuel := h.enough
    omega
  rw [patternRest_wide hx hwide, ← patternRest_skip fuel' stack' i' d, hpattern]
  exact hread ⟨hrest, ⟨htrees ▸ hput.trees, htrees ▸ hput.repeats⟩, h.stack, henough, hfuel₁⟩

/-- Flags stand for themselves, and a group opens a level in both. -/
theorem opening (hread : ReadAlongside text fuel)
    (h : Alongside text (fuel + 1) (fuel' + 1) stack stack' i i' c d)
    (hx : c.skip.char? = some '(') :
    GivesTree text (patternRest (fuel + 1) stack i c) (patternRest (fuel' + 1) stack' i' d) := by
  have hd := h.char? hx (by decide)
  simp only [patternRest, hx, hd]
  refine (h.spelled.skip.opening hx).bind_of_ok ?_ ?_
  · rintro ⟨⟨s, fs, flags⟩ | ⟨start, kind⟩, c₁⟩ t - hrest ht
    · exact (spellable_of_patternRest hrest ht).1.of_push.2
    · exact (spellable_of_patternRest hrest ht).2.2.1
  rintro ⟨opening, c₁⟩ ⟨opening', d₁⟩ hopen hopen' hgood ⟨hbare, hbehind⟩
  have hlt := Cursor.length_lt hx (fun _ hself => hself.opening) hopen
  have hlt' := Cursor.length_lt hd (fun _ hself => hself.opening) hopen'
  rcases opening with ⟨s, fs, flags⟩ | ⟨start, kind⟩ <;>
    rcases opening' with ⟨s', fs', flags'⟩ | ⟨start', kind'⟩ <;>
    simp only [Opening.bare, reduceCtorEq] at hbare
  · have hflags : flags'.map FlagItem.bare = flags.map FlagItem.bare :=
      (Opening.flags.inj hbare).2.2
    dsimp only
    rw [flagState_of_bare hflags]
    exact hread (h.step (hbehind.setVerbose hgood)
      (h.items.push_one (deepens_flags _ _ _ _) False.elim) h.stack hlt hlt')
  · have hkind : kind'.bare = kind.bare := (Opening.group.inj hbare).2
    dsimp only
    rw [GroupKind.state_of_bare hkind]
    refine hread (h.step (hbehind.setVerbose hgood.blanks) (.none _ _) ?_ hlt hlt')
    rw [hbehind.verbose]
    exact .cons (.group _ _ _ _ _ h.items hbehind.blanks) h.stack

/-- A level that is closed becomes an item of the level around it, in both. -/
theorem closing (hread : ReadAlongside text fuel)
    (h : Alongside text (fuel + 1) (fuel' + 1) stack stack' i i' c d)
    (hx : c.skip.char? = some ')') :
    GivesTree text (patternRest (fuel + 1) stack i c) (patternRest (fuel' + 1) stack' i' d) := by
  have hd := h.char? hx (by decide)
  have hbehind := h.spelled.skip.bump hx (by decide)
  simp only [patternRest, hx, hd]
  obtain ⟨hsub, hrest⟩ := OpenItem.PutFor.closeAlternatives h.items h.stack c.skip.offset
    d.skip.offset
  generalize closeAlternatives i c.skip.offset stack = r,
    closeAlternatives i' d.skip.offset stack' = r' at hsub hrest ⊢
  rcases r with ⟨sub, rest⟩
  rcases r' with ⟨sub', rest'⟩
  cases hrest with
  | nil => exact .error
  | cons ho hrest =>
    cases ho with
    | alternatives => exact .error
    | group start start' kind kind' verbose houter hblanks =>
      have hstate : some verbose = some true → AsciiBlanks text :=
        fun h => hblanks (Option.some.inj h)
      exact hread (h.step (hbehind.setVerbose hstate)
        (houter.push_one (deepens_group hsub _ _ _ _) id) hrest (Cursor.length_bump_lt hx)
        (Cursor.length_bump_lt hd))

/-- The next alternative begins in both. -/
theorem alternative (hread : ReadAlongside text fuel)
    (h : Alongside text (fuel + 1) (fuel' + 1) stack stack' i i' c d)
    (hx : c.skip.char? = some '|') :
    GivesTree text (patternRest (fuel + 1) stack i c) (patternRest (fuel' + 1) stack' i' d) := by
  have hd := h.char? hx (by decide)
  simp only [patternRest, hx, hd]
  exact hread (h.step (h.spelled.skip.bump hx (by decide)) (.none _ _)
    (OpenItem.PutFor.pushAlternative h.items h.stack _ _) (Cursor.length_bump_lt hx)
    (Cursor.length_bump_lt hd))

/-- A bracketed class is one item in both. -/
theorem bracketedClass (hread : ReadAlongside text fuel)
    (h : Alongside text (fuel + 1) (fuel' + 1) stack stack' i i' c d)
    (hx : c.skip.char? = some '[') :
    GivesTree text (patternRest (fuel + 1) stack i c) (patternRest (fuel' + 1) stack' i' d) := by
  have hd := h.char? hx (by decide)
  simp only [patternRest, hx, hd]
  refine (h.spelled.skip.bracketedClass hx).bind_of_ok ?_ ?_
  · rintro ⟨tree, c₁⟩ t - hrest ht
    exact (spellable_of_patternRest hrest ht).1.of_push.2
  rintro ⟨tree, c₁⟩ ⟨tree', d₁⟩ hclass hclass' - ⟨⟨hdeep, hrepeats⟩, hbehind⟩
  exact hread (h.step hbehind (h.items.push_one hdeep fun _ => hrepeats) h.stack
    (Cursor.length_lt hx (fun _ hself => hself.bracketedClass) hclass)
    (Cursor.length_lt hd (fun _ hself => hself.bracketedClass) hclass'))

/-- What an operator stands behind is repeated in both, and read on from. -/
theorem repeated {sub' : Tree} {rest' : Items} (hread : ReadAlongside text fuel)
    (h : Alongside text (fuel + 1) (fuel' + 1) stack stack' i i' c d)
    (hlast : LastPutFor (sub, rest) (sub', rest')) (hspelled : c₁.Spelled text d₁)
    (hlt : c₁.rest.length < c.skip.rest.length) (hlt' : d₁.rest.length < d.skip.rest.length)
    (opStart opStart' : Nat) (kind : RepetitionKind) :
    GivesTree text
      (patternRest fuel stack (repeated sub rest opStart kind c₁).1
        (repeated sub rest opStart kind c₁).2)
      (patternRest fuel' stack' (repeated sub' rest' opStart' kind d₁).1
        (repeated sub' rest' opStart' kind d₁).2) := by
  obtain ⟨hput, hend⟩ := hlast.repeated hspelled opStart opStart' kind
  exact hread (h.step hend hput h.stack
    (Nat.lt_of_le_of_lt (Cursor.length_repeated_le sub rest opStart kind c₁) hlt)
    (Nat.lt_of_le_of_lt (Cursor.length_repeated_le sub' rest' opStart' kind d₁) hlt'))

/-- Counts in braces are the same in both. -/
theorem counts (hread : ReadAlongside text fuel)
    (h : Alongside text (fuel + 1) (fuel' + 1) stack stack' i i' c d)
    (hx : c.skip.char? = some '\x7b') :
    GivesTree text (patternRest (fuel + 1) stack i c) (patternRest (fuel' + 1) stack' i' d) := by
  have hd := h.char? hx (by decide)
  simp only [patternRest, hx, hd]
  refine (h.items.repeatable _ _).givesIf.bind_of_ok (fun _ _ _ _ _ => trivial) ?_
  rintro ⟨sub, rest⟩ ⟨sub', rest'⟩ hsub - - hlast
  have hcounts : GivesIf (fun _ => AsciiBlanks text)
      (fun a b => Beside Eq text a b ∧ a.2.char? = some '\x7d') (Syntax.counts c.skip)
      (Syntax.counts d.skip) :=
    fun a ha hblanks => h.spelled.skip.counts hx hblanks a ha
  refine hcounts.bind_of_ok ?_ ?_
  · rintro ⟨kind, c₁⟩ t hcount hrest ht
    dsimp only at hrest
    split at hrest
    · exact (Items.Spellable.of_repeated hsub (spellable_of_patternRest hrest ht).1).2
        (counted_of_counts hcount)
    · cases hrest
  rintro ⟨kind, c₁⟩ ⟨_, d₁⟩ hcount hcount' - ⟨⟨hkind, hbehind⟩, hclose⟩
  obtain rfl : kind = _ := hkind
  have hclose' := (hbehind.char?_eq_iff (by decide)).2 hclose
  have hlt := Cursor.length_lt hx (fun _ hself => hself.counts) hcount
  have hlt' := Cursor.length_lt hd (fun _ hself => hself.counts) hcount'
  dsimp only
  split
  · exact hread.repeated h hlast (hbehind.next hclose (by decide))
      (Nat.lt_trans (Cursor.length_next_lt hclose) hlt)
      (Nat.lt_trans (Cursor.length_next_lt hclose') hlt') _ _ kind
  · exact .error

/-- What an operator of one character repeats is repeated in both. -/
theorem operator (hread : ReadAlongside text fuel)
    (h : Alongside text (fuel + 1) (fuel' + 1) stack stack' i i' c d)
    (hx : c.skip.char? = some x) (hoperator : x ∈ ['?', '*', '+']) :
    GivesTree text (patternRest (fuel + 1) stack i c) (patternRest (fuel' + 1) stack' i' d) := by
  have hall : ['?', '*', '+'].all isPlain = true := by decide
  have hplain : isPlain x = true := List.all_eq_true.1 hall x hoperator
  have hd := h.char? hx hplain
  have hbehind := h.spelled.skip.bump hx hplain
  have hlast (kind : RepetitionKind) : GivesTree text
      (repeatable i c.skip.offset >>= fun r => patternRest fuel stack
        (Syntax.repeated r.1 r.2 c.skip.offset kind c.skip.bump).1
        (Syntax.repeated r.1 r.2 c.skip.offset kind c.skip.bump).2)
      (repeatable i' d.skip.offset >>= fun r => patternRest fuel' stack'
        (Syntax.repeated r.1 r.2 d.skip.offset kind d.skip.bump).1
        (Syntax.repeated r.1 r.2 d.skip.offset kind d.skip.bump).2) := by
    refine (h.items.repeatable _ _).givesIf.bind_of_ok (fun _ _ _ _ _ => trivial) ?_
    rintro ⟨sub, rest⟩ ⟨sub', rest'⟩ - - - hlast
    exact hread.repeated h hlast hbehind (Cursor.length_bump_lt hx) (Cursor.length_bump_lt hd) _ _
      kind
  simp only [List.mem_cons, List.not_mem_nil, or_false] at hoperator
  rcases hoperator with rfl | rfl | rfl <;> simp only [patternRest, hx, hd]
  · exact hlast .zeroOrOne
  · exact hlast .zeroOrMore
  · exact hlast .oneOrMore

/-- Any other character of ASCII begins an atom, of the same sort in both. -/
theorem atom (hread : ReadAlongside text fuel)
    (h : Alongside text (fuel + 1) (fuel' + 1) stack stack' i i' c d)
    (hx : c.skip.char? = some x) (hascii : x.toNat < 128) (hsign : x ∉ signs) :
    GivesTree text (patternRest (fuel + 1) stack i c) (patternRest (fuel' + 1) stack' i' d) := by
  have hd : d.skip.char? = some x := by
    rw [h.spelled.skip.char?, hx, Option.map_some, shown_of_ascii hascii]
  rw [patternRest_atom hx hsign, patternRest_atom hd hsign]
  refine (h.spelled.skip.atom hx hascii).bind_of_ok ?_ ?_
  · rintro ⟨a, c₁⟩ t - hrest ht
    exact Atom.Spellable.of_toTree (spellable_of_patternRest hrest ht).1.of_push.2
  rintro ⟨a, c₁⟩ ⟨a', d₁⟩ hatom hatom' - ⟨halike, hbehind⟩
  obtain ⟨hdeep, hrepeats⟩ := halike.toTree
  exact hread (h.step hbehind (h.items.push_one hdeep fun _ => hrepeats) h.stack
    (Cursor.length_lt hx (fun _ hself => hself.atom x) hatom)
    (Cursor.length_lt hd (fun _ hself => hself.atom x) hatom'))

end ReadAlongside

end

/-- **One step of the reader after the other**, a pattern is read in its spelling as it
is itself, up to a level deeper. -/
theorem readAlongside (text : List Char) (fuel : Nat) : ReadAlongside text fuel := by
  induction fuel with
  | zero => exact fun _ _ _ _ _ _ _ h => absurd h.enough (Nat.not_lt_zero _)
  | succ fuel ih =>
    intro fuel' stack stack' i i' c d h
    cases fuel' with
    | zero => exact absurd h.enough' (Nat.not_lt_zero _)
    | succ fuel' =>
    cases hx : c.skip.char? with
    | none =>
      have hd : d.skip.char? = none := by
        rw [h.spelled.skip.char?, hx]
        rfl
      simp only [patternRest, hx, hd]
      exact (OpenItem.PutFor.finish h.items h.stack _ _).givesIf
    | some x =>
      by_cases hascii : x.toNat < 128
      · by_cases hsign : x ∈ signs
        · rcases mem_signs.1 hsign with rfl | rfl | rfl | rfl | rfl | hoperator
          · exact ih.opening h hx
          · exact ih.closing h hx
          · exact ih.alternative h hx
          · exact ih.bracketedClass h hx
          · exact ih.counts h hx
          · exact ih.operator h hx hoperator
        · exact ih.atom h hx hascii hsign
      · exact ih.wide h hx hascii

end

/-! ## Patterns -/

/-- **A pattern that is read is read when it is spelled in bytes** too, if its tree can
be spelled and has a level to spare. -/
theorem spelled_pattern_is_read {pattern : List Char} {t : Tree}
    (h : Tree.ofPattern? pattern = .ok t) (ht : t.Spellable pattern)
    (hdeep : t.tooDeep? (nestLimit - 1) 0 = none) :
    ∃ t', Tree.ofPattern? (spellInBytes pattern) = .ok t' := by
  obtain ⟨t', hread, hdeepens⟩ := readAlongside pattern _ ⟨.start pattern, .none 0 0, .nil,
    Nat.lt_succ_self _, Nat.lt_succ_self _⟩ t (patternRest_of_ofPattern? h) ht
  have hnone : t'.tooDeep? nestLimit 0 = none :=
    hdeepens (nestLimit - 1) 0 0 (Nat.zero_le _) (Nat.le_refl 0) hdeep
  refine ⟨t', bind_eq_ok.2 ⟨t', hread, ?_⟩⟩
  simp only [hnone]
  rfl

/-- So it is with a range, a property that no table names, and a comment. -/
theorem spelled_pattern_is_read_of_range :
    ∃ t, Tree.ofPattern? "[a-é]\\p{é}(?x)é#é".toList = .ok t ∧
      t.Spellable "[a-é]\\p{é}(?x)é#é".toList ∧ t.tooDeep? (nestLimit - 1) 0 = none ∧
      ∃ t', Tree.ofPattern? (spellInBytes "[a-é]\\p{é}(?x)é#é".toList) = .ok t' := by
  have hread : ∃ t, Tree.ofPattern? "[a-é]\\p{é}(?x)é#é".toList = .ok t ∧
      t.Spellable "[a-é]\\p{é}(?x)é#é".toList ∧ t.tooDeep? (nestLimit - 1) 0 = none := by
    refine ⟨.concat ⟨0, 21⟩
      [.bracketed ⟨0, 6⟩ false (.range ⟨1, 5⟩ ⟨⟨1, 2⟩, .verbatim, 'a'⟩ ⟨⟨3, 5⟩, .verbatim, 'é'⟩),
        .property ⟨⟨6, 12⟩, false, .named "é"⟩,
        .flags ⟨12, 16⟩ ⟨14, 15⟩ [⟨⟨14, 15⟩, .flag .verbose⟩],
        .literal ⟨⟨16, 18⟩, .verbatim, 'é'⟩], rfl, ?_, rfl⟩
    have hblanks : AsciiBlanks "[a-é]\\p{é}(?x)é#é".toList := by decide
    simp only [Tree.Spellable, Tree.AllSpellable, ClassSet.Spellable]
    exact ⟨fun _ => .inl rfl, (fun _ h => by cases h), fun _ => hblanks, trivial, trivial⟩
  obtain ⟨t, ht, hspellable, hdeep⟩ := hread
  exact ⟨t, ht, hspellable, hdeep, spelled_pattern_is_read ht hspellable hdeep⟩

end Multiscan.Syntax
