import Mathlib.Data.List.Forall2
import Mathlib.Data.Option.Basic
import Multiscan.Proofs.Syntax.Reader
/-!
# Syntax — how deep a tree nests when items are put for one

Where several items are put for one that stood alone, they need a sequence around
them, which is one level more, and where it did not stand alone they need none. So
trees get at most one level deeper, however many of their items are replaced, if what
is put for an item is not deeper itself (`Spreads.toTree`, `Spreads.toSet`).
-/

namespace Multiscan.Syntax

/-! ## Lists of items -/

section

variable {α : Type} {deep : Nat → Nat → α → Option Nat} {limit depth k : Nat} {a b : α}
variable {as bs cs : List α}

/-- Where one item does not nest too deep, another may stand up to `k` levels further in,
under a limit that is one higher. -/
def Deepens (deep : Nat → Nat → α → Option Nat) (k : Nat) (a b : α) : Prop :=
  ∀ limit depth depth', depth ≤ limit → depth' ≤ depth + k → deep limit depth a = none →
    deep (limit + 1) depth' b = none

theorem Deepens.mono {k' : Nat} (h : Deepens deep k a b) (hk : k' ≤ k) : Deepens deep k' a b :=
  fun limit depth depth' hdepth hdepth' =>
    h limit depth depth' hdepth (Nat.le_trans hdepth' (Nat.add_le_add_left hk depth))

/-- What is put for an item: something up to one level deeper, or several that are no
deeper on the next level. -/
inductive Spread (deep : Nat → Nat → α → Option Nat) (a : α) : List α → Prop
  | one {b : α} (h : Deepens deep 0 a b) : Spread deep a [b]
  | several {bs : List α} (hne : bs ≠ []) (h : ∀ b ∈ bs, Deepens deep 1 a b) : Spread deep a bs

/-- What is put for items, one after the other. -/
inductive Spreads (deep : Nat → Nat → α → Option Nat) : List α → List α → Prop
  | nil : Spreads deep [] []
  | push {as bs cs : List α} {a : α} (h : Spreads deep as bs) (ha : Spread deep a cs) :
    Spreads deep (as ++ [a]) (bs ++ cs)

namespace Spread

theorem ne_nil (h : Spread deep a bs) : bs ≠ [] := by
  cases h with
  | one h => exact List.cons_ne_nil _ _
  | several hne h => exact hne

theorem of_mem (h : Spread deep a bs) (hb : b ∈ bs) : Deepens deep 0 a b := by
  cases h with
  | one h => exact List.mem_singleton.1 hb ▸ h
  | several hne h => exact (h b hb).mono (Nat.zero_le 1)

end Spread

namespace Spreads

theorem length_le (h : Spreads deep as bs) : as.length ≤ bs.length := by
  induction h with
  | nil => exact Nat.le_refl 0
  | push h ha ih =>
    rw [List.length_append, List.length_append]
    exact Nat.add_le_add ih (List.length_pos_iff.2 ha.ne_nil)

theorem exists_of_mem (h : Spreads deep as bs) (hb : b ∈ bs) : ∃ a ∈ as, Deepens deep 0 a b := by
  induction h with
  | nil => cases hb
  | push h ha ih =>
    rcases List.mem_append.1 hb with hb | hb
    · obtain ⟨a, hmem, hab⟩ := ih hb
      exact ⟨a, List.mem_append_left _ hmem, hab⟩
    · exact ⟨_, List.mem_append_right _ (List.mem_singleton_self _), ha.of_mem hb⟩

theorem eq_nil (h : Spreads deep [] bs) : bs = [] := by
  refine List.eq_nil_iff_forall_not_mem.2 fun b hb => ?_
  obtain ⟨a, ha, -⟩ := h.exists_of_mem hb
  cases ha

theorem isEmpty (h : Spreads deep as bs) : bs.isEmpty = as.isEmpty := by
  cases as with
  | nil => rw [h.eq_nil]
  | cons a as =>
    cases bs with
    | nil => exact absurd h.length_le (Nat.not_succ_le_zero _)
    | cons b bs => rfl

/-- What is put for the last of several items, and for those before. -/
theorem of_concat (h : Spreads deep (as ++ [a]) bs) :
    ∃ before cs, bs = before ++ cs ∧ Spreads deep as before ∧ Spread deep a cs := by
  generalize has : as ++ [a] = all at h
  cases h with
  | nil => exact absurd has (List.append_ne_nil_of_right_ne_nil _ (List.cons_ne_nil _ _))
  | push h ha =>
    obtain ⟨rfl, hlast⟩ := List.append_inj' has rfl
    obtain rfl := List.singleton_inj.1 hlast
    exact ⟨_, _, rfl, h, ha⟩

end Spreads

/-- A list of items does not nest too deep as one item. -/
def Joined (deep : Nat → Nat → α → Option Nat) (limit depth : Nat) : List α → Prop
  | [] => True
  | [a] => deep limit depth a = none
  | as => depth < limit ∧ ∀ a ∈ as, deep limit (depth + 1) a = none

/-- One item up to one level deeper, or several that are no deeper on the next level. -/
theorem Spread.joined {depth' : Nat} (h : Spread deep a bs) (hdepth : depth ≤ limit)
    (hdepth' : depth' ≤ depth) (ha : deep limit depth a = none) :
    Joined deep (limit + 1) depth' bs := by
  cases h with
  | one h => exact h limit depth depth' hdepth hdepth' ha
  | several hne h =>
    match bs, hne, h with
    | [b], _, h =>
      have hb := h b (List.mem_singleton_self b)
      exact hb limit depth depth' hdepth (Nat.le_succ_of_le hdepth') ha
    | b :: b' :: rest, _, h =>
      refine ⟨Nat.lt_succ_of_le (Nat.le_trans hdepth' hdepth), fun x hx => ?_⟩
      exact h x hx limit depth (depth' + 1) hdepth (Nat.succ_le_succ hdepth') ha

/-- **Items that are put for others** nest at most one level deeper. -/
theorem Spreads.joined {depth' : Nat} (h : Spreads deep as bs) (hdepth : depth ≤ limit)
    (hdepth' : depth' ≤ depth) (hjoined : Joined deep limit depth as) :
    Joined deep (limit + 1) depth' bs := by
  have hlength := h.length_le
  match as, h, hjoined with
  | [], h, _ =>
    rw [h.eq_nil]
    trivial
  | [a], h, ha =>
    rw [← List.nil_append [a]] at h
    obtain ⟨before, cs, rfl, hbefore, hcs⟩ := h.of_concat
    rw [hbefore.eq_nil, List.nil_append]
    exact hcs.joined hdepth hdepth' ha
  | a :: a' :: as, h, ⟨hlt, hall⟩ =>
    match bs, hlength, h with
    | b :: b' :: rest, _, h =>
      refine ⟨Nat.lt_succ_of_le (Nat.le_trans hdepth' hdepth), fun x hx => ?_⟩
      obtain ⟨y, hy, hyx⟩ := h.exists_of_mem hx
      exact hyx limit (depth + 1) (depth' + 1) hlt (Nat.succ_le_succ hdepth') (hall y hy)

end

/-! ## Levels -/

section

variable {limit depth start k : Nat}

theorem level_eq_none {inside : Option Nat} :
    (if depth < limit then inside else some start) = none ↔ depth < limit ∧ inside = none := by
  split
  · next h => exact ⟨fun hinside => ⟨h, hinside⟩, fun h => h.2⟩
  · next h => exact iff_of_false (fun h => nomatch h) fun hlt => h hlt.1

/-- What holds inside a node holds with the node's own level. -/
theorem Deepens.level {α β : Type} {deep : Nat → Nat → α → Option Nat}
    {deep' : Nat → Nat → β → Option Nat} {a b : α} {a' b' : β} (h : Deepens deep k a b)
    (hk : k ≤ 1)
    (ha' : ∀ limit depth, deep' limit depth a' = none ↔
      depth < limit ∧ deep limit (depth + 1) a = none)
    (hb' : ∀ limit depth, deep' limit depth b' = none ↔
      depth < limit ∧ deep limit (depth + 1) b = none) : Deepens deep' k a' b' := by
  intro limit depth depth' hdepth hdepth' hnone
  obtain ⟨hlt, ha⟩ := (ha' limit depth).1 hnone
  refine (hb' (limit + 1) depth').2 ⟨by omega, ?_⟩
  exact h limit (depth + 1) (depth' + 1) hlt (by omega) ha

theorem ClassSet.anyTooDeep?_eq_none {sets : List ClassSet} :
    ClassSet.anyTooDeep? limit depth sets = none ↔
      ∀ set ∈ sets, set.tooDeep? limit depth = none := by
  induction sets with
  | nil => exact ⟨fun _ set hset => (nomatch hset), fun _ => rfl⟩
  | cons set sets ih =>
    rw [ClassSet.anyTooDeep?, Option.orElse_eq_none, ih, List.forall_mem_cons]

theorem Tree.anyTooDeep?_eq_none {ts : List Tree} :
    Tree.anyTooDeep? limit depth ts = none ↔ ∀ t ∈ ts, t.tooDeep? limit depth = none := by
  induction ts with
  | nil => exact ⟨fun _ t ht => (nomatch ht), fun _ => rfl⟩
  | cons t ts ih => rw [Tree.anyTooDeep?, Option.orElse_eq_none, ih, List.forall_mem_cons]

theorem tooDeep?_toSet (m : Members) :
    m.toSet.tooDeep? limit depth = none ↔ Joined ClassSet.tooDeep? limit depth m.items := by
  rcases m with ⟨span, _ | ⟨a, _ | ⟨b, rest⟩⟩⟩
  · exact iff_of_true rfl trivial
  · exact Iff.rfl
  · change (ClassSet.union span (a :: b :: rest)).tooDeep? limit depth = none ↔ _
    rw [ClassSet.tooDeep?, level_eq_none, ClassSet.anyTooDeep?_eq_none]
    exact Iff.rfl

theorem tooDeep?_toTree (i : Items) (stop : Nat) :
    (i.toTree stop).tooDeep? limit depth = none ↔ Joined Tree.tooDeep? limit depth i.trees := by
  rcases i with ⟨start, _ | ⟨a, _ | ⟨b, rest⟩⟩⟩
  · exact iff_of_true rfl trivial
  · exact Iff.rfl
  · change (Tree.concat ⟨start, stop⟩ (a :: b :: rest)).tooDeep? limit depth = none ↔ _
    rw [Tree.tooDeep?, level_eq_none, Tree.anyTooDeep?_eq_none]
    exact Iff.rfl

end

/-! ## Class sets -/

section

variable {a a' b b' : ClassSet}

/-- Class sets without levels may be put for any. -/
theorem spread_of_flat_sets {bs : List ClassSet} (hne : bs ≠ [])
    (h : ∀ b ∈ bs, ∀ limit depth, b.tooDeep? limit depth = none) (a : ClassSet) :
    Spread ClassSet.tooDeep? a bs :=
  .several hne fun b hb limit _ depth' _ _ _ => h b hb (limit + 1) depth'

theorem deepens_bracketed (h : Deepens ClassSet.tooDeep? 0 a b) (s s' : Span) (negated : Bool) :
    Deepens ClassSet.tooDeep? 0 (.bracketed s negated a) (.bracketed s' negated b) :=
  h.level (Nat.zero_le 1) (fun _ _ => level_eq_none) fun _ _ => level_eq_none

theorem deepens_op (h : Deepens ClassSet.tooDeep? 0 a b) (h' : Deepens ClassSet.tooDeep? 0 a' b')
    (s s' : Span) (kind : SetOp) :
    Deepens ClassSet.tooDeep? 0 (.op s kind a a') (.op s' kind b b') := by
  intro limit depth depth' hdepth hdepth' hnone
  rw [ClassSet.tooDeep?, level_eq_none, Option.orElse_eq_none] at hnone ⊢
  obtain ⟨hlt, ha, ha'⟩ := hnone
  refine ⟨by omega, ?_, ?_⟩
  · exact h limit (depth + 1) (depth' + 1) hlt (Nat.succ_le_succ hdepth') ha
  · exact h' limit (depth + 1) (depth' + 1) hlt (Nat.succ_le_succ hdepth') ha'

/-- **The set of members** that are put for others. -/
theorem Spreads.toSet {m m' : Members} (h : Spreads ClassSet.tooDeep? m.items m'.items) :
    Deepens ClassSet.tooDeep? 0 m.toSet m'.toSet := by
  intro limit depth depth' hdepth hdepth' hm
  rw [tooDeep?_toSet] at hm ⊢
  exact h.joined hdepth hdepth' hm

end

/-! ## Trees -/

section

variable {a b : Tree}

/-- Atoms may be put for any tree. -/
theorem spread_of_atoms {as : List Atom} (hne : as ≠ []) (t : Tree) :
    Spread Tree.tooDeep? t (as.map Atom.toTree) := by
  refine .several (fun h => hne (List.map_eq_nil_iff.1 h)) fun b hb _ _ _ _ _ _ => ?_
  obtain ⟨a, -, rfl⟩ := List.mem_map.1 hb
  cases a <;> rfl

theorem deepens_flags (t : Tree) (s fs : Span) (items : List FlagItem) :
    Deepens Tree.tooDeep? 0 t (.flags s fs items) := fun _ _ _ _ _ _ => rfl

theorem deepens_class {set set' : ClassSet} (h : Deepens ClassSet.tooDeep? 0 set set')
    (s s' : Span) (negated : Bool) :
    Deepens Tree.tooDeep? 0 (.bracketed s negated set) (.bracketed s' negated set') :=
  h.level (Nat.zero_le 1) (fun _ _ => level_eq_none) fun _ _ => level_eq_none

theorem deepens_group (h : Deepens Tree.tooDeep? 0 a b) (s s' : Span) (kind kind' : GroupKind) :
    Deepens Tree.tooDeep? 0 (.group s kind a) (.group s' kind' b) :=
  h.level (Nat.zero_le 1) (fun _ _ => level_eq_none) fun _ _ => level_eq_none

theorem deepens_alternation {as bs : List Tree}
    (h : List.Forall₂ (Deepens Tree.tooDeep? 0) as bs) (s s' : Span) :
    Deepens Tree.tooDeep? 0 (.alternation s as) (.alternation s' bs) := by
  intro limit depth depth' hdepth hdepth' hnone
  rw [Tree.tooDeep?, level_eq_none] at hnone ⊢
  obtain ⟨hlt, ha⟩ := hnone
  refine ⟨by omega, ?_⟩
  induction h with
  | nil => rfl
  | cons hab hrest ih =>
    rw [Tree.anyTooDeep?, Option.orElse_eq_none] at ha ⊢
    exact ⟨hab limit (depth + 1) (depth' + 1) hlt (Nat.succ_le_succ hdepth') ha.1, ih ha.2⟩

/-- What is put for a tree, with the last of it repeated, may be put for the tree when
that is repeated. -/
theorem Spread.repeated {ts : List Tree} (h : Spread Tree.tooDeep? a (ts ++ [b]))
    (s s' opSpan opSpan' : Span) (kind : RepetitionKind) (greedy : Bool) :
    Spread Tree.tooDeep? (.repetition s opSpan kind greedy a)
      (ts ++ [.repetition s' opSpan' kind greedy b]) := by
  generalize hall : ts ++ [b] = all at h
  cases h with
  | one h =>
    rcases List.append_eq_singleton_iff.1 hall with ⟨rfl, hb⟩ | ⟨-, hb⟩
    · obtain rfl := List.singleton_inj.1 hb
      exact .one (h.level (Nat.zero_le 1) (fun _ _ => level_eq_none) fun _ _ => level_eq_none)
    · cases hb
  | several hne h =>
    subst hall
    obtain ⟨hts, hb⟩ := List.forall_mem_append.1 h
    refine .several (List.append_ne_nil_of_right_ne_nil _ (List.cons_ne_nil _ _)) ?_
    refine List.forall_mem_append.2 ⟨fun t ht => ?_, List.forall_mem_singleton.2 ?_⟩
    · intro limit depth depth' hdepth hdepth' hnone
      obtain ⟨hlt, ha⟩ := level_eq_none.1 hnone
      exact hts t ht limit (depth + 1) depth' hlt (by omega) ha
    · exact (List.forall_mem_singleton.1 hb).level (Nat.le_refl 1) (fun _ _ => level_eq_none)
        fun _ _ => level_eq_none

/-- **The tree of items** that are put for others. -/
theorem Spreads.toTree {i i' : Items} (h : Spreads Tree.tooDeep? i.trees i'.trees)
    (stop stop' : Nat) : Deepens Tree.tooDeep? 0 (i.toTree stop) (i'.toTree stop') := by
  intro limit depth depth' hdepth hdepth' hi
  rw [tooDeep?_toTree] at hi ⊢
  exact h.joined hdepth hdepth' hi

end

end Multiscan.Syntax
