import Multiscan.Syntax.AsciiClasses
/-!
# Syntax — what becomes of the nodes of a tree

A tree and the sets in its brackets are made of nodes. A node is what it is by itself
(`Node.alone`) and what stands below it (`Node.below`), and nothing else
(`Node.eq_of_alone_of_below`). Where shorthand classes are replaced by ASCII classes, a
node that is not replaced stays what it is, and what stands below it is rewritten in its
place (`Node.alone_toAscii`, `Node.below_toAscii`). So every node of the tree is found again
on the same path, and all that comes in stands directly below a node that was replaced.
-/

namespace Multiscan.Syntax

theorem Tree.allToAscii_eq_map (ts : List Tree) : Tree.allToAscii ts = ts.map Tree.toAscii := by
  induction ts with
  | nil => rfl
  | cons t ts ih => rw [Tree.allToAscii, ih, List.map_cons]

theorem ClassSet.allToAscii_eq_map (sets : List ClassSet) :
    ClassSet.allToAscii sets = sets.map ClassSet.toAscii := by
  induction sets with
  | nil => rfl
  | cons s sets ih => rw [ClassSet.allToAscii, ih, List.map_cons]

/-! ## Nodes -/

/-- A node of a tree, or of a set inside brackets. -/
inductive Node
  | tree (t : Tree)
  | set (s : ClassSet)

namespace Node

/-- The nodes directly below one, in order. -/
def below : Node → List Node
  | .tree (.bracketed _ _ inner) => [.set inner]
  | .tree (.repetition _ _ _ _ sub) => [.tree sub]
  | .tree (.group _ _ sub) => [.tree sub]
  | .tree (.alternation _ ts) => ts.map .tree
  | .tree (.concat _ ts) => ts.map .tree
  | .set (.bracketed _ _ inner) => [.set inner]
  | .set (.union _ items) => items.map .set
  | .set (.op _ _ lhs rhs) => [.set lhs, .set rhs]
  | _ => []

/-- A node with nothing below it: what stood there is blank, or is no more. -/
def alone : Node → Node
  | .tree (.bracketed s negated _) => .tree (.bracketed s negated (.empty s))
  | .tree (.repetition s opSpan kind greedy _) =>
    .tree (.repetition s opSpan kind greedy (.empty s))
  | .tree (.group s kind _) => .tree (.group s kind (.empty s))
  | .tree (.alternation s _) => .tree (.alternation s [])
  | .tree (.concat s _) => .tree (.concat s [])
  | .set (.bracketed s negated _) => .set (.bracketed s negated (.empty s))
  | .set (.union s _) => .set (.union s [])
  | .set (.op s kind _ _) => .set (.op s kind (.empty s) (.empty s))
  | n => n

/-- The node at the end of a path, each step of which picks one of the nodes below. -/
def at? (n : Node) : List Nat → Option Node
  | [] => some n
  | i :: path => n.below[i]?.bind (·.at? path)

/-- A node with its shorthand classes and plain word boundaries replaced. -/
def toAscii : Node → Node
  | .tree t => .tree t.toAscii
  | .set s => .set s.toAscii

/-- The nodes that are replaced. -/
inductive Replaced : Node → Prop
  | shorthand (c : Shorthand) : Replaced (.tree (.shorthand c))
  | item (c : Shorthand) : Replaced (.set (.shorthand c))
  | wordBoundary (s : Span) : Replaced (.tree (.assertion s .wordBoundary))
  | notWordBoundary (s : Span) : Replaced (.tree (.assertion s .notWordBoundary))

/-- The shorthand classes, outside of brackets and inside. -/
def IsShorthand (n : Node) : Prop := ∃ c, n = .tree (.shorthand c) ∨ n = .set (.shorthand c)

variable {n m : Node} {path : List Nat}

/-- **A node is what it is alone and what stands below it.** -/
theorem eq_of_alone_of_below (halone : n.alone = m.alone) (hbelow : n.below = m.below) :
    n = m := by
  have hsets (xs ys : List ClassSet) : xs.map Node.set = ys.map Node.set ↔ xs = ys :=
    List.map_inj_right fun _ _ => Node.set.inj
  have htrees (xs ys : List Tree) : xs.map Node.tree = ys.map Node.tree ↔ xs = ys :=
    List.map_inj_right fun _ _ => Node.tree.inj
  -- Alone, both are of one kind, and agree in all that does not stand below.
  cases n with
  | tree t =>
    cases m with
    | tree t' => cases t <;> cases t' <;> simp_all [alone, below]
    | set s => cases t <;> cases s <;> simp [alone] at halone
  | set s =>
    cases m with
    | tree t => cases t <;> cases s <;> simp [alone] at halone
    | set s' => cases s <;> cases s' <;> simp_all [alone, below]

theorem sizeOf_lt_of_mem_below (h : m ∈ n.below) : sizeOf m < sizeOf n := by
  cases n with
  | tree t =>
    cases t with
    | alternation s ts | concat s ts =>
      obtain ⟨t, ht, rfl⟩ := List.mem_map.1 h
      have hlt := List.sizeOf_lt_of_mem ht
      simp only [Node.tree.sizeOf_spec, Tree.alternation.sizeOf_spec, Tree.concat.sizeOf_spec]
      omega
    | bracketed | repetition | group =>
      obtain rfl := List.mem_singleton.1 h
      simp only [Node.tree.sizeOf_spec, Node.set.sizeOf_spec, Tree.bracketed.sizeOf_spec,
        Tree.repetition.sizeOf_spec, Tree.group.sizeOf_spec]
      omega
    | _ => cases h
  | set s =>
    cases s with
    | union s sets =>
      obtain ⟨set, hset, rfl⟩ := List.mem_map.1 h
      have hlt := List.sizeOf_lt_of_mem hset
      simp only [Node.set.sizeOf_spec, ClassSet.union.sizeOf_spec]
      omega
    | bracketed =>
      obtain rfl := List.mem_singleton.1 h
      simp only [Node.set.sizeOf_spec, ClassSet.bracketed.sizeOf_spec]
      omega
    | op s kind lhs rhs =>
      rcases List.mem_cons.1 h with rfl | h
      · simp only [Node.set.sizeOf_spec, ClassSet.op.sizeOf_spec]
        omega
      · obtain rfl := List.mem_singleton.1 h
        simp only [Node.set.sizeOf_spec, ClassSet.op.sizeOf_spec]
        omega
    | _ => cases h

/-- What holds of a node as soon as it holds of those below it holds of every node. -/
theorem induction_on_below {motive : Node → Prop}
    (step : ∀ n : Node, (∀ m ∈ n.below, motive m) → motive n) (n : Node) : motive n :=
  step n fun m _ => induction_on_below step m
termination_by sizeOf n
decreasing_by exact sizeOf_lt_of_mem_below ‹_›

/-! ## One node -/

/-- **A node that is not replaced stays what it is.** -/
theorem alone_toAscii (h : ¬ n.Replaced) : n.toAscii.alone = n.alone := by
  cases n with
  | tree t =>
    cases t with
    | shorthand c => exact absurd (.shorthand c) h
    | assertion s kind =>
      cases kind with
      | wordBoundary => exact absurd (.wordBoundary s) h
      | notWordBoundary => exact absurd (.notWordBoundary s) h
      | _ => rfl
    | _ => rfl
  | set s =>
    cases s with
    | shorthand c => exact absurd (.item c) h
    | _ => rfl

/-- **What stands below it is rewritten in its place.** -/
theorem below_toAscii (h : ¬ n.Replaced) : n.toAscii.below = n.below.map toAscii := by
  cases n with
  | tree t =>
    cases t with
    | shorthand c => exact absurd (.shorthand c) h
    | assertion s kind =>
      cases kind with
      | wordBoundary => exact absurd (.wordBoundary s) h
      | notWordBoundary => exact absurd (.notWordBoundary s) h
      | _ => rfl
    | alternation s ts =>
      simp only [toAscii, below, Tree.toAscii, Tree.allToAscii_eq_map, List.map_map]
      rfl
    | concat s ts =>
      simp only [toAscii, below, Tree.toAscii, Tree.allToAscii_eq_map, List.map_map]
      rfl
    | _ => rfl
  | set s =>
    cases s with
    | shorthand c => exact absurd (.item c) h
    | union s sets =>
      simp only [toAscii, below, ClassSet.toAscii, ClassSet.allToAscii_eq_map, List.map_map]
      rfl
    | _ => rfl

/-- What is replaced is a leaf. -/
theorem Replaced.below_eq (h : n.Replaced) : n.below = [] := by
  cases h with
  | _ => rfl

/-- What comes in below a node that was replaced is one leaf, and no shorthand class. -/
theorem Replaced.of_getElem?_below {i : Nat} (h : n.Replaced)
    (hm : n.toAscii.below[i]? = some m) : i = 0 ∧ m.below = [] ∧ ¬ m.IsShorthand := by
  cases h with
  | item => cases hm
  | shorthand | wordBoundary | notWordBoundary =>
    cases i with
    | zero =>
      obtain rfl := Option.some.inj hm
      refine ⟨rfl, rfl, ?_⟩
      rintro ⟨c, hc | hc⟩
      · cases hc
      · cases hc
    | succ i => cases hm

/-- No node is rewritten as a shorthand class. -/
theorem not_isShorthand_toAscii (n : Node) : ¬ n.toAscii.IsShorthand := by
  rintro ⟨c, hc | hc⟩
  · cases n with
    | tree t =>
      cases t with
      | assertion s kind => cases kind <;> cases hc
      | _ => cases hc
    | set s => cases hc
  · cases n with
    | tree t => cases hc
    | set s =>
      cases s with
      | _ => cases hc

/-! ## Paths -/

/-- **Every node is found again**, rewritten, on its path. -/
theorem at?_toAscii (h : n.at? path = some m) : n.toAscii.at? path = some m.toAscii := by
  induction path generalizing n with
  | nil =>
    obtain rfl : n = m := Option.some.inj h
    rfl
  | cons i path ih =>
    obtain ⟨k, hk, hm⟩ := Option.bind_eq_some_iff.1 h
    have hkept : ¬ n.Replaced := fun hreplaced => by
      rw [hreplaced.below_eq] at hk
      cases hk
    rw [at?, below_toAscii hkept, List.getElem?_map, hk]
    exact ih hm

/-- **All that is found** was there, or is no shorthand class and stands directly below a
node that was replaced. -/
theorem exists_of_at?_toAscii (h : n.toAscii.at? path = some m) :
    (∃ k, n.at? path = some k ∧ m = k.toAscii) ∨
      ¬ m.IsShorthand ∧ ∃ front k, path = front ++ [0] ∧ n.at? front = some k ∧ k.Replaced := by
  induction path generalizing n with
  | nil =>
    obtain rfl : n.toAscii = m := Option.some.inj h
    exact .inl ⟨n, rfl, rfl⟩
  | cons i path ih =>
    obtain ⟨k, hk, hm⟩ := Option.bind_eq_some_iff.1 h
    by_cases hreplaced : n.Replaced
    · obtain ⟨rfl, hleaf, hplain⟩ := hreplaced.of_getElem?_below hk
      cases path with
      | nil =>
        obtain rfl : k = m := Option.some.inj hm
        exact .inr ⟨hplain, [], n, rfl, rfl, hreplaced⟩
      | cons j path =>
        rw [at?, hleaf] at hm
        cases hm
    · rw [below_toAscii hreplaced, List.getElem?_map] at hk
      obtain ⟨l, hl, rfl⟩ := Option.map_eq_some_iff.1 hk
      have hnext (rest : List Nat) : n.at? (i :: rest) = l.at? rest := by
        rw [at?, hl, Option.bind_some]
      rcases ih hm with ⟨k, hk, rfl⟩ | ⟨hplain, front, k, rfl, hfront, hreplaced⟩
      · exact .inl ⟨k, (hnext path).trans hk, rfl⟩
      · exact .inr ⟨hplain, i :: front, k, rfl, (hnext front).trans hfront, hreplaced⟩

/-- **Where nothing is to replace** nothing changes. -/
theorem toAscii_eq_self (n : Node) (h : ∀ path k, n.at? path = some k → ¬ k.Replaced) :
    n.toAscii = n := by
  induction n using induction_on_below with
  | step n ih =>
    have hkept : ¬ n.Replaced := h [] n rfl
    refine eq_of_alone_of_below (alone_toAscii hkept) ?_
    have hbelow : ∀ m ∈ n.below, m.toAscii = id m := by
      intro m hm
      obtain ⟨i, hi⟩ := List.getElem?_of_mem hm
      refine ih m hm fun path k hk => h (i :: path) k ?_
      rw [at?, hi]
      exact hk
    rw [below_toAscii hkept, List.map_congr_left hbelow, List.map_id]

end Node

/-! ## Trees -/

/-- **All shorthand classes of a tree are replaced, and nothing else changes.** On the path
of a shorthand class outside of brackets stands a bracketed class that holds just the ASCII
class of the same kind and negation; on that of one at any depth inside of brackets the
ASCII class itself; on that of a plain word boundary a group that does not capture, says no
more than that Unicode mode is off, and holds that boundary. Any other node is found
unchanged on its path, with as many nodes below it. There are no other nodes but the inner
ones of those that were put in, and so none of them is a shorthand class; and a tree with
nothing to replace stays as it is. -/
theorem toAscii_complete (t : Tree) :
    (∀ path c, (Node.tree t).at? path = some (.tree (.shorthand c)) →
      (Node.tree t.toAscii).at? path =
        some (.tree (.bracketed c.span false (.ascii ⟨c.span, c.kind.toAscii, c.negated⟩)))) ∧
    (∀ path c, (Node.tree t).at? path = some (.set (.shorthand c)) →
      (Node.tree t.toAscii).at? path =
        some (.set (.ascii ⟨c.span, c.kind.toAscii, c.negated⟩))) ∧
    (∀ path s kind, kind = .wordBoundary ∨ kind = .notWordBoundary →
      (Node.tree t).at? path = some (.tree (.assertion s kind)) →
      ∃ items, (∀ f, flagState items f = if f = .unicode then some false else none) ∧
        (Node.tree t.toAscii).at? path =
          some (.tree (.group s (.plain s items) (.assertion s kind)))) ∧
    (∀ path n, (Node.tree t).at? path = some n → ¬ n.Replaced →
      ∃ m, (Node.tree t.toAscii).at? path = some m ∧ m.alone = n.alone ∧
        m.below.length = n.below.length) ∧
    (∀ path m, (Node.tree t.toAscii).at? path = some m → ¬ m.IsShorthand ∧
      ((∃ n, (Node.tree t).at? path = some n) ∨
        ∃ front n, path = front ++ [0] ∧ (Node.tree t).at? front = some n ∧ n.Replaced)) ∧
    ((∀ path n, (Node.tree t).at? path = some n → ¬ n.Replaced) → t.toAscii = t) := by
  have hfound {path n} (h : (Node.tree t).at? path = some n) :
      (Node.tree t.toAscii).at? path = some n.toAscii := Node.at?_toAscii h
  refine ⟨fun path c h => hfound h, fun path c h => hfound h, fun path s kind hkind h => ?_,
    fun path n h hkept => ?_, fun path m h => ?_, fun h => ?_⟩
  · refine ⟨[⟨s, .negation⟩, ⟨s, .flag .unicode⟩], fun f => ?_, ?_⟩
    · cases f <;> rfl
    · rcases hkind with rfl | rfl
      · exact hfound h
      · exact hfound h
  · refine ⟨n.toAscii, hfound h, Node.alone_toAscii hkept, ?_⟩
    rw [Node.below_toAscii hkept, List.length_map]
  · rcases Node.exists_of_at?_toAscii (n := .tree t) h with ⟨k, hk, rfl⟩ | ⟨hplain, hfront⟩
    · exact ⟨k.not_isShorthand_toAscii, .inl ⟨k, hk⟩⟩
    · exact ⟨hplain, .inr hfront⟩
  · exact Node.tree.inj ((Node.tree t).toAscii_eq_self h)

/-- The tree of `\b[\d&&[^a\W]]`: a boundary, and shorthand classes on both sides of an
operation, one of them in a union in a bracket. -/
theorem toAscii_complete_of_nested :
    let t : Tree := .concat ⟨0, 14⟩
      [.assertion ⟨0, 2⟩ .wordBoundary,
        .bracketed ⟨2, 14⟩ false (.op ⟨3, 13⟩ .intersection (.shorthand ⟨⟨3, 5⟩, .digit, false⟩)
          (.bracketed ⟨7, 13⟩ true (.union ⟨9, 12⟩
            [.literal ⟨⟨9, 10⟩, .verbatim, 'a'⟩, .shorthand ⟨⟨10, 12⟩, .word, true⟩])))]
    (Node.tree t.toAscii).at? [1, 0, 0] = some (.set (.ascii ⟨⟨3, 5⟩, .digit, false⟩)) ∧
    (Node.tree t.toAscii).at? [1, 0, 1, 0, 1] = some (.set (.ascii ⟨⟨10, 12⟩, .word, true⟩)) ∧
    (∃ items, flagState items .unicode = some false ∧ (Node.tree t.toAscii).at? [0] =
      some (.tree (.group ⟨0, 2⟩ (.plain ⟨0, 2⟩ items) (.assertion ⟨0, 2⟩ .wordBoundary)))) ∧
    ∃ m, (Node.tree t.toAscii).at? [1, 0, 1] = some m ∧
      m.alone = .set (.bracketed ⟨7, 13⟩ true (.empty ⟨7, 13⟩)) := by
  intro t
  obtain ⟨-, hitem, hboundary, hkept, -⟩ := toAscii_complete t
  obtain ⟨items, hitems, hgroup⟩ := hboundary [0] _ _ (.inl rfl) rfl
  obtain ⟨m, hm, halone, -⟩ := hkept [1, 0, 1] _ rfl fun h => by cases h
  exact ⟨hitem [1, 0, 0] _ rfl, hitem [1, 0, 1, 0, 1] _ rfl, ⟨items, hitems _, hgroup⟩, m, hm,
    halone⟩

end Multiscan.Syntax
