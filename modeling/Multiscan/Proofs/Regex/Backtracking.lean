import Multiscan.Proofs.Regex.Standing
/-!
# Regex — the search finds what comes first

The machine tries nothing twice: a place that has been tried at an offset is passed
over there. This loses no match and changes none, as long as every round of a
repetition without bound takes bytes. What failed once fails again, for the name of a
place says what is still to be matched; and nothing is come to while it is being
tried, for no step leads back (`explore_finds`).

So the search returns the leftmost offset from which there is a match, and the first
of its ends (`search_eq`); and it returns nothing only where there is no match
(`search_eq_none_iff`).
-/

namespace Multiscan.Regex

open Text (Bytes)

variable {bs : Bytes} {root r x : Regex} {s : List Frame}
variable {pos pos' : Nat}

/-! ## Steps of a run -/

theorem Standing.keepsEnds (h : Standing root pos s) (hroot : root.Advancing)
    (hpos : pos ≤ bs.size) : (step bs pos s).KeepsEnds bs pos s := by
  obtain ⟨_, hover⟩ := h.belongs
  exact keepsEnds_step hpos (hover.advancing hroot).1 h.fresh

theorem Standing.goesOn (h : Standing root pos s) (hroot : root.Advancing) (bs : Bytes) :
    (step bs pos s).GoesOn root bs pos s := by
  obtain ⟨_, hover⟩ := h.belongs
  exact goesOn_step bs (hover.advancing hroot).1 h

theorem Ahead.le {n n' : Nat} (h : Ahead bs pos n pos' n') (hpos : pos ≤ bs.size) :
    pos' ≤ bs.size := by
  rcases h with ⟨-, hle⟩ | ⟨rfl, -⟩
  · exact hle
  · exact hpos

theorem Ahead.trans {n n' n'' pos'' : Nat} (h : Ahead bs pos n pos' n')
    (h' : Ahead bs pos' n' pos'' n'') : Ahead bs pos n pos'' n'' := by
  rcases h with ⟨hlt, hle⟩ | ⟨rfl, hlt⟩
  · rcases h' with ⟨hlt', hle'⟩ | ⟨rfl, -⟩
    · exact .inl ⟨Nat.lt_trans hlt hlt', hle'⟩
    · exact .inl ⟨hlt, hle⟩
  · rcases h' with ⟨hlt', hle⟩ | ⟨rfl, hlt'⟩
    · exact .inl ⟨hlt', hle⟩
    · exact .inr ⟨rfl, Nat.lt_trans hlt' hlt⟩

/-- What has been tried has failed, or a stack of one rank at an offset comes after
it. -/
def Settled (root : Regex) (bs : Bytes) (pos n : Nat) (tried : Tried) : Prop :=
  ∀ s x p, Over root s x → (place s, p) ∈ tried →
    stackEnds bs s p = [] ∨ Ahead bs p (rank s) pos n

/-- All that has been tried since has failed. -/
def FailsSince (root : Regex) (bs : Bytes) (tried tried' : Tried) : Prop :=
  ∀ s x p, Over root s x → (place s, p) ∈ tried' → (place s, p) ∈ tried ∨ stackEnds bs s p = []

variable {tried tried' : Tried} {n n' : Nat}

/-- To the stacks behind one that is being tried, that one comes before. -/
theorem Settled.insert (h : Settled root bs pos n tried) (hs : Over root s x) (hn : rank s = n)
    (hahead : Ahead bs pos n pos' n') :
    Settled root bs pos' n' (tried.insert (place s, pos)) := by
  intro t y p ht hmem
  rw [Std.HashSet.mem_insert, beq_iff_eq] at hmem
  rcases hmem with hsame | hmem
  · obtain ⟨hplace, rfl⟩ := Prod.mk.inj hsame
    rw [← hs.rank_eq ht hplace, hn]
    exact .inr hahead
  · exact (h t y p ht hmem).imp_right fun hbefore => hbefore.trans hahead

theorem Settled.of_failsSince (h : Settled root bs pos n tried)
    (hfails : FailsSince root bs tried tried') : Settled root bs pos n tried' :=
  fun t y p ht hmem => (hfails t y p ht hmem).elim (h t y p ht) .inl

theorem FailsSince.refl (root : Regex) (bs : Bytes) (tried : Tried) :
    FailsSince root bs tried tried := fun _ _ _ _ hmem => .inl hmem

theorem FailsSince.trans {tried'' : Tried} (h : FailsSince root bs tried tried')
    (h' : FailsSince root bs tried' tried'') : FailsSince root bs tried tried'' :=
  fun t y p ht hmem => (h' t y p ht hmem).elim (h t y p ht) .inr

theorem failsSince_insert (hs : Over root s x) (hnone : stackEnds bs s pos = []) :
    FailsSince root bs tried (tried.insert (place s, pos)) := by
  intro t y p ht hmem
  rw [Std.HashSet.mem_insert, beq_iff_eq] at hmem
  rcases hmem with hsame | hmem
  · obtain ⟨hplace, rfl⟩ := Prod.mk.inj hsame
    rw [← hs.ends_eq ht hplace]
    exact .inr hnone
  · exact .inl hmem

/-! ## Runs -/

/-- **A run finds the first end**, and tries in vain if there is none. -/
theorem explore_finds (hroot : root.Advancing) (h : Standing root pos s) (hpos : pos ≤ bs.size)
    (hsettled : Settled root bs pos (rank s) tried) :
    (explore bs pos s tried).1 = (stackEnds bs s pos).head? ∧
      (stackEnds bs s pos = [] → FailsSince root bs tried (explore bs pos s tried).2) := by
  fun_induction explore bs pos s tried with
  | case1 pos s tried hmem =>
    obtain ⟨x, hover⟩ := h.belongs
    -- It does not come after itself.
    have hnone : stackEnds bs s pos = [] := by
      refine (hsettled s x pos hover (Std.HashSet.contains_iff_mem.1 hmem)).resolve_right ?_
      rintro (⟨hlt, -⟩ | ⟨-, hlt⟩) <;> exact Nat.lt_irrefl _ hlt
    rw [hnone]
    exact ⟨rfl, fun _ => .refl root bs tried⟩
  | case2 pos s tried hnew =>
    rename_i hstep
    have hends := h.keepsEnds hroot hpos
    rw [hstep] at hends
    rw [hends]
    exact ⟨rfl, fun hnone => absurd hnone (List.cons_ne_nil _ _)⟩
  | case3 pos s tried hnew =>
    rename_i hstep
    obtain ⟨x, hover⟩ := h.belongs
    have hends := h.keepsEnds hroot hpos
    rw [hstep] at hends
    exact ⟨congrArg List.head? hends.symm, failsSince_insert hover⟩
  | case4 pos s tried hnew =>
    rename_i hstep _ ih
    obtain ⟨x, hover⟩ := h.belongs
    have hends := h.keepsEnds hroot hpos
    have hnext := h.goesOn hroot bs
    rw [hstep] at hends hnext
    obtain ⟨hstands, hahead⟩ := hnext
    obtain ⟨hfound, hfails⟩ := ih hstands (hahead.le hpos) (hsettled.insert hover rfl hahead)
    rw [hends]
    refine ⟨hfound, fun hnone => ?_⟩
    exact (failsSince_insert hover (hends.trans hnone)).trans (hfails hnone)
  | case5 pos s tried hnew =>
    rename_i hstep _ stop _ hfirst ih
    obtain ⟨x, hover⟩ := h.belongs
    have hends := h.keepsEnds hroot hpos
    have hnext := h.goesOn hroot bs
    rw [hstep] at hends hnext
    obtain ⟨⟨hstands, hlower⟩, -⟩ := hnext
    obtain ⟨hfound, -⟩ := ih hstands hpos (hsettled.insert hover rfl (.inr ⟨rfl, hlower⟩))
    rw [hfirst] at hfound
    have hhead : (stackEnds bs s pos).head? = some stop := by
      rw [hends, List.head?_append, ← hfound]
      rfl
    refine ⟨hhead.symm, fun hnone => ?_⟩
    rw [hnone] at hhead
    cases hhead
  | case6 pos s tried hnew =>
    rename_i hstep _ _ hfirst ih₂ ih₁
    obtain ⟨x, hover⟩ := h.belongs
    have hends := h.keepsEnds hroot hpos
    have hnext := h.goesOn hroot bs
    rw [hstep] at hends hnext
    obtain ⟨⟨hstands, hlower⟩, hstands', hlower'⟩ := hnext
    obtain ⟨hfound, hfails⟩ := ih₂ hstands hpos (hsettled.insert hover rfl (.inr ⟨rfl, hlower⟩))
    rw [hfirst] at hfound hfails
    have hnone := List.head?_eq_none_iff.1 hfound.symm
    -- What the first side of the fork has tried is of no use to the second.
    obtain ⟨hfound', hfails'⟩ := ih₁ hstands' hpos
      ((hsettled.insert hover rfl (.inr ⟨rfl, hlower'⟩)).of_failsSince (hfails hnone))
    rw [Step.KeepsEnds, hnone, List.nil_append] at hends
    rw [hends]
    refine ⟨hfound', fun hnone' => ?_⟩
    exact ((failsSince_insert hover (hends.trans hnone')).trans (hfails hnone)).trans
      (hfails' hnone')

/-! ## The search -/

theorem standing_run (r : Regex) (pos : Nat) : Standing r pos [.run r] where
  belongs := ⟨r, .cons .nil .run⟩
  past := List.forall_mem_singleton.2 nofun
  fresh := ⟨nofun, fun _ => trivial⟩

theorem searchFrom_eq (hr : r.Advancing) {count start : Nat} (hle : start + count ≤ bs.size + 1)
    (hfails : FailsSince r bs ∅ tried) : searchFrom bs r count start tried =
      (List.range' start count).findSome? fun pos =>
        (ends bs r pos).head?.map fun stop => (pos, stop) := by
  induction count generalizing start tried with
  | zero => rfl
  | succ count ih =>
    have hsettled : Settled r bs start (rank [.run r]) tried := fun t x p ht hmem =>
      .inl ((hfails t x p ht hmem).resolve_left Std.HashSet.not_mem_empty)
    obtain ⟨hfound, hfails'⟩ := explore_finds hr (standing_run r start) (by omega) hsettled
    have hends : stackEnds bs [.run r] start = ends bs r start := List.flatMap_singleton' _
    rw [hends] at hfound hfails'
    rw [searchFrom, List.range'_succ, List.findSome?_cons, ← hfound]
    rcases hexplore : explore bs start [.run r] tried with ⟨_ | stop, tried'⟩
    · rw [hexplore] at hfound hfails'
      have hnone := List.head?_eq_none_iff.1 hfound.symm
      exact ih (by omega) (hfails.trans (hfails' hnone))
    · rfl

/-- **The search finds what comes first**: of the offsets from which there is a
match the leftmost, and of the ends of matches from there the preferred one. -/
theorem search_eq (hr : r.Advancing) (bs : Bytes) (start : Nat) : search bs r start =
    (List.range' start (bs.size + 1 - start)).findSome? fun pos =>
      (ends bs r pos).head?.map fun stop => (pos, stop) := by
  rcases Nat.lt_or_ge bs.size start with hlt | hge
  · rw [search, show bs.size + 1 - start = 0 by omega]
    rfl
  · exact searchFrom_eq hr (by omega) (.refl r bs ∅)

/-- **Nothing is missed**: no match is found only where there is none. -/
theorem search_eq_none_iff (hr : r.Advancing) (bs : Bytes) (start : Nat) :
    search bs r start = none ↔
      ∀ i j, start ≤ i → i ≤ bs.size → ¬ Matches bs r i j := by
  rw [search_eq hr, List.findSome?_eq_none_iff]
  constructor
  · intro h i j hstart hi hmatch
    have hnone := h i (List.mem_range'_1.2 ⟨hstart, by omega⟩)
    rw [Option.map_eq_none_iff, List.head?_eq_none_iff] at hnone
    exact List.not_mem_nil (hnone ▸ (mem_ends_iff hr hi).2 hmatch)
  · intro h i hi
    obtain ⟨hstart, hlt⟩ := List.mem_range'_1.1 hi
    rw [Option.map_eq_none_iff, List.head?_eq_none_iff, List.eq_nil_iff_forall_not_mem]
    intro j hj
    exact h i j hstart (by omega) (matches_of_mem_ends r hj)

end Multiscan.Regex
