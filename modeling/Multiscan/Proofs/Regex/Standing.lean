import Multiscan.Proofs.Regex.StackEnds
/-!
# Regex — no step leads back

The stacks that a machine comes to are `Standing` in the expression: each frame is
what is left of one that the frames under it say, and no loop was entered here that
can be come to without taking bytes. A step goes on in the bytes, or to a stack of a
lower `rank` (`goesOn_step`). The rank is the weight of a stack down to the first
frame that takes bytes. Other than the weight it does not depend on where loops were
entered, so that stacks at one place have one rank (`Over.rank_eq`).
-/

namespace Multiscan.Regex

open Text (Bytes)

variable {bs : Bytes} {root r x y : Regex} {f : Frame} {s s' k : List Frame}
variable {pos pos' : Nat}

/-! ## Ranks -/

/-- What is still to be done at an offset: the weight of a stack down to the first
frame that takes bytes. -/
def rank : List Frame → Nat
  | [] => 0
  | f :: k => f.reset.weight 0 + if f.skippable then rank k else 0

theorem rank_reset (s : List Frame) : rank (s.map Frame.reset) = rank s := by
  induction s with
  | nil => rfl
  | cons f k ih =>
    rw [List.map_cons, rank, rank, ih]
    cases f <;> rfl

/-- And they have the same rank. -/
theorem Over.rank_eq {s' : List Frame} {y' : Regex} (h : Over root s y) (h' : Over root s' y')
    (hplace : place s = place s') : rank s = rank s' := by
  rw [← rank_reset s, (h.unique h' hplace).1, rank_reset]

/-! ## Stacks that are come to -/

/-- No loop was entered further on. -/
def Past (pos : Nat) (s : List Frame) : Prop := ∀ f ∈ s, ∀ e ∈ f.entered, e ≤ pos

/-- Further on, no loop has been entered. -/
theorem Past.fresh (h : Past pos s) (hlt : pos < pos') : Fresh pos' s := by
  induction s with
  | nil => trivial
  | cons f k ih =>
    obtain ⟨hf, hk⟩ := List.forall_mem_cons.1 h
    refine ⟨fun hentered => ?_, fun _ => ih hk⟩
    have hle := hf pos' hentered
    omega

theorem Past.mono (h : Past pos s) (hle : pos ≤ pos') : Past pos' s :=
  fun f hf e he => Nat.le_trans (h f hf e he) hle

/-- A stack to which a machine can come at an offset. -/
structure Standing (root : Regex) (pos : Nat) (s : List Frame) : Prop where
  belongs : ∃ x, Over root s x
  past : Past pos s
  fresh : Fresh pos s

/-- A stack of one rank at an offset comes after one of another: it is further on,
within the bytes, or in the same place and of a lower rank. -/
def Ahead (bs : Bytes) (pos n pos' n' : Nat) : Prop :=
  (pos < pos' ∧ pos' ≤ bs.size) ∨ (pos' = pos ∧ n' < n)

/-- What a step leads to can be come to, and comes after the stack before it. -/
def Step.GoesOn (root : Regex) (bs : Bytes) (pos : Nat) (s : List Frame) : Step → Prop
  | .accept | .dead => True
  | .move s' pos' => Standing root pos' s' ∧ Ahead bs pos (rank s) pos' (rank s')
  | .fork a b => (Standing root pos a ∧ rank a < rank s) ∧ Standing root pos b ∧ rank b < rank s

theorem goesOn_forkOf {greedy : Bool} {a b : List Frame}
    (ha : Standing root pos a ∧ rank a < rank s) (hb : Standing root pos b ∧ rank b < rank s) :
    (forkOf greedy a b).GoesOn root bs pos s := by
  cases greedy
  · exact ⟨hb, ha⟩
  · exact ⟨ha, hb⟩

theorem goesOn_move (h : Standing root pos s') (hrank : rank s' < rank s) :
    (Step.move s' pos).GoesOn root bs pos s := ⟨h, .inr ⟨rfl, hrank⟩⟩

/-- What is under the top of a stack can be come to where the top has been done. -/
theorem Standing.under (h : Standing root pos (f :: k)) (hskip : f.skippable = true) :
    Standing root pos k := by
  obtain ⟨_, hover⟩ := h.belongs
  cases hover with
  | cons hover _ => exact ⟨⟨_, hover⟩, (List.forall_mem_cons.1 h.past).2, h.fresh.2 hskip⟩

/-- And further on in any case. -/
theorem Standing.further (h : Standing root pos (f :: k)) (hlt : pos < pos') :
    Standing root pos' k := by
  obtain ⟨_, hover⟩ := h.belongs
  have hpast : Past pos k := (List.forall_mem_cons.1 h.past).2
  cases hover with
  | cons hover _ => exact ⟨⟨_, hover⟩, hpast.mono (Nat.le_of_lt hlt), hpast.fresh hlt⟩

theorem rank_under (hskip : f.skippable = true) : rank k < rank (f :: k) := by
  have hpos : 0 < f.reset.weight 0 := by
    cases f <;> simp only [Frame.reset, Frame.weight] <;> try omega
    · exact one_le_cost _
    · simp
  rw [rank, if_pos hskip]
  omega

theorem goesOn_under (h : Standing root pos (f :: k)) (hskip : f.skippable = true) :
    (Step.move k pos).GoesOn root bs pos (f :: k) :=
  goesOn_move (h.under hskip) (rank_under hskip)

/-- Frames that can take the place of one on a stack. -/
structure Frame.Opens (f : Frame) (new : List Frame) : Prop where
  belongs : ∀ {x y}, f.Belongs x y → ∃ z, Over x new z
  entered : ∀ g ∈ new, g.entered = none
  skippable : new.all Frame.skippable = true → f.skippable = true
  lighter : Regex.weight 0 new < f.reset.weight 0

theorem Over.append {new : List Frame} (h : Over root k x) (hnew : Over x new y) :
    Over root (new ++ k) y := by
  induction hnew with
  | nil => exact h
  | cons _ hf ih => exact .cons ih hf

theorem fresh_append {new : List Frame} (hnew : ∀ g ∈ new, g.entered = none)
    (h : new.all Frame.skippable = true → Fresh pos k) : Fresh pos (new ++ k) := by
  induction new with
  | nil => exact h rfl
  | cons g rest ih =>
    obtain ⟨hg, hrest⟩ := List.forall_mem_cons.1 hnew
    refine ⟨fun hentered => ?_, fun hskip => ih hrest fun hall => ?_⟩
    · rw [hg] at hentered
      cases hentered
    · exact h (Bool.and_eq_true_iff.2 ⟨hskip, hall⟩)

theorem Frame.reset_of_none (h : f.entered = none) : f.reset = f := by
  cases f with
  | loop r greedy entered => rw [Frame.reset, show entered = none from h]
  | _ => rfl

theorem rank_append_le {new : List Frame} (hnew : ∀ g ∈ new, g.entered = none) :
    rank (new ++ k) ≤ weight 0 new + if new.all Frame.skippable then rank k else 0 := by
  induction new with
  | nil => exact Nat.le_of_eq (Nat.zero_add _).symm
  | cons g rest ih =>
    obtain ⟨hg, hrest⟩ := List.forall_mem_cons.1 hnew
    have hle := ih hrest
    rw [List.cons_append, rank, weight_cons, List.all_cons, Frame.reset_of_none hg]
    cases g.skippable
    · exact Nat.le_trans (Nat.le_add_right _ _) (Nat.le_add_right _ _)
    · rw [if_pos rfl, Bool.true_and, Nat.add_assoc]
      exact Nat.add_le_add_left hle _

/-- **Opening the top of a stack** leads to a stack that can be come to, of a lower
rank. -/
theorem Standing.opened {new : List Frame} (h : Standing root pos (f :: k)) (hf : f.Opens new) :
    Standing root pos (new ++ k) ∧ rank (new ++ k) < rank (f :: k) := by
  obtain ⟨y, hstack⟩ := h.belongs
  have hpast : Past pos new := by
    intro g hg e he
    rw [hf.entered g hg] at he
    cases he
  refine ⟨⟨?_, List.forall_mem_append.2 ⟨hpast, (List.forall_mem_cons.1 h.past).2⟩,
    fresh_append hf.entered fun hall => h.fresh.2 (hf.skippable hall)⟩, ?_⟩
  · cases hstack with
    | cons hstack hbelongs =>
      obtain ⟨z, hnew⟩ := hf.belongs hbelongs
      exact ⟨z, hstack.append hnew⟩
  · have hle : rank (new ++ k) ≤ _ := rank_append_le hf.entered
    have hlighter := hf.lighter
    by_cases hall : new.all Frame.skippable = true
    · rw [if_pos hall] at hle
      rw [rank, if_pos (hf.skippable hall)]
      omega
    · rw [if_neg hall] at hle
      rw [rank]
      omega

theorem goesOn_opened {new : List Frame} (h : Standing root pos (f :: k)) (hf : f.Opens new) :
    (Step.move (new ++ k) pos).GoesOn root bs pos (f :: k) :=
  goesOn_move (h.opened hf).1 (h.opened hf).2

/-! ### What opens into what -/

theorem opens_capture (index : Nat) (name : Option String) (sub : Regex) :
    (Frame.run (.capture index name sub)).Opens [.run sub, .branch 0] where
  belongs h := by
    cases h
    exact ⟨_, .cons (.cons .nil (.number rfl)) .run⟩
  entered := by simp [Frame.entered]
  skippable := by simp [Frame.skippable, nullable]
  lighter := by simp [weight, Frame.weight, Frame.reset, cost]

theorem opens_concat (parts : List Regex) : (Frame.run (.concat parts)).Opens [.parts parts] where
  belongs h := by
    cases h
    exact ⟨_, .cons .nil (.parts [] parts rfl)⟩
  entered := by simp [Frame.entered]
  skippable := by simp [Frame.skippable, nullable]
  lighter := by simp [weight, Frame.weight, Frame.reset, cost]

theorem opens_alternation (alts : List Regex) :
    (Frame.run (.alternation alts)).Opens [.choice 0 alts] where
  belongs h := by
    cases h
    exact ⟨_, .cons .nil (.choice [] alts rfl)⟩
  entered := by simp [Frame.entered]
  skippable := by simp [Frame.skippable, nullable]
  lighter := by simp [weight, Frame.weight, Frame.reset, cost]

theorem opens_bounded (min max : Nat) (greedy : Bool) (sub : Regex) :
    (Frame.run (.repetition min (some max) greedy sub)).Opens
      [.copies sub min, .options sub greedy (max - min)] where
  belongs h := by
    cases h
    exact ⟨_, .cons (.cons .nil (.options _ rfl)) (.copies _)⟩
  entered := by simp [Frame.entered]
  skippable := by simp [Frame.skippable, nullable]
  lighter := by
    simp only [weight, List.foldr, Frame.weight, Frame.reset, cost]
    omega

theorem opens_loop (greedy : Bool) (sub : Regex) :
    (Frame.run (.repetition 0 none greedy sub)).Opens [.loop sub greedy none] where
  belongs h := by
    cases h
    exact ⟨_, .cons .nil (.loop _ rfl)⟩
  entered := by simp [Frame.entered]
  skippable := by simp [Frame.skippable, nullable]
  lighter := by simp [weight, Frame.weight, Frame.reset, cost]

theorem opens_unbounded (min : Nat) (greedy : Bool) (sub : Regex) :
    (Frame.run (.repetition (min + 1) none greedy sub)).Opens
      [.copies sub min, .run sub, .loop sub greedy none] where
  belongs h := by
    cases h
    exact ⟨_, .cons (.cons (.cons .nil (.loop _ rfl)) .run) (.copies _)⟩
  entered := by simp [Frame.entered]
  skippable := by simp [Frame.skippable, nullable]
  lighter := by
    simp only [weight, List.foldr, Frame.weight, Frame.reset, cost, Nat.succ_mul, reduceCtorEq,
      if_false]
    omega

theorem opens_parts (r : Regex) (rs : List Regex) :
    (Frame.parts (r :: rs)).Opens [.run r, .parts rs] where
  belongs h := by
    cases h with
    | parts front _ h =>
      have hlast : (front ++ [r]).getLast?.getD .empty = r := by simp
      have hrest := Frame.Belongs.parts (front ++ [r]) rs (by simpa using h)
      rw [hlast] at hrest
      exact ⟨_, .cons (.cons .nil hrest) .run⟩
  entered := by simp [Frame.entered]
  skippable := by simp [Frame.skippable, allNullable]
  lighter := by
    simp only [weight, List.foldr, Frame.weight, Frame.reset, totalCost]
    omega

theorem opens_alternative (n : Nat) (r : Regex) (rs : List Regex) :
    (Frame.choice n (r :: rs)).Opens [.run r, .branch n] where
  belongs h := by
    cases h with
    | choice front _ h => exact ⟨_, .cons (.cons .nil (.branch front r rs h)) .run⟩
  entered := by simp [Frame.entered]
  skippable h := by
    have hr : r.nullable = true := (Bool.and_eq_true_iff.1 h).1
    rw [Frame.skippable, anyNullable, hr, Bool.true_or]
  lighter := by
    simp only [weight, List.foldr, Frame.weight, Frame.reset, totalCost]
    omega

theorem opens_choice (n : Nat) (r : Regex) (rs : List Regex) :
    (Frame.choice n (r :: rs)).Opens [.choice (n + 1) rs] where
  belongs h := by
    cases h with
    | choice front _ h =>
      have hrest := Frame.Belongs.choice (front ++ [r]) rs (by simpa using h)
      rw [List.length_append] at hrest
      exact ⟨_, .cons .nil hrest⟩
  entered := by simp [Frame.entered]
  skippable := by simp +contextual [Frame.skippable, anyNullable]
  lighter := by
    simp only [weight, List.foldr, Frame.weight, Frame.reset, totalCost]
    omega

theorem opens_copies (r : Regex) (left : Nat) :
    (Frame.copies r (left + 1)).Opens [.run r, .copies r left] where
  belongs h := by
    cases h
    exact ⟨_, .cons (.cons .nil (.copies _)) .run⟩
  entered := by simp [Frame.entered]
  skippable := by simp +contextual [Frame.skippable]
  lighter := by
    simp only [weight, List.foldr, Frame.weight, Frame.reset, Nat.succ_mul]
    omega

theorem opens_options (r : Regex) (greedy : Bool) (left : Nat) :
    (Frame.options r greedy (left + 1)).Opens [.run r, .options r greedy left] where
  belongs h := by
    cases h with
    | options _ h => exact ⟨_, .cons (.cons .nil (.options _ h)) .run⟩
  entered := by simp [Frame.entered]
  skippable _ := rfl
  lighter := by
    simp only [weight, List.foldr, Frame.weight, Frame.reset, Nat.succ_mul]
    omega

/-- Another round of a loop takes bytes before the loop is come to again. -/
theorem Standing.round {greedy : Bool} (h : Standing root pos (f :: k)) (hr : r.nullable = false)
    (hover : ∀ {x y}, f.Belongs x y → (Frame.loop r greedy (some pos)).Belongs x r)
    (hcost : cost r < f.reset.weight 0) :
    Standing root pos (.run r :: .loop r greedy (some pos) :: k) ∧
      rank (.run r :: .loop r greedy (some pos) :: k) < rank (f :: k) := by
  obtain ⟨_, hstack⟩ := h.belongs
  have hskip : ¬ (Frame.run r).skippable = true := fun hskip => nomatch hr.symm.trans hskip
  refine ⟨⟨?_, ?_, nofun, fun hskip' => absurd hskip' hskip⟩, ?_⟩
  · cases hstack with
    | cons hstack hf => exact ⟨_, .cons (.cons hstack (hover hf)) .run⟩
  · have hentered : ∀ e ∈ (Frame.loop r greedy (some pos)).entered, e ≤ pos :=
      fun e he => Nat.le_of_eq (Option.some.inj he).symm
    exact List.forall_mem_cons.2 ⟨nofun, List.forall_mem_cons.2
      ⟨hentered, (List.forall_mem_cons.1 h.past).2⟩⟩
  · rw [rank, if_neg hskip, rank]
    exact Nat.lt_of_lt_of_le hcost (Nat.le_add_right _ _)

/-! ### Steps -/

theorem goesOn_runStep (bs : Bytes) (hr : r.Advancing) (h : Standing root pos (.run r :: k)) :
    (runStep bs pos r k).GoesOn root bs pos (.run r :: k) := by
  unfold runStep
  split
  · exact goesOn_under h rfl
  · next bytes =>
    split
    · next hbytes =>
      cases bytes with
      | nil => exact goesOn_under h rfl
      | cons b rest =>
        have hlt : pos < pos + (b :: rest).length := Nat.lt_add_of_pos_right (Nat.succ_pos _)
        exact ⟨h.further hlt, .inl ⟨hlt, bytesAt_le hbytes⟩⟩
    · trivial
  · split
    · next hsymbol => exact ⟨h.further (symbolAt?_le hsymbol).1, .inl (symbolAt?_le hsymbol)⟩
    · trivial
  · split
    · exact goesOn_under h rfl
    · trivial
  · exact goesOn_opened h (opens_capture _ _ _)
  · exact goesOn_opened h (opens_concat _)
  · exact goesOn_opened h (opens_alternation _)
  · exact goesOn_opened h (opens_bounded _ _ _ _)
  · next greedy sub =>
    split
    · exact goesOn_opened h (opens_loop greedy sub)
    · refine goesOn_forkOf (h.round (hr.1 rfl) ?_ ?_) ⟨h.under rfl, rank_under rfl⟩
      · intro x y hx
        cases hx
        exact .loop _ rfl
      · simp only [Frame.reset, Frame.weight, cost]
        omega
  · exact goesOn_opened h (opens_unbounded _ _ _)

/-- **No step leads back.** -/
theorem goesOn_step (bs : Bytes) (hs : ∀ f ∈ s, f.Advancing) (h : Standing root pos s) :
    (step bs pos s).GoesOn root bs pos s := by
  unfold step
  split
  · trivial
  · exact goesOn_runStep bs (hs _ List.mem_cons_self) h
  · exact goesOn_under h rfl
  · exact goesOn_opened h (opens_parts _ _)
  · trivial
  · exact ⟨h.opened (opens_alternative _ _ _), h.opened (opens_choice _ _ _)⟩
  · exact goesOn_under h rfl
  · exact goesOn_under h rfl
  · exact goesOn_opened h (opens_copies _ _)
  · exact goesOn_under h rfl
  · exact goesOn_forkOf (h.opened (opens_options _ _ _)) ⟨h.under rfl, rank_under rfl⟩
  · next r greedy entered k =>
    split
    · next hentered => exact absurd hentered h.fresh.1
    · refine goesOn_forkOf (h.round (hs _ List.mem_cons_self).1 ?_ ?_) ⟨h.under rfl, rank_under rfl⟩
      · intro x y hx
        cases hx with
        | loop _ hx => exact .loop _ hx
      · exact Nat.lt_add_of_pos_right (by decide)

end Multiscan.Regex
