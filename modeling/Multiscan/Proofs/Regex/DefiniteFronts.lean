import Multiscan.Proofs.Regex.Simplifying
/-!
# Regex — definite fronts

What several alternatives start with is put before them: where `ab` and `ac` are asked
for, `a` comes first and then `b` or `c`. If the front can end in two places, this
changes the order of the ends. As it is written, the first alternative is tried from
both of them before the second is; as it is built, both alternatives are tried from the
first place. So the choice stays the same where the front is `definite`, and every
front that is found in what is left of the alternatives is (`definiteFronts`,
`sameEnds_factorAlternation`).
-/

namespace Multiscan.Regex

open Text (AllAscii Bytes)

variable {bs : Bytes} {r : Regex} {rs : List Regex} {pos : Nat}

/-! ## One end at most -/

mutual

/-- Whether all matches from an offset end in one place, as far as the form tells. -/
def definite : Regex → Bool
  | .repetition min max _ sub => max == some min && sub.definite
  | .capture _ _ sub => sub.definite
  | .concat parts => allDefinite parts
  | .alternation _ => false
  | _ => true

/-- The same for each of several expressions. -/
def allDefinite : List Regex → Bool
  | [] => true
  | r :: rs => r.definite && allDefinite rs

end

section

variable {f : Nat → List Nat} {l : List Nat} {n : Nat}

theorem length_flatMap_le_one (hl : l.length ≤ 1) (hf : ∀ q, (f q).length ≤ 1) :
    (l.flatMap f).length ≤ 1 := by
  rcases l with _ | ⟨q, _ | ⟨q', l⟩⟩
  · exact Nat.zero_le 1
  · rw [List.flatMap_singleton]
    exact hf q
  · exact absurd (Nat.le_of_succ_le_succ hl) (Nat.not_succ_le_zero _)

theorem length_exactly_le_one (hf : ∀ q, (f q).length ≤ 1) : (exactly f n pos).length ≤ 1 := by
  induction n generalizing pos with
  | zero => exact Nat.le_refl 1
  | succ n ih => exact length_flatMap_le_one (hf pos) fun q => ih

/-- What follows a single end may be told apart or not. -/
theorem flatMap_append_of_le_one {g : Nat → List Nat} (hl : l.length ≤ 1) :
    l.flatMap f ++ l.flatMap g = l.flatMap fun q => f q ++ g q := by
  rcases l with _ | ⟨q, _ | ⟨q', l⟩⟩
  · rfl
  · rw [List.flatMap_singleton, List.flatMap_singleton, List.flatMap_singleton]
  · exact absurd (Nat.le_of_succ_le_succ hl) (Nat.not_succ_le_zero _)

end

mutual

/-- **What is definite has one end at most.** -/
theorem length_ends_le_one : (r : Regex) → r.definite = true → ∀ pos, (ends bs r pos).length ≤ 1
  | .empty, _, _ => Nat.le_refl 1
  | .literal bytes, _, pos => by
    rw [ends]
    dsimp only
    split
    · exact Nat.le_refl 1
    · exact Nat.zero_le 1
  | .oneOf a s, _, pos => by
    rw [ends]
    dsimp only
    cases symbolAt? bs pos a s
    · exact Nat.zero_le 1
    · exact Nat.le_refl 1
  | .look l, _, pos => by
    rw [ends]
    dsimp only
    split
    · exact Nat.le_refl 1
    · exact Nat.zero_le 1
  | .repetition min max greedy sub, hr, pos => by
    obtain ⟨hmax, hsub⟩ := Bool.and_eq_true_iff.1 hr
    obtain rfl := beq_iff_eq.1 hmax
    have hnone : (Option.map (· - min) (some min)).getD bs.size = 0 := Nat.sub_self min
    rw [ends, hnone]
    exact length_flatMap_le_one (length_exactly_le_one (length_ends_le_one sub hsub))
      fun q => Nat.le_refl 1
  | .capture _ _ sub, hr, pos => length_ends_le_one sub hr pos
  | .concat parts, hr, pos => length_endsAll_le_one parts hr pos

theorem length_endsAll_le_one : (rs : List Regex) → allDefinite rs = true → ∀ pos,
    (endsAll bs rs pos).length ≤ 1
  | [], _, _ => Nat.le_refl 1
  | r :: rs, hrs, pos =>
    length_flatMap_le_one (length_ends_le_one r (Bool.and_eq_true_iff.1 hrs).1 pos)
      (length_endsAll_le_one rs (Bool.and_eq_true_iff.1 hrs).2)

end

/-! ## Fronts -/

/-- Whether every front that is put before alternatives is definite. -/
def definiteFronts : Nat → List Regex → Bool
  | 0, _ => true
  | fuel + 1, alts =>
    match (openAlternations alts).mapM partsOf? with
    | some (first :: rest) =>
      match rest.foldl (fun n ps => Nat.min n (commonFront first ps)) first.length with
      | 0 => true
      | n + 1 =>
        let tails := (first :: rest).map fun ps => ofConcat (ps.drop (n + 1))
        allDefinite (first.take (n + 1)) && definiteFronts fuel tails
    | _ => true

theorem endsAny_append (xs ys : List Regex) (pos : Nat) :
    endsAny bs (xs ++ ys) pos = endsAny bs xs pos ++ endsAny bs ys pos := by
  induction xs with
  | nil => rfl
  | cons x xs ih => exact (congrArg (ends bs x pos ++ ·) ih).trans (List.append_assoc ..).symm

theorem endsAny_openAlternations (rs : List Regex) (pos : Nat) :
    endsAny bs (openAlternations rs) pos = endsAny bs rs pos := by
  induction rs with
  | nil => rfl
  | cons r rs ih =>
    have hopen : openAlternations (r :: rs) = openAlternations [r] ++ openAlternations rs := by
      rw [openAlternations, List.flatMap_cons, openAlternations, List.flatMap_singleton]
      rfl
    have hr : endsAny bs (openAlternations [r]) pos = ends bs r pos := by
      rw [openAlternations, List.flatMap_singleton]
      split
      · rfl
      · exact List.append_nil _
    rw [hopen, endsAny_append, hr, ih, endsAny]

theorem ends_fail (pos : Nat) : ends bs fail pos = [] := by
  rw [fail, ends]
  dsimp only
  rw [symbolAt?]
  split <;> rfl

/-- Alternatives that are sequences are the sequences of their parts. -/
theorem eq_map_of_partsOf? {alts : List Regex} {pss : List (List Regex)}
    (h : alts.mapM partsOf? = some pss) : alts = pss.map .concat := by
  have hmap := map_eq_of_mapM h
  clear h
  induction alts generalizing pss with
  | nil => rw [List.map_eq_nil_iff.1 hmap.symm, List.map_nil]
  | cons r alts ih =>
    obtain ⟨ps, pss, rfl, hps, hrest⟩ := List.map_eq_cons_iff.1 hmap.symm
    rw [List.map_cons, ih hrest.symm]
    unfold partsOf? at hps
    split at hps
    · rw [Option.some.inj hps]
    · cases hps

theorem take_of_le_commonFront {rs qs : List Regex} {n : Nat} (h : n ≤ commonFront rs qs) :
    qs.take n = rs.take n := by
  induction rs generalizing qs n with
  | nil => rw [Nat.le_zero.1 h, List.take_zero, List.take_zero]
  | cons r rs ih =>
    cases qs with
    | nil => rw [Nat.le_zero.1 h, List.take_zero, List.take_zero]
    | cons q qs =>
      rw [commonFront] at h
      split at h
      · next hsame =>
        cases n with
        | zero => rfl
        | succ n =>
          rw [List.take_succ_cons, List.take_succ_cons, ih (Nat.le_of_succ_le_succ h),
            (beq_iff_eq (a := r)).1 hsame]
      · rw [Nat.le_zero.1 h, List.take_zero, List.take_zero]

/-- The least of several numbers is at most each of them. -/
theorem foldl_min_le {α : Type} (g : α → Nat) (m : Nat) (xs : List α) :
    xs.foldl (fun n x => Nat.min n (g x)) m ≤ m ∧
      ∀ x ∈ xs, xs.foldl (fun n x => Nat.min n (g x)) m ≤ g x := by
  induction xs generalizing m with
  | nil => exact ⟨Nat.le_refl m, nofun⟩
  | cons x xs ih =>
    obtain ⟨hle, hall⟩ := ih (Nat.min m (g x))
    exact ⟨Nat.le_trans hle (Nat.min_le_left _ _),
      List.forall_mem_cons.2 ⟨Nat.le_trans hle (Nat.min_le_right _ _), hall⟩⟩

/-- Several sequences are what they have in common before what is left of them. -/
theorem front_append_drop {first : List Regex} {rest : List (List Regex)} {n : Nat}
    (h : rest.foldl (fun n ps => Nat.min n (commonFront first ps)) first.length = n) :
    ∀ ps ∈ first :: rest, first.take n ++ ps.drop n = ps := by
  obtain ⟨-, hle⟩ := foldl_min_le (commonFront first) first.length rest
  rw [h] at hle
  refine List.forall_mem_cons.2 ⟨List.take_append_drop _ _, fun ps hps => ?_⟩
  rw [← take_of_le_commonFront (hle ps hps), List.take_append_drop]

/-- Sequences with a common front end in what is left of them ends in behind it. -/
theorem endsAny_sequences {front : List Regex} {pss : List (List Regex)} {n : Nat}
    (hfront : (endsAll bs front pos).length ≤ 1) (h : ∀ ps ∈ pss, front ++ ps.drop n = ps)
    (hpos : pos ≤ bs.size) :
    endsAny bs (pss.map .concat) pos =
      (endsAll bs front pos).flatMap (endsAny bs (pss.map fun ps => ofConcat (ps.drop n))) := by
  induction pss with
  | nil => exact (List.flatMap_eq_nil_iff.2 fun _ _ => rfl).symm
  | cons ps pss ih =>
    obtain ⟨hps, hrest⟩ := List.forall_mem_cons.1 h
    have hfirst : ends bs (.concat ps) pos =
        (endsAll bs front pos).flatMap (ends bs (ofConcat (ps.drop n))) := by
      refine (congrArg (endsAll bs · pos) hps.symm).trans ((endsAll_append _ _ _).trans ?_)
      refine List.flatMap_congr fun q hq => (ends_ofConcat _ ?_).symm
      exact le_size_of_matchesAll front (matchesAll_of_mem_endsAll front hq) hpos
    refine (congrArg₂ (· ++ ·) hfirst (ih hrest)).trans ?_
    exact flatMap_append_of_le_one hfront

/-- **Alternatives offer the same choice** behind their fronts, if these are definite. -/
theorem sameEnds_factorAlternation (hbs : AllAscii bs) (fuel : Nat)
    (hproper : ∀ r ∈ rs, r.Proper) (hadvancing : ∀ r ∈ rs, r.Advancing)
    (hfronts : definiteFronts fuel rs = true) :
    SameEnds bs (factorAlternation fuel rs) (.alternation rs) := by
  have hopen : SameEnds bs (.alternation (openAlternations rs)) (.alternation rs) :=
    fun pos _ => .of_eq (endsAny_openAlternations rs pos)
  have hproper' := closed_proper.openAlternations hproper
  have hadvancing' := closed_advancing.openAlternations hadvancing
  fun_induction factorAlternation fuel rs with
  | case1 fuel rs hnil =>
    rw [hnil] at hopen
    exact .trans (fun pos _ => .of_eq (ends_fail pos)) hopen
  | case2 fuel rs r hone =>
    rw [hone] at hopen
    exact .trans (fun pos _ => .of_eq (List.append_nil _).symm) hopen
  | case3 fuel rs r hnil hone hset =>
    exact (sameEnds_asOneSet? hbs hproper' hadvancing' hset).trans hopen
  | case4 => exact hopen
  | case5 =>
    rename_i rs fuel first rest n hfold tails _ _ _ hparts ih
    rw [definiteFronts, hparts] at hfronts
    dsimp only at hfronts
    rw [hfold] at hfronts
    obtain ⟨hfront, htails⟩ := Bool.and_eq_true_iff.1 hfronts
    have hproperTails := closed_proper.tails hproper' hparts (n + 1)
    have hadvancingTails := closed_advancing.tails hadvancing' hparts (n + 1)
    have hsame := ih hproperTails hadvancingTails htails
      (fun pos _ => .of_eq (endsAny_openAlternations tails pos))
      (closed_proper.openAlternations hproperTails)
      (closed_advancing.openAlternations hadvancingTails)
    have hcommon := front_append_drop hfold
    refine .trans (fun pos hpos => ?_) hopen
    have hone : (endsAll bs (first.take (n + 1)) pos).length ≤ 1 :=
      length_endsAll_le_one _ hfront pos
    rw [ends_ofConcat _ hpos, endsAll_append, eq_map_of_partsOf? hparts]
    refine .trans ?_ (.of_eq (endsAny_sequences hone hcommon hpos).symm)
    refine (SameChoice.refl _).flatMap fun q hq => ?_
    rw [endsAll_singleton]
    exact hsame q (le_size_of_matchesAll _ (matchesAll_of_mem_endsAll _ hq) hpos)
  | case6 => exact hopen

/-- Two digits before an a or a b are a definite front, digits in any number are none. -/
example :
    let front (max : Option Nat) : Regex := .repetition 2 max true (.oneOf .byte (.interval 48 57))
    let alts (max : Option Nat) : List Regex :=
      [.concat [front max, .literal [97]], .concat [front max, .literal [98]]]
    definiteFronts 1 (alts (some 2)) = true ∧ definiteFronts 1 (alts none) = false := by
  decide

end Multiscan.Regex
