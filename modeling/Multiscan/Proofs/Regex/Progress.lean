import Multiscan.Regex.Search
/-!
# Regex — successive matches go forward

A match lies within the bytes and behind the offset from which it was looked
for. The matches found one after the other do not overlap, and each ends
behind the one before, even where matches of nothing are among them. So there
are not more of them than the search has fuel for: `findAll_successive` says
what they are without any.
-/

namespace Multiscan.Regex

open Text (Bytes)

variable {bs : Bytes} {whole : Bool} {r : Regex}

/-! ## One match -/

/-- What exploring comes to, by what the machine does next. -/
theorem explore_eq (bs : Bytes) (pos : Nat) (s : List Frame) (tried : Tried) :
    explore bs pos s tried =
      if tried.contains (place s, pos) then (none, tried)
      else
        let tried := tried.insert (place s, pos)
        match step bs pos s with
        | .accept => (some pos, tried)
        | .dead => (none, tried)
        | .move s' pos' => explore bs pos' s' tried
        | .fork a b =>
          match explore bs pos a tried with
          | (some stop, tried) => (some stop, tried)
          | (none, tried) => explore bs pos b tried := by
  rw [explore]
  split
  · rfl
  · dsimp only
    split
    · next h => rw [h]
    · next h => rw [h]
    · next h => rw [h]
    · next h => exact h ▸ rfl

/-- A way through the machine ends where it started or further on, within
the bytes. -/
theorem explore_bounds {pos : Nat} {s : List Frame} {tried tried' : Tried} {stop : Nat}
    (h : explore bs pos s tried = (some stop, tried')) (hpos : pos ≤ bs.size) :
    pos ≤ stop ∧ stop ≤ bs.size := by
  fun_induction explore bs pos s tried generalizing tried' with
  | case1 | case3 => exact nomatch h
  | case2 =>
    obtain rfl := Option.some.inj (Prod.mk.inj h).1
    exact ⟨Nat.le_refl _, hpos⟩
  | case4 =>
    rename_i pos s tried _ _ s' pos' hstep hdec ih
    rw [hstep] at hdec
    -- A frame either reads on, within the bytes, or stays where it is.
    rcases hdec with ⟨hlt, hle⟩ | ⟨rfl, -⟩
    · obtain ⟨hstop, hsize⟩ := ih h hle
      exact ⟨by omega, hsize⟩
    · exact ih h hpos
  | case5 =>
    rename_i hfirst ih
    obtain rfl := Option.some.inj (Prod.mk.inj h).1
    exact ih hfirst hpos
  | case6 =>
    rename_i hsecond
    exact hsecond h hpos

theorem searchFrom_bounds {count start : Nat} {tried : Tried} {m : Nat × Nat}
    (h : searchFrom bs r count start tried = some m) (hcount : start + count ≤ bs.size + 1) :
    start ≤ m.1 ∧ m.1 ≤ m.2 ∧ m.2 ≤ bs.size := by
  induction count generalizing start tried with
  | zero => exact nomatch h
  | succ count ih =>
    rw [searchFrom] at h
    split at h
    · next stop tried' hfound =>
      obtain rfl := Option.some.inj h
      obtain ⟨hle, hsize⟩ := explore_bounds hfound (by omega)
      exact ⟨Nat.le_refl _, hle, hsize⟩
    · obtain ⟨hstart, hrest⟩ := ih h (by omega)
      exact ⟨by omega, hrest⟩

theorem search_bounds {start : Nat} {m : Nat × Nat} (h : search bs r start = some m) :
    start ≤ m.1 ∧ m.1 ≤ m.2 ∧ m.2 ≤ bs.size := by
  rcases Nat.lt_or_ge bs.size start with hlt | hge
  · rw [search, show bs.size + 1 - start = 0 by omega] at h
    exact nomatch h
  · exact searchFrom_bounds h (by omega)

theorem searchWhole_bounds {fuel start : Nat} {m : Nat × Nat}
    (h : searchWhole bs r fuel start = some m) : start ≤ m.1 ∧ m.1 ≤ m.2 ∧ m.2 ≤ bs.size := by
  induction fuel generalizing start with
  | zero => exact nomatch h
  | succ fuel ih =>
    rw [searchWhole] at h
    split at h
    · exact nomatch h
    · next hfound =>
      split at h
      · obtain rfl := Option.some.inj h
        exact search_bounds hfound
      · obtain ⟨hstart, hrest⟩ := ih h
        exact ⟨by omega, hrest⟩

/-- **A match lies within the bytes**, at or behind the offset from which it
was looked for. -/
theorem find_bounds {start : Nat} {m : Nat × Nat} (h : find bs whole r start = some m) :
    start ≤ m.1 ∧ m.1 ≤ m.2 ∧ m.2 ≤ bs.size := by
  rw [find] at h
  split at h
  · exact searchWhole_bounds h
  · exact search_bounds h

/-! ## All matches -/

/-- The matches from an offset on, the one before having ended at `last`. A
match of nothing at that end is passed over. -/
inductive Successive (bs : Bytes) (whole : Bool) (r : Regex) :
    Nat → Option Nat → List (Nat × Nat) → Prop
  | stop {start : Nat} {last : Option Nat} (h : find bs whole r start = none) :
    Successive bs whole r start last []
  | more {start : Nat} {last : Option Nat} {m : Nat × Nat} {ms : List (Nat × Nat)}
    (h : find bs whole r start = some m) (hnew : ¬ (m.1 = m.2 ∧ last = some m.2))
    (rest : Successive bs whole r m.2 (some m.2) ms) : Successive bs whole r start last (m :: ms)
  | passStop {start stop : Nat} (h : find bs whole r start = some (stop, stop))
    (hnext : find bs whole r (start + 1) = none) : Successive bs whole r start (some stop) []
  | passMore {start stop : Nat} {m : Nat × Nat} {ms : List (Nat × Nat)}
    (h : find bs whole r start = some (stop, stop)) (hnext : find bs whole r (start + 1) = some m)
    (rest : Successive bs whole r m.2 (some m.2) ms) :
    Successive bs whole r start (some stop) (m :: ms)

/-- A match after another ends behind it, and starts there at the earliest. -/
def Follows (a b : Nat × Nat) : Prop := a.2 ≤ b.1 ∧ a.2 < b.2

/-- A match that another follows, of which the same is known. -/
theorem follows_cons {a b : Nat × Nat} {ms : List (Nat × Nat)} (hab : Follows a b)
    (h : (b :: ms).Pairwise Follows) : (a :: b :: ms).Pairwise Follows := by
  refine List.pairwise_cons.2 ⟨fun c hc => ?_, h⟩
  rcases List.mem_cons.1 hc with rfl | hc
  · exact hab
  · have hbc := (List.pairwise_cons.1 h).1 c hc
    exact ⟨by have := hab.2; have := hbc.1; omega, Nat.lt_trans hab.2 hbc.2⟩

/-- **What is found behind a match** follows it, and one another. -/
theorem Successive.pairwise {m : Nat × Nat} {ms : List (Nat × Nat)}
    (h : Successive bs whole r m.2 (some m.2) ms) : (m :: ms).Pairwise Follows := by
  -- By induction: the offset from which is searched is the end of the match
  -- before, which the first constructor's condition on empty matches refers to.
  generalize hstart : m.2 = start at h
  generalize hlast : some start = last at h
  induction h generalizing m with
  | stop | passStop => exact List.pairwise_singleton _ _
  | @more start last m' ms hfind hnew rest ih =>
    obtain ⟨hle, hle', -⟩ := find_bounds hfind
    -- A match that ended no further would be empty, and at the last end.
    have hlt : start < m'.2 := by
      rcases Nat.lt_or_ge start m'.2 with hlt | hge
      · exact hlt
      · exact absurd ⟨by omega, by rw [← hlast]; congr 1; omega⟩ hnew
    exact follows_cons ⟨by omega, by omega⟩ (ih rfl rfl)
  | @passMore start stop m' ms hfind hnext rest ih =>
    obtain ⟨hle, hle', -⟩ := find_bounds hnext
    exact follows_cons ⟨by omega, by omega⟩ (ih rfl rfl)

/-- Every one of several matches is what was found from some offset on. -/
theorem Successive.exists_find {start : Nat} {last : Option Nat} {ms : List (Nat × Nat)}
    (h : Successive bs whole r start last ms) :
    ∀ m ∈ ms, ∃ start, find bs whole r start = some m := by
  induction h with
  | stop | passStop => exact fun m hm => nomatch hm
  | more hfind hnew rest ih => exact List.forall_mem_cons.2 ⟨⟨_, hfind⟩, ih⟩
  | passMore hfind hnext rest ih => exact List.forall_mem_cons.2 ⟨⟨_, hnext⟩, ih⟩

/-! ## Fuel -/

/-- Behind a match, as many matches can follow as there are bytes left. -/
theorem findFrom_successive {fuel start : Nat} (hfuel : bs.size < start + fuel) (hstart : start ≤ bs.size) :
    Successive bs whole r start (some start) (findFrom bs whole r fuel start (some start)) := by
  induction fuel generalizing start with
  | zero => omega
  | succ fuel ih =>
    rw [findFrom]
    split
    · next hnone => exact .stop hnone
    · next from_ stop hfind =>
      obtain ⟨hle, hle', hsize⟩ := find_bounds hfind
      simp only at hle hle' hsize
      split
      · next hempty =>
        obtain ⟨rfl, hlast⟩ := hempty
        obtain rfl := Option.some.inj hlast
        split
        · next hnone => exact .passStop hfind hnone
        · next from_ stop hnext =>
          obtain ⟨hle, hle', hsize⟩ := find_bounds hnext
          simp only at hle hle' hsize
          exact .passMore hfind hnext (ih (by omega) hsize)
      · next hnew =>
        -- Progress: an empty match at the last end was the case before.
        have hlt : start < stop := by
          rcases Nat.lt_or_ge start stop with hlt | hge
          · exact hlt
          · exact absurd ⟨by omega, by congr 1; omega⟩ hnew
        exact .more hfind hnew (ih (by omega) hsize)

/-- **All matches** are the ones that follow one another from the start of the
bytes, until none is left. -/
theorem findAll_successive (bs : Bytes) (whole : Bool) (r : Regex) :
    Successive bs whole r 0 none (findAll bs whole r) := by
  rw [findAll, findFrom]
  split
  · next hnone => exact .stop hnone
  · next from_ stop hfind =>
    -- No match was before the first one, so none is passed over.
    have hsize := (find_bounds hfind).2.2
    rw [if_neg (fun h => nomatch h.2)]
    exact .more hfind (fun h => nomatch h.2) (findFrom_successive (by omega) hsize)

/-- **Matches end one behind the other**, and do not overlap. -/
theorem findAll_pairwise (bs : Bytes) (whole : Bool) (r : Regex) :
    (findAll bs whole r).Pairwise Follows := by
  have h := findAll_successive bs whole r
  generalize findAll bs whole r = ms at h
  cases h with
  | stop => exact .nil
  | more _ _ rest => exact rest.pairwise

theorem exists_find_of_mem {m : Nat × Nat} (hm : m ∈ findAll bs whole r) :
    ∃ start, find bs whole r start = some m :=
  (findAll_successive bs whole r).exists_find m hm

theorem findAll_bounds {m : Nat × Nat} (hm : m ∈ findAll bs whole r) :
    m.1 ≤ m.2 ∧ m.2 ≤ bs.size := by
  obtain ⟨start, hfind⟩ := exists_find_of_mem hm
  exact (find_bounds hfind).2

/-- The first match is the first of all matches. -/
theorem findFirst_eq (bs : Bytes) (whole : Bool) (r : Regex) :
    (findFirst bs whole r).toList = (findAll bs whole r).take 1 := by
  rw [findFirst, findAll, findFrom]
  split
  · next hnone => rw [hnone]; rfl
  · next from_ stop hfind =>
    rw [hfind, if_neg (fun h => nomatch h.2)]
    rfl

/-! ## Computing a run -/

/-- Exploring with a list for what has been tried, and with fuel for the steps. -/
def walk (bs : Bytes) : Nat → Nat → List Frame → List (List Nat × Nat) →
    Option (Option Nat × List (List Nat × Nat))
  | 0, _, _, _ => none
  | fuel + 1, pos, s, seen =>
    if (place s, pos) ∈ seen then some (none, seen)
    else
      match step bs pos s with
      | .accept => some (some pos, (place s, pos) :: seen)
      | .dead => some (none, (place s, pos) :: seen)
      | .move s' pos' => walk bs fuel pos' s' ((place s, pos) :: seen)
      | .fork a b =>
        match walk bs fuel pos a ((place s, pos) :: seen) with
        | some (none, seen) => walk bs fuel pos b seen
        | other => other

/-- **What a run comes to can be computed**, if there is fuel for it. -/
theorem explore_of_walk {fuel pos : Nat} {s : List Frame} {tried : Tried} {found : Option Nat}
    {seen seen' : List (List Nat × Nat)} (htried : ∀ q, q ∈ tried ↔ q ∈ seen)
    (h : walk bs fuel pos s seen = some (found, seen')) :
    ∃ tried', explore bs pos s tried = (found, tried') ∧ ∀ q, q ∈ tried' ↔ q ∈ seen' := by
  induction fuel generalizing pos s tried found seen seen' with
  | zero => cases h
  | succ fuel ih =>
    have hinsert : ∀ q, q ∈ tried.insert (place s, pos) ↔ q ∈ (place s, pos) :: seen := by
      intro q
      rw [Std.HashSet.mem_insert, List.mem_cons, htried, beq_iff_eq, eq_comm]
    rw [walk] at h
    rw [explore_eq]
    by_cases hseen : (place s, pos) ∈ seen
    · rw [if_pos hseen] at h
      obtain ⟨rfl, rfl⟩ := Prod.mk.inj (Option.some.inj h)
      exact ⟨tried, if_pos (Std.HashSet.contains_iff_mem.2 ((htried _).2 hseen)), htried⟩
    · rw [if_neg hseen] at h
      rw [if_neg fun hmem => hseen ((htried _).1 (Std.HashSet.contains_iff_mem.1 hmem))]
      dsimp only
      generalize step bs pos s = next at h ⊢
      cases next with
      | accept | dead =>
        obtain ⟨rfl, rfl⟩ := Prod.mk.inj (Option.some.inj h)
        exact ⟨_, rfl, hinsert⟩
      | move s' pos' => exact ih hinsert h
      | fork a b =>
        dsimp only at h ⊢
        split at h
        · next seen₁ hfirst =>
          obtain ⟨tried₁, hexplore, htried₁⟩ := ih hinsert hfirst
          obtain ⟨tried', hrest, htried'⟩ := ih htried₁ h
          exact ⟨tried', by rw [hexplore]; exact hrest, htried'⟩
        · next hnot =>
          obtain ⟨tried', hexplore, htried'⟩ := ih hinsert h
          cases found with
          | none => exact absurd h (hnot _)
          | some stop => exact ⟨tried', by rw [hexplore], htried'⟩

/-- The match at the start of the bytes, if there is one. -/
theorem search_of_walk {stop : Nat} (fuel : Nat)
    (h : (walk bs fuel 0 [.run r] []).map Prod.fst = some (some stop)) :
    search bs r 0 = some (0, stop) := by
  obtain ⟨⟨found, seen⟩, hwalk, rfl⟩ := Option.map_eq_some_iff.1 h
  have hempty : ∀ q, q ∈ (∅ : Tried) ↔ q ∈ ([] : List (List Nat × Nat)) := fun q =>
    iff_of_false Std.HashSet.not_mem_empty List.not_mem_nil
  obtain ⟨tried', hexplore, -⟩ := explore_of_walk hempty hwalk
  rw [search, Nat.sub_zero, searchFrom, hexplore]

end Multiscan.Regex
