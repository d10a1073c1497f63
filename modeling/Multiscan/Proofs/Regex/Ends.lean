import Multiscan.Proofs.Regex.Characters
/-!
# Regex — where matches may end

`Matches` says which stretches an expression matches, and nothing of which is
preferred. Here the offsets are listed at which a match from an offset may end, in
the order in which greed and alternatives prefer them (`ends`); one that can be come
to in several ways is listed several times.

A repetition without bound is tried as often as there are bytes. This is as often as
anything that takes bytes can be repeated (`atMost_of_long`), so the ends of matches
are listed, all of them and no others, if what is repeated without bound takes bytes
(`Advancing`, `mem_ends_iff`).
-/

namespace Multiscan.Regex

open Text (Bytes)

/-! ## Ends in order -/

/-- Two lists of offsets in the order of a repetition: those behind another round
come first if it is greedy. -/
def prefer (greedy : Bool) (again leave : List Nat) : List Nat :=
  if greedy then again ++ leave else leave ++ again

/-- Where so many rounds of something end. -/
def exactly (f : Nat → List Nat) : Nat → Nat → List Nat
  | 0, pos => [pos]
  | n + 1, pos => (f pos).flatMap (exactly f n)

/-- Where at most so many rounds of something end. -/
def atMost (f : Nat → List Nat) (greedy : Bool) : Nat → Nat → List Nat
  | 0, pos => [pos]
  | n + 1, pos => prefer greedy ((f pos).flatMap (atMost f greedy n)) [pos]

mutual

/-- Where matches from an offset may end, the preferred ones first. -/
def ends (bs : Bytes) : Regex → Nat → List Nat
  | .empty => fun pos => [pos]
  | .literal bytes => fun pos => if bytesAt bs pos bytes then [pos + bytes.length] else []
  | .oneOf a s => fun pos => (symbolAt? bs pos a s).toList
  | .look l => fun pos => if l.holds bs pos then [pos] else []
  | .repetition min max greedy sub => fun pos =>
    (exactly (ends bs sub) min pos).flatMap
      (atMost (ends bs sub) greedy ((max.map (· - min)).getD bs.size))
  | .capture _ _ sub => ends bs sub
  | .concat parts => endsAll bs parts
  | .alternation alts => endsAny bs alts

/-- Where matches of several expressions end, one behind the other. -/
def endsAll (bs : Bytes) : List Regex → Nat → List Nat
  | [] => fun pos => [pos]
  | r :: rs => fun pos => (ends bs r pos).flatMap (endsAll bs rs)

/-- Where matches of one of several expressions end. -/
def endsAny (bs : Bytes) : List Regex → Nat → List Nat
  | [] => fun _ => []
  | r :: rs => fun pos => ends bs r pos ++ endsAny bs rs pos

end

variable {bs : Bytes} {f : Nat → List Nat} {P : Nat → Nat → Prop} {m n i j pos stop : Nat}
variable {greedy : Bool}

theorem mem_prefer {again leave : List Nat} :
    j ∈ prefer greedy again leave ↔ j ∈ again ∨ j ∈ leave := by
  cases greedy
  · exact List.mem_append.trans or_comm
  · exact List.mem_append

theorem prefer_nil (greedy : Bool) (leave : List Nat) : prefer greedy [] leave = leave := by
  cases greedy
  · exact List.append_nil leave
  · rfl

theorem flatMap_prefer (greedy : Bool) (again leave : List Nat) (g : Nat → List Nat) :
    (prefer greedy again leave).flatMap g =
      prefer greedy (again.flatMap g) (leave.flatMap g) := by
  cases greedy <;> exact List.flatMap_append

/-- The last round may be told apart as well as the first. -/
theorem exactly_succ (f : Nat → List Nat) (n pos : Nat) :
    exactly f (n + 1) pos = (exactly f n pos).flatMap f := by
  induction n generalizing pos with
  | zero => rw [exactly, exactly, List.flatMap_singleton, show exactly f 0 = fun p => [p] from rfl,
      List.flatMap_singleton']
  | succ n ih =>
    rw [exactly, exactly, List.flatMap_assoc]
    exact List.flatMap_congr fun q _ => ih q

/-! ## They are ends of matches -/

theorem times_of_mem_exactly (hf : ∀ {i j}, j ∈ f i → P i j) (h : j ∈ exactly f n i) :
    Times P n i j := by
  induction n generalizing i with
  | zero => exact (List.mem_singleton.1 h).symm
  | succ n ih =>
    obtain ⟨k, hfirst, hrest⟩ := List.mem_flatMap.1 h
    exact ⟨k, hf hfirst, ih hrest⟩

theorem times_of_mem_atMost (hf : ∀ {i j}, j ∈ f i → P i j) (h : j ∈ atMost f greedy n i) :
    ∃ m ≤ n, Times P m i j := by
  induction n generalizing i with
  | zero => exact ⟨0, Nat.le_refl 0, (List.mem_singleton.1 h).symm⟩
  | succ n ih =>
    rcases mem_prefer.1 h with h | h
    · obtain ⟨k, hfirst, hrest⟩ := List.mem_flatMap.1 h
      obtain ⟨m, hm, htimes⟩ := ih hrest
      exact ⟨m + 1, Nat.succ_le_succ hm, k, hf hfirst, htimes⟩
    · exact ⟨0, Nat.zero_le _, (List.mem_singleton.1 h).symm⟩

mutual

/-- **What is listed is the end of a match.** -/
theorem matches_of_mem_ends : (r : Regex) → ∀ {i j : Nat}, j ∈ ends bs r i → Matches bs r i j
  | .empty, _, _, h => (List.mem_singleton.1 h).symm
  | .literal _, _, _, h =>
    have ⟨hbytes, hend⟩ := List.mem_ite_nil_right.1 h
    ⟨hbytes, (List.mem_singleton.1 hend).symm⟩
  | .oneOf _ _, _, _, h => Option.mem_toList.1 h
  | .look _, _, _, h =>
    have ⟨hholds, hend⟩ := List.mem_ite_nil_right.1 h
    ⟨hholds, (List.mem_singleton.1 hend).symm⟩
  | .repetition min max greedy sub, i, j, h => by
    obtain ⟨k, hmin, hmore⟩ := List.mem_flatMap.1 h
    have htimes := times_of_mem_exactly (matches_of_mem_ends sub) hmin
    obtain ⟨more, hle, hrest⟩ := times_of_mem_atMost (matches_of_mem_ends sub) hmore
    refine ⟨more, fun most hmost => ?_, times_add.2 ⟨k, htimes, hrest⟩⟩
    rwa [Option.mem_def.1 hmost] at hle
  | .capture _ _ sub, _, _, h => matches_of_mem_ends sub h
  | .concat parts, _, _, h => matchesAll_of_mem_endsAll parts h
  | .alternation alts, _, _, h => matchesAny_of_mem_endsAny alts h

theorem matchesAll_of_mem_endsAll : (rs : List Regex) → ∀ {i j : Nat}, j ∈ endsAll bs rs i →
    MatchesAll bs rs i j
  | [], _, _, h => (List.mem_singleton.1 h).symm
  | r :: rs, _, _, h => by
    obtain ⟨k, hfirst, hrest⟩ := List.mem_flatMap.1 h
    exact ⟨k, matches_of_mem_ends r hfirst, matchesAll_of_mem_endsAll rs hrest⟩

theorem matchesAny_of_mem_endsAny : (rs : List Regex) → ∀ {i j : Nat}, j ∈ endsAny bs rs i →
    MatchesAny bs rs i j
  | r :: rs, _, _, h => by
    rcases List.mem_append.1 h with h | h
    · exact .inl (matches_of_mem_ends r h)
    · exact .inr (matchesAny_of_mem_endsAny rs h)

end

/-! ## Ends lie within the bytes -/

theorem le_size_of_times (hP : ∀ {i j}, P i j → i ≤ bs.size → j ≤ bs.size) (h : Times P n i j)
    (hi : i ≤ bs.size) : j ≤ bs.size := by
  induction n generalizing i with
  | zero =>
    obtain rfl : i = j := h
    exact hi
  | succ n ih =>
    obtain ⟨k, hfirst, hrest⟩ := h
    exact ih hrest (hP hfirst hi)

mutual

/-- A match that starts within the bytes ends within them. -/
theorem le_size_of_matches : (r : Regex) → ∀ {i j : Nat}, Matches bs r i j → i ≤ bs.size →
    j ≤ bs.size
  | .empty, _, _, h, hi => Nat.le_trans (Nat.le_of_eq (Eq.symm h)) hi
  | .literal _, _, _, h, _ => Nat.le_trans (Nat.le_of_eq h.2.symm) (bytesAt_le h.1)
  | .oneOf _ _, _, _, h, _ => (symbolAt?_le h).2
  | .look _, _, _, h, hi => Nat.le_trans (Nat.le_of_eq h.2.symm) hi
  | .repetition _ _ _ sub, _, _, ⟨_, _, h⟩, hi => le_size_of_times (le_size_of_matches sub) h hi
  | .capture _ _ sub, _, _, h, hi => le_size_of_matches sub h hi
  | .concat parts, _, _, h, hi => le_size_of_matchesAll parts h hi
  | .alternation alts, _, _, h, hi => le_size_of_matchesAny alts h hi

theorem le_size_of_matchesAll : (rs : List Regex) → ∀ {i j : Nat}, MatchesAll bs rs i j →
    i ≤ bs.size → j ≤ bs.size
  | [], _, _, h, hi => Nat.le_trans (Nat.le_of_eq (Eq.symm h)) hi
  | r :: rs, _, _, ⟨_, hfirst, hrest⟩, hi =>
    le_size_of_matchesAll rs hrest (le_size_of_matches r hfirst hi)

theorem le_size_of_matchesAny : (rs : List Regex) → ∀ {i j : Nat}, MatchesAny bs rs i j →
    i ≤ bs.size → j ≤ bs.size
  | r :: _, _, _, .inl h, hi => le_size_of_matches r h hi
  | _ :: rs, _, _, .inr h, hi => le_size_of_matchesAny rs h hi

end

theorem le_size_of_mem_ends {r : Regex} (h : j ∈ ends bs r i) (hi : i ≤ bs.size) : j ≤ bs.size :=
  le_size_of_matches r (matches_of_mem_ends r h) hi

/-- What is not nullable takes bytes. -/
theorem lt_of_mem_ends {r : Regex} (hr : r.nullable = false) (h : j ∈ ends bs r i) : i < j :=
  lt_of_matches r hr (matches_of_mem_ends r h)

/-! ## Repetitions without bound -/

mutual

/-- What is repeated without bound takes bytes in every round. -/
def Advancing : Regex → Prop
  | .repetition _ max _ sub => (max = none → sub.nullable = false) ∧ sub.Advancing
  | .capture _ _ sub => sub.Advancing
  | .concat parts => AllAdvancing parts
  | .alternation alts => AllAdvancing alts
  | _ => True

/-- The same in several expressions. -/
def AllAdvancing : List Regex → Prop
  | [] => True
  | r :: rs => r.Advancing ∧ AllAdvancing rs

end

theorem allAdvancing_iff {rs : List Regex} : AllAdvancing rs ↔ ∀ r ∈ rs, r.Advancing := by
  induction rs with
  | nil => exact ⟨fun _ r hr => (nomatch hr), fun _ => trivial⟩
  | cons r rs ih => rw [AllAdvancing, ih, List.forall_mem_cons]

/-- **What takes bytes** can be repeated as often as there are bytes left, and no
more. -/
theorem atMost_of_long (hlt : ∀ {i j}, j ∈ f i → i < j)
    (hle : ∀ {i j}, j ∈ f i → i ≤ bs.size → j ≤ bs.size) (hpos : pos ≤ bs.size)
    (hm : bs.size ≤ pos + m) (hn : bs.size ≤ pos + n) :
    atMost f greedy m pos = atMost f greedy n pos := by
  -- Where no bytes are left, there is no further round.
  have hlast : ∀ (k : Nat) {pos : Nat}, bs.size ≤ pos → pos ≤ bs.size →
      atMost f greedy k pos = [pos] := by
    intro k pos hge hpos
    have hnone : f pos = [] := by
      refine List.eq_nil_iff_forall_not_mem.2 fun q hq => ?_
      have hlt := hlt hq
      have hle := hle hq hpos
      omega
    cases k with
    | zero => rfl
    | succ k => rw [atMost, hnone, List.flatMap_nil, prefer_nil]
  induction m generalizing n pos with
  | zero => exact (hlast n hm hpos).symm
  | succ m ih =>
    cases n with
    | zero => exact hlast (m + 1) hn hpos
    | succ n =>
      rw [atMost, atMost]
      congr 1
      refine List.flatMap_congr fun q hq => ?_
      have hlt := hlt hq
      exact ih (hle hq hpos) (by omega) (by omega)

/-- A repetition without bound is another round and the repetition, or no round. -/
theorem atMost_size {r : Regex} (hr : r.nullable = false) (hpos : pos ≤ bs.size) :
    atMost (ends bs r) greedy bs.size pos =
      prefer greedy ((ends bs r pos).flatMap (atMost (ends bs r) greedy bs.size)) [pos] :=
  atMost_of_long (lt_of_mem_ends hr) le_size_of_mem_ends hpos (n := bs.size + 1)
    (Nat.le_add_left _ _) (by omega)

/-! ## All of them are listed -/

/-- Rounds that take bytes are no more than these. -/
theorem add_le_of_times (hP : ∀ {i j}, P i j → i < j) (h : Times P n i j) : i + n ≤ j := by
  induction n generalizing i with
  | zero => exact Nat.le_of_eq h
  | succ n ih =>
    obtain ⟨k, hfirst, hrest⟩ := h
    have hlt := hP hfirst
    have hle := ih hrest
    omega

section

variable (hf : ∀ {i j}, i ≤ bs.size → P i j → j ∈ f i)
  (hP : ∀ {i j}, P i j → i ≤ bs.size → j ≤ bs.size)

include hf hP

theorem mem_exactly_of_times (hi : i ≤ bs.size) (h : Times P n i j) : j ∈ exactly f n i := by
  induction n generalizing i with
  | zero => exact List.mem_singleton.2 (Eq.symm h)
  | succ n ih =>
    obtain ⟨k, hfirst, hrest⟩ := h
    exact List.mem_flatMap.2 ⟨k, hf hi hfirst, ih (hP hfirst hi) hrest⟩

theorem mem_atMost_of_times (hi : i ≤ bs.size) (hle : m ≤ n) (h : Times P m i j) :
    j ∈ atMost f greedy n i := by
  induction n generalizing m i with
  | zero =>
    rw [Nat.le_zero.1 hle] at h
    exact List.mem_singleton.2 (Eq.symm h)
  | succ n ih =>
    refine mem_prefer.2 ?_
    cases m with
    | zero => exact .inr (List.mem_singleton.2 (Eq.symm h))
    | succ m =>
      obtain ⟨k, hfirst, hrest⟩ := h
      have hmem := ih (hP hfirst hi) (Nat.le_of_succ_le_succ hle) hrest
      exact .inl (List.mem_flatMap.2 ⟨k, hf hi hfirst, hmem⟩)

end

mutual

/-- **The end of every match is listed.** -/
theorem mem_ends_of_matches : (r : Regex) → r.Advancing → ∀ {i j : Nat}, i ≤ bs.size →
    Matches bs r i j → j ∈ ends bs r i
  | .empty, _, _, _, _, h => List.mem_singleton.2 (Eq.symm h)
  | .literal _, _, _, _, _, h => List.mem_ite_nil_right.2 ⟨h.1, List.mem_singleton.2 h.2.symm⟩
  | .oneOf _ _, _, _, _, _, h => Option.mem_toList.2 h
  | .look _, _, _, _, _, h => List.mem_ite_nil_right.2 ⟨h.1, List.mem_singleton.2 h.2.symm⟩
  | .repetition min max greedy sub, hr, i, j, hi, ⟨more, hmore, htimes⟩ => by
    obtain ⟨k, hmin, hrest⟩ := times_add.1 htimes
    have hsub := fun {i j : Nat} (hi : i ≤ bs.size) => mem_ends_of_matches sub hr.2 (j := j) hi
    have hk := le_size_of_times (le_size_of_matches sub) hmin hi
    have hcount : more ≤ (max.map (· - min)).getD bs.size := by
      cases max with
      | some most => exact hmore most rfl
      | none =>
        have hsize := le_size_of_times (le_size_of_matches sub) hrest hk
        have hle := add_le_of_times (lt_of_matches sub (hr.1 rfl)) hrest
        exact Nat.le_trans (Nat.le_add_left _ _) (Nat.le_trans hle hsize)
    exact List.mem_flatMap.2 ⟨k, mem_exactly_of_times hsub (le_size_of_matches sub) hi hmin,
      mem_atMost_of_times hsub (le_size_of_matches sub) hk hcount hrest⟩
  | .capture _ _ sub, hr, _, _, hi, h => mem_ends_of_matches sub hr hi h
  | .concat parts, hr, _, _, hi, h => mem_endsAll_of_matchesAll parts hr hi h
  | .alternation alts, hr, _, _, hi, h => mem_endsAny_of_matchesAny alts hr hi h

theorem mem_endsAll_of_matchesAll : (rs : List Regex) → AllAdvancing rs → ∀ {i j : Nat},
    i ≤ bs.size → MatchesAll bs rs i j → j ∈ endsAll bs rs i
  | [], _, _, _, _, h => List.mem_singleton.2 (Eq.symm h)
  | r :: rs, hrs, _, _, hi, ⟨k, hfirst, hrest⟩ =>
    List.mem_flatMap.2 ⟨k, mem_ends_of_matches r hrs.1 hi hfirst,
      mem_endsAll_of_matchesAll rs hrs.2 (le_size_of_matches r hfirst hi) hrest⟩

theorem mem_endsAny_of_matchesAny : (rs : List Regex) → AllAdvancing rs → ∀ {i j : Nat},
    i ≤ bs.size → MatchesAny bs rs i j → j ∈ endsAny bs rs i
  | r :: _, hrs, _, _, hi, .inl h =>
    List.mem_append.2 (.inl (mem_ends_of_matches r hrs.1 hi h))
  | _ :: rs, hrs, _, _, hi, .inr h =>
    List.mem_append.2 (.inr (mem_endsAny_of_matchesAny rs hrs.2 hi h))

end

/-- **The ends of matches are listed**, all of them and no others. -/
theorem mem_ends_iff {r : Regex} (hr : r.Advancing) (hi : i ≤ bs.size) :
    j ∈ ends bs r i ↔ Matches bs r i j :=
  ⟨matches_of_mem_ends r, mem_ends_of_matches r hr hi⟩

end Multiscan.Regex
