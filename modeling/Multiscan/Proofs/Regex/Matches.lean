import Multiscan.Proofs.Regex.Progress
/-!
# Regex — which stretches an expression matches

The machine finds its matches by running a stack of frames. This file says what
an expression matches without a machine: `Matches` relates it to the stretches
of bytes, by recursion on the expression. A stack matches what its frames match
one behind the other, and no step of the machine leads to a stack that matches
more than the one before (`sound_step`). So whatever is found is a match
(`matches_of_mem_findAll`). Greed and order do not occur here: they choose among
matches.
-/

namespace Multiscan.Regex

open Text (Bytes)

/-! ## Stretches -/

/-- So many stretches of a kind, one behind the other. -/
def Times (P : Nat → Nat → Prop) : Nat → Nat → Nat → Prop
  | 0, i, j => i = j
  | n + 1, i, j => ∃ k, P i k ∧ Times P n k j

theorem times_add {P : Nat → Nat → Prop} {m n i j : Nat} :
    Times P (m + n) i j ↔ ∃ k, Times P m i k ∧ Times P n k j := by
  induction m generalizing i with
  | zero =>
    rw [Nat.zero_add]
    constructor
    · exact fun h => ⟨i, rfl, h⟩
    · rintro ⟨k, rfl, h⟩
      exact h
  | succ m ih =>
    rw [Nat.succ_add, Times]
    constructor
    · rintro ⟨k, hfirst, hrest⟩
      obtain ⟨l, hm, hn⟩ := ih.1 hrest
      exact ⟨l, ⟨k, hfirst, hm⟩, hn⟩
    · rintro ⟨l, ⟨k, hfirst, hm⟩, hn⟩
      exact ⟨k, hfirst, ih.2 ⟨l, hm, hn⟩⟩

mutual

/-- An expression matches the bytes between two offsets. -/
def Matches (bs : Bytes) : Regex → Nat → Nat → Prop
  | .empty => fun i j => i = j
  | .literal bytes => fun i j => bytesAt bs i bytes = true ∧ i + bytes.length = j
  | .oneOf a s => fun i j => symbolAt? bs i a s = some j
  | .look l => fun i j => l.holds bs i = true ∧ i = j
  | .repetition min max _ sub => fun i j =>
    ∃ more, (∀ m ∈ max, more ≤ m - min) ∧ Times (Matches bs sub) (min + more) i j
  | .capture _ _ sub => Matches bs sub
  | .concat parts => MatchesAll bs parts
  | .alternation alts => MatchesAny bs alts

/-- Several expressions match what is between two offsets one behind the
other. -/
def MatchesAll (bs : Bytes) : List Regex → Nat → Nat → Prop
  | [] => fun i j => i = j
  | r :: rs => fun i j => ∃ k, Matches bs r i k ∧ MatchesAll bs rs k j

/-- One of several expressions matches what is between two offsets. -/
def MatchesAny (bs : Bytes) : List Regex → Nat → Nat → Prop
  | [] => fun _ _ => False
  | r :: rs => fun i j => Matches bs r i j ∨ MatchesAny bs rs i j

end

variable {bs : Bytes}

theorem le_of_times {P : Nat → Nat → Prop} {n i j : Nat} (hP : ∀ {i j}, P i j → i ≤ j)
    (h : Times P n i j) : i ≤ j := by
  induction n generalizing i with
  | zero => exact Nat.le_of_eq h
  | succ n ih =>
    obtain ⟨k, hfirst, hrest⟩ := h
    exact Nat.le_trans (hP hfirst) (ih hrest)

mutual

/-- A match does not end before it starts. -/
theorem le_of_matches : (r : Regex) → ∀ {i j : Nat}, Matches bs r i j → i ≤ j
  | .empty, _, _, h => Nat.le_of_eq h
  | .literal _, _, _, h => Nat.le_trans (Nat.le_add_right _ _) (Nat.le_of_eq h.2)
  | .oneOf _ _, _, _, h => Nat.le_of_lt (symbolAt?_le h).1
  | .look _, _, _, h => Nat.le_of_eq h.2
  | .repetition _ _ _ sub, _, _, ⟨_, _, h⟩ => le_of_times (le_of_matches sub) h
  | .capture _ _ sub, _, _, h => le_of_matches sub h
  | .concat parts, _, _, h => le_of_matchesAll parts h
  | .alternation alts, _, _, h => le_of_matchesAny alts h

theorem le_of_matchesAll : (rs : List Regex) → ∀ {i j : Nat}, MatchesAll bs rs i j → i ≤ j
  | [], _, _, h => Nat.le_of_eq h
  | r :: rs, _, _, ⟨_, hfirst, hrest⟩ =>
    Nat.le_trans (le_of_matches r hfirst) (le_of_matchesAll rs hrest)

theorem le_of_matchesAny : (rs : List Regex) → ∀ {i j : Nat}, MatchesAny bs rs i j → i ≤ j
  | r :: _, _, _, .inl h => le_of_matches r h
  | _ :: rs, _, _, .inr h => le_of_matchesAny rs h

end

/-! ## The machine -/

variable {pos stop : Nat} {s : List Frame} {r : Regex}

/-- What is between two offsets is what a frame still asks for. -/
def Frame.Matches (bs : Bytes) : Frame → Nat → Nat → Prop
  | .run r => Regex.Matches bs r
  | .parts rs => MatchesAll bs rs
  | .choice _ rs => MatchesAny bs rs
  | .branch _ => fun i j => i = j
  | .copies r left => Times (Regex.Matches bs r) left
  | .options r _ left => fun i j => ∃ n ≤ left, Times (Regex.Matches bs r) n i j
  | .loop r _ _ => fun i j => ∃ n, Times (Regex.Matches bs r) n i j

/-- What is between two offsets is what the frames of a stack ask for, one
behind the other. -/
def StackMatches (bs : Bytes) : List Frame → Nat → Nat → Prop
  | [], i, j => i = j
  | f :: k, i, j => ∃ m, f.Matches bs i m ∧ StackMatches bs k m j

/-- A step leads to nothing that the stack before it does not match. -/
def Step.Sound (bs : Bytes) (pos : Nat) (s : List Frame) : Step → Prop
  | .accept => StackMatches bs s pos pos
  | .dead => True
  | .move s' pos' => ∀ stop, StackMatches bs s' pos' stop → StackMatches bs s pos stop
  | .fork a b => ∀ stop, StackMatches bs a pos stop ∨ StackMatches bs b pos stop →
      StackMatches bs s pos stop

theorem sound_forkOf {greedy : Bool} {a b : List Frame}
    (ha : ∀ stop, StackMatches bs a pos stop → StackMatches bs s pos stop)
    (hb : ∀ stop, StackMatches bs b pos stop → StackMatches bs s pos stop) :
    (forkOf greedy a b).Sound bs pos s := by
  cases greedy
  · exact fun stop h => h.elim (hb stop) (ha stop)
  · exact fun stop h => h.elim (ha stop) (hb stop)

/-- A repetition without an upper bound is so many matches and any number of
others. -/
theorem matches_unbounded {min n i j : Nat} (greedy : Bool)
    (h : Times (Matches bs r) (min + n) i j) :
    Matches bs (.repetition min none greedy r) i j := by
  rw [Matches]
  exact ⟨n, fun m hm => (by simp at hm), h⟩

theorem sound_runStep (bs : Bytes) (pos : Nat) (r : Regex) (k : List Frame) :
    (runStep bs pos r k).Sound bs pos (.run r :: k) := by
  unfold runStep
  split
  · exact fun stop h => ⟨pos, rfl, h⟩
  · next bytes =>
    split
    · next hbytes => exact fun stop h => ⟨pos + bytes.length, ⟨hbytes, rfl⟩, h⟩
    · trivial
  · split
    · next pos' hsymbol => exact fun stop h => ⟨pos', hsymbol, h⟩
    · trivial
  · split
    · next hlook => exact fun stop h => ⟨pos, ⟨hlook, rfl⟩, h⟩
    · trivial
  · rintro stop ⟨m, hm, _, rfl, hk⟩
    exact ⟨m, hm, hk⟩
  · rintro stop ⟨m, hm, hk⟩
    exact ⟨m, hm, hk⟩
  · rintro stop ⟨m, hm, hk⟩
    exact ⟨m, hm, hk⟩
  · next min max greedy sub =>
    rintro stop ⟨m, hmin, l, ⟨more, hmore, htimes⟩, hk⟩
    refine ⟨l, ?_, hk⟩
    refine ⟨more, fun n hn => ?_, times_add.2 ⟨m, hmin, htimes⟩⟩
    obtain rfl := Option.some.inj hn
    exact hmore
  · next greedy sub =>
    split
    · rintro stop ⟨m, ⟨n, hloop⟩, hk⟩
      exact ⟨m, matches_unbounded greedy ((Nat.zero_add n).symm ▸ hloop), hk⟩
    · refine sound_forkOf ?_ ?_
      · rintro stop ⟨m, hfirst, l, ⟨n, hloop⟩, hk⟩
        have hmore : Times (Matches bs sub) (0 + (n + 1)) pos l :=
          (Nat.zero_add (n + 1)).symm ▸ ⟨m, hfirst, hloop⟩
        exact ⟨l, matches_unbounded greedy hmore, hk⟩
      · intro stop hk
        have hnone : Times (Matches bs sub) (0 + 0) pos pos := rfl
        exact ⟨pos, matches_unbounded greedy hnone, hk⟩
  · next min greedy sub =>
    rintro stop ⟨m, hmin, l, hone, j, ⟨n, hloop⟩, hk⟩
    have hcopies : Times (Matches bs sub) (min + 1) pos l :=
      times_add.2 ⟨m, hmin, l, hone, rfl⟩
    exact ⟨j, matches_unbounded greedy (times_add.2 ⟨l, hcopies, hloop⟩), hk⟩

/-- **Every step is sound.** -/
theorem sound_step (bs : Bytes) (pos : Nat) (s : List Frame) : (step bs pos s).Sound bs pos s := by
  unfold step
  split
  · exact rfl
  · exact sound_runStep ..
  · exact fun stop h => ⟨pos, rfl, h⟩
  · rintro stop ⟨m, hm, l, hl, hk⟩
    exact ⟨l, ⟨m, hm, hl⟩, hk⟩
  · trivial
  · rintro stop (⟨m, hm, _, rfl, hk⟩ | ⟨m, hm, hk⟩)
    · exact ⟨m, .inl hm, hk⟩
    · exact ⟨m, .inr hm, hk⟩
  · exact fun stop h => ⟨pos, rfl, h⟩
  · exact fun stop h => ⟨pos, rfl, h⟩
  · rintro stop ⟨m, hm, l, hl, hk⟩
    exact ⟨l, ⟨m, hm, hl⟩, hk⟩
  · exact fun stop h => ⟨pos, ⟨0, Nat.le_refl 0, rfl⟩, h⟩
  · next left k =>
    refine sound_forkOf ?_ ?_
    · rintro stop ⟨m, hm, l, ⟨n, hn, htimes⟩, hk⟩
      exact ⟨l, ⟨n + 1, Nat.succ_le_succ hn, m, hm, htimes⟩, hk⟩
    · exact fun stop h => ⟨pos, ⟨0, Nat.zero_le _, rfl⟩, h⟩
  · split
    · exact fun stop h => ⟨pos, ⟨0, rfl⟩, h⟩
    · refine sound_forkOf ?_ ?_
      · rintro stop ⟨m, hm, l, ⟨n, htimes⟩, hk⟩
        exact ⟨l, ⟨n + 1, m, hm, htimes⟩, hk⟩
      · exact fun stop h => ⟨pos, ⟨0, rfl⟩, h⟩

/-- What is found from a stack is a stretch that the stack matches. -/
theorem explore_sound {tried tried' : Tried}
    (h : explore bs pos s tried = (some stop, tried')) : StackMatches bs s pos stop := by
  fun_induction explore bs pos s tried generalizing tried' with
  | case1 | case3 => cases h
  | case2 pos s tried hnew =>
    rename_i hstep
    obtain rfl := Option.some.inj (Prod.mk.inj h).1
    have hsound := sound_step bs pos s
    rwa [hstep] at hsound
  | case4 pos s tried hnew =>
    rename_i hstep hdec ih
    have hsound := sound_step bs pos s
    rw [hstep] at hsound
    exact hsound stop (ih h)
  | case5 pos s tried hnew =>
    rename_i hstep _ _ _ hfirst ih
    obtain rfl := Option.some.inj (Prod.mk.inj h).1
    have hsound := sound_step bs pos s
    rw [hstep] at hsound
    exact hsound _ (.inl (ih hfirst))
  | case6 pos s tried hnew =>
    rename_i hstep _ _ _ _ ih
    have hsound := sound_step bs pos s
    rw [hstep] at hsound
    exact hsound stop (.inr (ih h))

/-! ## What is found -/

variable {whole : Bool} {m : Nat × Nat}

theorem matches_of_searchFrom {count start : Nat} {tried : Tried}
    (h : searchFrom bs r count start tried = some m) : Matches bs r m.1 m.2 := by
  induction count generalizing start tried with
  | zero => exact nomatch h
  | succ count ih =>
    rw [searchFrom] at h
    split at h
    · next stop tried' hfound =>
      obtain rfl := Option.some.inj h
      obtain ⟨j, hmatch, hend⟩ := explore_sound hfound
      exact hend ▸ hmatch
    · exact ih h

theorem matches_of_search {start : Nat} (h : search bs r start = some m) :
    Matches bs r m.1 m.2 :=
  matches_of_searchFrom h

theorem matches_of_searchWhole {fuel start : Nat} (h : searchWhole bs r fuel start = some m) :
    Matches bs r m.1 m.2 := by
  induction fuel generalizing start with
  | zero => cases h
  | succ fuel ih =>
    rw [searchWhole] at h
    split at h
    · cases h
    · next hfound =>
      split at h
      · obtain rfl := Option.some.inj h
        exact matches_of_search hfound
      · exact ih h

/-- **What is found is a match.** -/
theorem matches_of_find {start : Nat} (h : find bs whole r start = some m) :
    Matches bs r m.1 m.2 := by
  rw [find] at h
  split at h
  · exact matches_of_searchWhole h
  · exact matches_of_search h

/-- **All that is found are matches.** -/
theorem matches_of_mem_findAll (h : m ∈ findAll bs whole r) : Matches bs r m.1 m.2 := by
  obtain ⟨start, hfind⟩ := exists_find_of_mem h
  exact matches_of_find hfind

end Multiscan.Regex
