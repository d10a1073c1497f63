import Multiscan.Proofs.Regex.Matches
import Multiscan.Proofs.Regex.SymbolSet
import Multiscan.Proofs.Text.Utf8
/-!
# Regex — what is known about matches

An expression is asked for the least and the greatest length of its matches and
for an assertion with which all of them end. Each answer is a recursion on the
expression that never looks at bytes. This file says that the answers are right
for every match (`add_minLen_le`, `le_add_maxLen`, `holds_of_endsWith`) of an
expression that is `Proper`: the lengths of the symbols of a set are read off its
first and its last interval, and the counts of a repetition are taken as they
are.
-/

namespace Multiscan.Text

theorem width_mono {c d : Char} (h : c.toNat ≤ d.toNat) : width c ≤ width d := by
  unfold width
  split <;> split <;> (try split) <;> (try split) <;> (try split) <;> (try split) <;> omega

end Multiscan.Text

namespace Multiscan

open Regex

mutual

/-- The sets of an expression are proper, its repetitions can be carried out,
and its alternations offer something. -/
def Regex.Proper : Regex → Prop
  | .oneOf a s => s.Proper a
  | .repetition min max _ sub => (∀ m ∈ max, min ≤ m) ∧ sub.Proper
  | .capture _ _ sub => sub.Proper
  | .concat parts => AllProper parts
  | .alternation alts => alts ≠ [] ∧ AllProper alts
  | _ => True

/-- So are those of several expressions. -/
def Regex.AllProper : List Regex → Prop
  | [] => True
  | r :: rs => r.Proper ∧ AllProper rs

end

namespace Regex

open Text (Bytes width)

variable {bs : Bytes}

/-! ## The symbols of a set -/

/-- Characters are their numbers. -/
theorem toNat_ofNat {n : Nat} (h : Alphabet.character.IsSymbol n) : (Char.ofNat n).toNat = n := by
  have hvalid : n.isValidChar := by
    rw [isSymbol_character] at h
    unfold Nat.isValidChar
    omega
  exact Text.toNat_charOfNat hvalid

namespace SymbolSet

variable {a : Alphabet} {s : SymbolSet} {l : List (Nat × Nat)} {r : Nat × Nat} {n : Nat}

/-- The first interval has the least member. -/
theorem first_le (hvalid : Valid a (r :: l)) (hordered : Ordered (r :: l))
    (h : Holds (r :: l) n) : r.1 ≤ n := by
  rcases holds_cons.1 h with hn | ⟨q, hq, hle, -⟩
  · exact hn.1
  · have hspan := (hvalid r List.mem_cons_self).2.2
    have hlt := (List.pairwise_cons.1 hordered).1 q hq
    omega

/-- The last interval has the greatest member. -/
theorem le_last (hvalid : Valid a l) (hordered : Ordered l) (hlast : l.getLast? = some r)
    (h : Holds l n) : n ≤ r.2 := by
  obtain ⟨front, rfl⟩ := List.getLast?_eq_some_iff.1 hlast
  obtain ⟨q, hq, -, hle⟩ := h
  rcases List.mem_append.1 hq with hfront | hq
  · have hspan := (hvalid r (List.mem_append_right _ List.mem_cons_self)).2.2
    have hlt := (List.pairwise_append.1 hordered).2.2 q hfront r List.mem_cons_self
    omega
  · rwa [List.mem_singleton.1 hq] at hle

end SymbolSet

/-- A symbol that is read is a byte of the set, or the bytes of a character of
it. -/
theorem symbolAt?_eq_some {a : Alphabet} {s : SymbolSet} {i j : Nat}
    (h : symbolAt? bs i a s = some j) :
    (a = .byte ∧ j = i + 1) ∨
      a = .character ∧ ∃ c : Char, s.contains c.toNat = true ∧ j = i + width c := by
  unfold symbolAt? at h
  split at h
  · split at h
    · split at h
      · exact .inl ⟨rfl, (Option.some.inj h).symm⟩
      · exact nomatch h
    · exact nomatch h
  · split at h
    · next c hc =>
      split at h
      · next hmem => exact .inr ⟨rfl, c, hmem, (Option.some.inj h).symm⟩
      · exact nomatch h
    · exact nomatch h

theorem add_setMinLen_le {a : Alphabet} {s : SymbolSet} {n i j : Nat} (hs : s.Proper a)
    (hn : setMinLen? a s = some n) (h : symbolAt? bs i a s = some j) : i + n ≤ j := by
  unfold setMinLen? at hn
  rcases symbolAt?_eq_some h with ⟨rfl, rfl⟩ | ⟨rfl, c, hc, rfl⟩
  · rcases s with ⟨_ | ⟨r, rest⟩⟩
    · exact nomatch hn
    · obtain rfl := Option.some.inj hn
      exact Nat.le_refl _
  · rcases s with ⟨_ | ⟨r, rest⟩⟩
    · exact nomatch hn
    · obtain rfl := Option.some.inj hn
      have hsymbol := (hs.valid r List.mem_cons_self).1
      have hle := SymbolSet.first_le hs.valid hs.ordered (SymbolSet.contains_iff.1 hc)
      rw [← toNat_ofNat hsymbol] at hle
      exact Nat.add_le_add_left (Text.width_mono hle) i

theorem le_add_setMaxLen {a : Alphabet} {s : SymbolSet} {n i j : Nat} (hs : s.Proper a)
    (hn : setMaxLen? a s = some n) (h : symbolAt? bs i a s = some j) : j ≤ i + n := by
  unfold setMaxLen? at hn
  rcases hlast : s.intervals.getLast? with _ | r
  · rw [hlast] at hn
    cases a <;> exact nomatch hn
  · rw [hlast] at hn
    rcases symbolAt?_eq_some h with ⟨rfl, rfl⟩ | ⟨rfl, c, hc, rfl⟩
    · obtain rfl := Option.some.inj hn
      exact Nat.le_refl _
    · obtain rfl := Option.some.inj hn
      have hsymbol := (hs.valid r (List.mem_of_getLast? hlast)).2.1
      have hle := SymbolSet.le_last hs.valid hs.ordered hlast (SymbolSet.contains_iff.1 hc)
      rw [← toNat_ofNat hsymbol] at hle
      exact Nat.add_le_add_left (Text.width_mono hle) i

theorem setMinLen_le_setMaxLen {a : Alphabet} {s : SymbolSet} {m n : Nat} (hs : s.Proper a)
    (hm : setMinLen? a s = some m) (hn : setMaxLen? a s = some n) : m ≤ n := by
  unfold setMinLen? at hm
  unfold setMaxLen? at hn
  rcases hlast : s.intervals.getLast? with _ | r
  · rw [hlast] at hn
    cases a <;> exact nomatch hn
  · rw [hlast] at hn
    rcases s with ⟨_ | ⟨q, rest⟩⟩
    · exact nomatch hlast
    · cases a
      · obtain rfl := Option.some.inj hm
        obtain rfl := Option.some.inj hn
        exact Nat.le_refl _
      · obtain rfl := Option.some.inj hm
        obtain rfl := Option.some.inj hn
        have hmem : r ∈ q :: rest := List.mem_of_getLast? hlast
        have hfirst := hs.valid q List.mem_cons_self
        have hholds : SymbolSet.Holds (q :: rest) q.1 :=
          ⟨q, List.mem_cons_self, Nat.le_refl _, hfirst.2.2⟩
        have hle := SymbolSet.le_last hs.valid hs.ordered hlast hholds
        rw [← toNat_ofNat hfirst.1, ← toNat_ofNat (hs.valid r hmem).2.1] at hle
        exact Text.width_mono hle

/-! ## Repeated stretches -/

theorem add_mul_le_of_times {P : Nat → Nat → Prop} {n k i j : Nat}
    (hP : ∀ {i j}, P i j → i + n ≤ j) (h : Times P k i j) : i + n * k ≤ j := by
  induction k generalizing i with
  | zero => exact Nat.le_of_eq h
  | succ k ih =>
    obtain ⟨l, hfirst, hrest⟩ := h
    have hle := hP hfirst
    have hle' := ih hrest
    rw [Nat.mul_succ]
    omega

theorem le_add_mul_of_times {P : Nat → Nat → Prop} {n k i j : Nat}
    (hP : ∀ {i j}, P i j → j ≤ i + n) (h : Times P k i j) : j ≤ i + n * k := by
  induction k generalizing i with
  | zero => exact Nat.le_of_eq h.symm
  | succ k ih =>
    obtain ⟨l, hfirst, hrest⟩ := h
    have hle := hP hfirst
    have hle' := ih hrest
    rw [Nat.mul_succ]
    omega

/-- The last of several stretches ends where all of them do. -/
theorem exists_last_of_times {P : Nat → Nat → Prop} {k i j : Nat} (h : Times P (k + 1) i j) :
    ∃ l, P l j := by
  obtain ⟨l, -, m, hlast, rfl⟩ := times_add.1 h
  exact ⟨l, hlast⟩

/-! ## What makes up a length -/

section

variable {r q : Regex} {rs : List Regex} {n : Nat}

theorem minLen?_repetition {min : Nat} {max : Option Nat} {greedy : Bool}
    (h : (repetition min max greedy r).minLen? = some n) :
    ∃ m, r.minLen? = some m ∧ n = m * min := by
  rw [minLen?] at h
  obtain ⟨m, hm, rfl⟩ := Option.map_eq_some_iff.1 h
  exact ⟨m, hm, rfl⟩

theorem maxLen?_repetition {min : Nat} {max : Option Nat} {greedy : Bool}
    (h : (repetition min max greedy r).maxLen? = some n) :
    ∃ most m, max = some most ∧ r.maxLen? = some m ∧ n = m * most := by
  unfold maxLen? at h
  split at h
  · next most m hm =>
    obtain rfl := Option.some.inj h
    exact ⟨most, m, rfl, hm, rfl⟩
  · exact nomatch h

theorem concatMinLen?_cons (h : concatMinLen? (r :: rs) = some n) :
    ∃ m k, r.minLen? = some m ∧ concatMinLen? rs = some k ∧ n = m + k := by
  unfold concatMinLen? at h
  split at h
  · next m k hm hk =>
    obtain rfl := Option.some.inj h
    exact ⟨m, k, hm, hk, rfl⟩
  · exact nomatch h

theorem concatMaxLen?_cons (h : concatMaxLen? (r :: rs) = some n) :
    ∃ m k, r.maxLen? = some m ∧ concatMaxLen? rs = some k ∧ n = m + k := by
  unfold concatMaxLen? at h
  split at h
  · next m k hm hk =>
    obtain rfl := Option.some.inj h
    exact ⟨m, k, hm, hk, rfl⟩
  · exact nomatch h

theorem leastLen?_cons_cons (h : leastLen? (r :: q :: rs) = some n) :
    ∃ m k, r.minLen? = some m ∧ leastLen? (q :: rs) = some k ∧ n ≤ m ∧ n ≤ k := by
  unfold leastLen? at h
  split at h
  · next m k hm hk =>
    obtain rfl := Option.some.inj h
    exact ⟨m, k, hm, hk, Nat.min_le_left m k, Nat.min_le_right m k⟩
  · exact nomatch h

theorem greatestLen?_cons_cons (h : greatestLen? (r :: q :: rs) = some n) :
    ∃ m k, r.maxLen? = some m ∧ greatestLen? (q :: rs) = some k ∧ m ≤ n ∧ k ≤ n := by
  unfold greatestLen? at h
  split at h
  · next m k hm hk =>
    obtain rfl := Option.some.inj h
    exact ⟨m, k, hm, hk, Nat.le_max_left m k, Nat.le_max_right m k⟩
  · exact nomatch h

end

/-! ## Lengths of matches -/

mutual

/-- **No match is shorter than the least length.** -/
theorem add_minLen_le : (r : Regex) → r.Proper → ∀ {n i j : Nat}, r.minLen? = some n →
    Matches bs r i j → i + n ≤ j
  | .empty, _, n, i, j, hn, h => by
    obtain rfl := Option.some.inj hn
    exact Nat.le_of_eq h
  | .literal bytes, _, n, i, j, hn, h => by
    obtain rfl := Option.some.inj hn
    exact Nat.le_of_eq h.2
  | .oneOf a s, hr, n, i, j, hn, h => add_setMinLen_le hr hn h
  | .look l, _, n, i, j, hn, h => by
    obtain rfl := Option.some.inj hn
    exact Nat.le_of_eq h.2
  | .repetition min max greedy sub, hr, n, i, j, hn, h => by
    obtain ⟨m, hm, rfl⟩ := minLen?_repetition hn
    obtain ⟨more, -, htimes⟩ := h
    have hle := add_mul_le_of_times (add_minLen_le sub hr.2 hm) htimes
    have hmin : m * min ≤ m * (min + more) := Nat.mul_le_mul_left m (Nat.le_add_right _ _)
    omega
  | .capture _ _ sub, hr, n, i, j, hn, h => add_minLen_le sub hr hn h
  | .concat parts, hr, n, i, j, hn, h => add_concatMinLen_le parts hr hn h
  | .alternation alts, hr, n, i, j, hn, h => add_leastLen_le alts hr.2 hn h

theorem add_concatMinLen_le : (rs : List Regex) → AllProper rs → ∀ {n i j : Nat},
    concatMinLen? rs = some n → MatchesAll bs rs i j → i + n ≤ j
  | [], _, n, i, j, hn, h => by
    obtain rfl := Option.some.inj hn
    exact Nat.le_of_eq h
  | r :: rs, hrs, n, i, j, hn, h => by
    obtain ⟨m, l, hm, hl, rfl⟩ := concatMinLen?_cons hn
    obtain ⟨k, hfirst, hrest⟩ := h
    have hle := add_minLen_le r hrs.1 hm hfirst
    have hle' := add_concatMinLen_le rs hrs.2 hl hrest
    omega

theorem add_leastLen_le : (rs : List Regex) → AllProper rs → ∀ {n i j : Nat},
    leastLen? rs = some n → MatchesAny bs rs i j → i + n ≤ j
  | [], _, n, i, j, hn, h => nomatch hn
  | [r], hrs, n, i, j, hn, h => add_minLen_le r hrs.1 hn (h.resolve_right id)
  | r :: q :: rs, hrs, n, i, j, hn, h => by
    obtain ⟨m, l, hm, hl, hleft, hright⟩ := leastLen?_cons_cons hn
    rcases h with h | h
    · have hle := add_minLen_le r hrs.1 hm h
      omega
    · have hle := add_leastLen_le (q :: rs) hrs.2 hl h
      omega

end

mutual

/-- **No match is longer than the greatest length.** -/
theorem le_add_maxLen : (r : Regex) → r.Proper → ∀ {n i j : Nat}, r.maxLen? = some n →
    Matches bs r i j → j ≤ i + n
  | .empty, _, n, i, j, hn, h => by
    obtain rfl := Option.some.inj hn
    exact Nat.le_of_eq h.symm
  | .literal bytes, _, n, i, j, hn, h => by
    obtain rfl := Option.some.inj hn
    exact Nat.le_of_eq h.2.symm
  | .oneOf a s, hr, n, i, j, hn, h => le_add_setMaxLen hr hn h
  | .look l, _, n, i, j, hn, h => by
    obtain rfl := Option.some.inj hn
    exact Nat.le_of_eq h.2.symm
  | .repetition min max greedy sub, hr, n, i, j, hn, h => by
    obtain ⟨most, m, rfl, hm, rfl⟩ := maxLen?_repetition hn
    obtain ⟨more, hmore, htimes⟩ := h
    have hcount : min + more ≤ most := by
      have hle := hr.1 most rfl
      have hmost := hmore most rfl
      omega
    have hle := le_add_mul_of_times (le_add_maxLen sub hr.2 hm) htimes
    have hmul : m * (min + more) ≤ m * most := Nat.mul_le_mul_left m hcount
    omega
  | .capture _ _ sub, hr, n, i, j, hn, h => le_add_maxLen sub hr hn h
  | .concat parts, hr, n, i, j, hn, h => le_add_concatMaxLen parts hr hn h
  | .alternation alts, hr, n, i, j, hn, h => le_add_greatestLen alts hr.2 hn h

theorem le_add_concatMaxLen : (rs : List Regex) → AllProper rs → ∀ {n i j : Nat},
    concatMaxLen? rs = some n → MatchesAll bs rs i j → j ≤ i + n
  | [], _, n, i, j, hn, h => by
    obtain rfl := Option.some.inj hn
    exact Nat.le_of_eq h.symm
  | r :: rs, hrs, n, i, j, hn, h => by
    obtain ⟨m, l, hm, hl, rfl⟩ := concatMaxLen?_cons hn
    obtain ⟨k, hfirst, hrest⟩ := h
    have hle := le_add_maxLen r hrs.1 hm hfirst
    have hle' := le_add_concatMaxLen rs hrs.2 hl hrest
    omega

theorem le_add_greatestLen : (rs : List Regex) → AllProper rs → ∀ {n i j : Nat},
    greatestLen? rs = some n → MatchesAny bs rs i j → j ≤ i + n
  | [], _, n, i, j, hn, h => nomatch hn
  | [r], hrs, n, i, j, hn, h => le_add_maxLen r hrs.1 hn (h.resolve_right id)
  | r :: q :: rs, hrs, n, i, j, hn, h => by
    obtain ⟨m, l, hm, hl, hleft, hright⟩ := greatestLen?_cons_cons hn
    rcases h with h | h
    · have hle := le_add_maxLen r hrs.1 hm h
      omega
    · have hle := le_add_greatestLen (q :: rs) hrs.2 hl h
      omega

end

mutual

/-- **The least length is at most the greatest**, if there are both. -/
theorem minLen_le_maxLen : (r : Regex) → r.Proper → ∀ {m n : Nat}, r.minLen? = some m →
    r.maxLen? = some n → m ≤ n
  | .empty, _, m, n, hm, hn | .look _, _, m, n, hm, hn => by
    obtain rfl := Option.some.inj hm
    exact Nat.zero_le n
  | .literal bytes, _, m, n, hm, hn => by
    obtain rfl := Option.some.inj hm
    exact Nat.le_of_eq (Option.some.inj hn)
  | .oneOf a s, hr, m, n, hm, hn => setMinLen_le_setMaxLen hr hm hn
  | .repetition min max greedy sub, hr, m, n, hm, hn => by
    obtain ⟨k, hk, rfl⟩ := minLen?_repetition hm
    obtain ⟨most, l, rfl, hl, rfl⟩ := maxLen?_repetition hn
    exact Nat.mul_le_mul (minLen_le_maxLen sub hr.2 hk hl) (hr.1 most rfl)
  | .capture _ _ sub, hr, m, n, hm, hn => minLen_le_maxLen sub hr hm hn
  | .concat parts, hr, m, n, hm, hn => concatMinLen_le_concatMaxLen parts hr hm hn
  | .alternation alts, hr, m, n, hm, hn => leastLen_le_greatestLen alts hr.2 hm hn

theorem concatMinLen_le_concatMaxLen : (rs : List Regex) → AllProper rs → ∀ {m n : Nat},
    concatMinLen? rs = some m → concatMaxLen? rs = some n → m ≤ n
  | [], _, m, n, hm, hn => by
    obtain rfl := Option.some.inj hm
    exact Nat.zero_le n
  | r :: rs, hrs, m, n, hm, hn => by
    obtain ⟨k, l, hk, hl, rfl⟩ := concatMinLen?_cons hm
    obtain ⟨k', l', hk', hl', rfl⟩ := concatMaxLen?_cons hn
    have hle := minLen_le_maxLen r hrs.1 hk hk'
    have hle' := concatMinLen_le_concatMaxLen rs hrs.2 hl hl'
    omega

theorem leastLen_le_greatestLen : (rs : List Regex) → AllProper rs → ∀ {m n : Nat},
    leastLen? rs = some m → greatestLen? rs = some n → m ≤ n
  | [], _, m, n, hm, hn => nomatch hm
  | [r], hrs, m, n, hm, hn => minLen_le_maxLen r hrs.1 hm hn
  | r :: q :: rs, hrs, m, n, hm, hn => by
    obtain ⟨k, l, hk, -, hleft, -⟩ := leastLen?_cons_cons hm
    obtain ⟨k', l', hk', -, hright, -⟩ := greatestLen?_cons_cons hn
    have hle := minLen_le_maxLen r hrs.1 hk hk'
    omega

end

/-! ## Assertions at the end -/

variable {l : Look}

/-- Where a sequence ends with an assertion: in its rest, or in its first part
if no other part can take bytes. -/
theorem lastEndsWith_cons {r : Regex} {rs : List Regex}
    (h : (lastEndsWith l (r :: rs)).1 = true) :
    (lastEndsWith l rs).1 = true ∨ (lastEndsWith l rs).2 = false ∧ r.endsWith l = true := by
  rw [lastEndsWith] at h
  rcases hrest : lastEndsWith l rs with ⟨found, stopped⟩
  rw [hrest] at h
  cases stopped
  · rcases Bool.or_eq_true_iff.1 h with hfound | hr
    · exact .inl hfound
    · exact .inr ⟨rfl, hr⟩
  · exact .inl h

/-- No part of a sequence can take bytes in which the search for an assertion
did not stop. -/
theorem canConsume_of_lastEndsWith {r : Regex} {rs : List Regex}
    (h : (lastEndsWith l (r :: rs)).2 = false) :
    (lastEndsWith l rs).2 = false ∧ r.canConsume = false := by
  rw [lastEndsWith] at h
  rcases hrest : lastEndsWith l rs with ⟨found, stopped⟩
  rw [hrest] at h
  cases stopped
  · exact ⟨rfl, h⟩
  · exact nomatch h

mutual

/-- An assertion with which all matches end occurs in the expression. -/
theorem mentions_of_endsWith : (r : Regex) → r.Proper → r.endsWith l = true →
    r.mentions l = true
  | .empty, _, h | .literal _, _, h | .oneOf _ _, _, h => h
  | .look _, _, h => h
  | .repetition _ _ _ sub, hr, h => mentions_of_endsWith sub hr.2 (Bool.and_eq_true_iff.1 h).2
  | .capture _ _ sub, hr, h => mentions_of_endsWith sub hr h
  | .concat parts, hr, h => anyMentions_of_lastEndsWith parts hr h
  | .alternation [], hr, _ => absurd rfl hr.1
  | .alternation (r :: _), hr, h =>
    Bool.or_eq_true_iff.2 (.inl (mentions_of_endsWith r hr.2.1 (Bool.and_eq_true_iff.1 h).1))

theorem anyMentions_of_lastEndsWith : (rs : List Regex) → AllProper rs →
    (lastEndsWith l rs).1 = true → anyMentions l rs = true
  | [], _, h => h
  | r :: rs, hrs, h => by
    rcases lastEndsWith_cons h with hrest | ⟨-, hr⟩
    · exact Bool.or_eq_true_iff.2 (.inr (anyMentions_of_lastEndsWith rs hrs.2 hrest))
    · exact Bool.or_eq_true_iff.2 (.inl (mentions_of_endsWith r hrs.1 hr))

end

/-- What cannot take bytes matches nothing but the empty stretch. -/
theorem eq_of_canConsume {r : Regex} {i j : Nat} (hr : r.Proper) (hcan : r.canConsume = false)
    (h : Matches bs r i j) : i = j := by
  have hlen : r.maxLen? = some 0 := by
    rw [canConsume] at hcan
    simpa using hcan
  exact Nat.le_antisymm (le_of_matches r h) (le_add_maxLen r hr hlen h)

mutual

/-- **Every match ends where the assertion holds** with which the expression is
said to end. -/
theorem holds_of_endsWith : (r : Regex) → r.Proper → ∀ {i j : Nat}, r.endsWith l = true →
    Matches bs r i j → l.holds bs j = true
  | .empty, _, _, _, hend, _ | .literal _, _, _, _, hend, _ | .oneOf _ _, _, _, _, hend, _ =>
    nomatch hend
  | .look l', _, i, j, hend, h => by
    obtain rfl : l = l' := beq_iff_eq.1 hend
    obtain ⟨hholds, rfl⟩ := h
    exact hholds
  | .repetition min max _ sub, hr, i, j, hend, h => by
    obtain ⟨hmin, hsub⟩ := Bool.and_eq_true_iff.1 hend
    obtain ⟨more, -, htimes⟩ := h
    -- There is a last match of what is repeated.
    obtain ⟨n, hn⟩ : ∃ n, min + more = n + 1 := by
      have hne : min ≠ 0 := by simpa using hmin
      exact ⟨min + more - 1, by omega⟩
    rw [hn] at htimes
    obtain ⟨k, hlast⟩ := exists_last_of_times htimes
    exact holds_of_endsWith sub hr.2 hsub hlast
  | .capture _ _ sub, hr, _, _, hend, h => holds_of_endsWith sub hr hend h
  | .concat parts, hr, _, _, hend, h => (holds_of_lastEndsWith parts hr h).1 hend
  | .alternation alts, hr, _, _, hend, h => holds_of_allEndWith alts hr.2 hend h

/-- The same for a sequence; and one in which the search for the assertion did
not stop matches nothing but the empty stretch. -/
theorem holds_of_lastEndsWith : (rs : List Regex) → AllProper rs → ∀ {i j : Nat},
    MatchesAll bs rs i j → ((lastEndsWith l rs).1 = true → l.holds bs j = true) ∧
      ((lastEndsWith l rs).2 = false → i = j)
  | [], _, _, _, h => ⟨fun hend => (nomatch hend), fun _ => h⟩
  | r :: rs, hrs, i, j, ⟨k, hfirst, hrest⟩ => by
    obtain ⟨hholds, hempty⟩ := holds_of_lastEndsWith rs hrs.2 hrest
    constructor
    · intro hend
      rcases lastEndsWith_cons hend with hlast | ⟨hopen, hr⟩
      · exact hholds hlast
      · rw [← hempty hopen]
        exact holds_of_endsWith r hrs.1 hr hfirst
    · intro hopen
      obtain ⟨hopenRest, hcan⟩ := canConsume_of_lastEndsWith hopen
      exact (eq_of_canConsume hrs.1 hcan hfirst).trans (hempty hopenRest)

theorem holds_of_allEndWith : (rs : List Regex) → AllProper rs → ∀ {i j : Nat},
    allEndWith l rs = true → MatchesAny bs rs i j → l.holds bs j = true
  | r :: _, hrs, _, _, hend, .inl h =>
    holds_of_endsWith r hrs.1 (Bool.and_eq_true_iff.1 hend).1 h
  | _ :: rs, hrs, _, _, hend, .inr h =>
    holds_of_allEndWith rs hrs.2 (Bool.and_eq_true_iff.1 hend).2 h

end

end Regex

end Multiscan
