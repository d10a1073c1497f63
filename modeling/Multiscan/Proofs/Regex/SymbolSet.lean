import Mathlib.Data.List.Basic
import Mathlib.Data.List.Pairwise
import Multiscan.Regex.Intervals
/-!
# Regex — the form of sets of symbols

The operations on sets of symbols work on intervals. This file says which form
the intervals have, and what that form is good for. `Valid` intervals start and
end with a symbol, so none starts or ends among the surrogates. Joined intervals
are `Apart`: they are determined by what they hold (`eq_of_holds`), and their
complement has the other symbols (`contains_compl`). `Proper` sets are ordered:
their first interval has the least member and their last one the greatest.
-/

namespace Multiscan.Regex

variable {a : Alphabet} {n : Nat}

/-! ## Symbols -/

/-- A number stands for a symbol: a byte, or a character, which is no
surrogate. -/
def Alphabet.IsSymbol (a : Alphabet) (n : Nat) : Prop :=
  n ≤ a.last ∧ (a = .character → n < 0xD800 ∨ 0xDFFF < n)

instance (a : Alphabet) (n : Nat) : Decidable (a.IsSymbol n) :=
  inferInstanceAs (Decidable (_ ∧ _))

/-- An interval starts and ends with a symbol, in this order. -/
def Alphabet.Spans (a : Alphabet) (r : Nat × Nat) : Prop :=
  a.IsSymbol r.1 ∧ a.IsSymbol r.2 ∧ r.1 ≤ r.2

instance (a : Alphabet) (r : Nat × Nat) : Decidable (a.Spans r) :=
  inferInstanceAs (Decidable (_ ∧ _))

theorem Alphabet.IsSymbol.max {m : Nat} (hm : a.IsSymbol m) (hn : a.IsSymbol n) :
    a.IsSymbol (max m n) := by
  rcases Nat.le_total m n with hle | hle
  · rwa [Nat.max_eq_right hle]
  · rwa [Nat.max_eq_left hle]

theorem Alphabet.IsSymbol.min {m : Nat} (hm : a.IsSymbol m) (hn : a.IsSymbol n) :
    a.IsSymbol (min m n) := by
  rcases Nat.le_total m n with hle | hle
  · rwa [Nat.min_eq_left hle]
  · rwa [Nat.min_eq_right hle]

theorem isSymbol_byte : Alphabet.byte.IsSymbol n ↔ n ≤ 0xFF := by
  simp [Alphabet.IsSymbol, Alphabet.last]

theorem isSymbol_character :
    Alphabet.character.IsSymbol n ↔ n ≤ 0x10FFFF ∧ (n < 0xD800 ∨ 0xDFFF < n) := by
  simp [Alphabet.IsSymbol, Alphabet.last]

theorem isSymbol_last (a : Alphabet) : a.IsSymbol a.last := by
  cases a <;> decide

theorem isSymbol_of_ascii (a : Alphabet) (hn : n ≤ 0x7F) : a.IsSymbol n := by
  cases a
  · rw [isSymbol_byte]
    omega
  · rw [isSymbol_character]
    omega

theorem isSymbol_toNat (c : Char) : Alphabet.character.IsSymbol c.toNat := by
  have hvalid : c.toNat.isValidChar := c.valid
  rw [isSymbol_character]
  rcases hvalid with hlt | ⟨hgt, hlt⟩ <;> omega

/-- The symbol behind one that is not the last is a symbol, and the next. -/
theorem isSymbol_succ (hn : a.IsSymbol n) {m : Nat} (hm : a.IsSymbol m) (hlt : n < m) :
    a.IsSymbol (a.succ n) ∧ n < a.succ n ∧ a.succ n ≤ m := by
  cases a
  · rw [isSymbol_byte] at *
    simp only [Alphabet.succ, reduceCtorEq, false_and, if_false]
    omega
  · rw [isSymbol_character] at *
    simp only [Alphabet.succ, true_and]
    split <;> omega

/-- The symbol before one that is not the first is a symbol, and the one
before. -/
theorem isSymbol_pred (hn : a.IsSymbol n) {m : Nat} (hm : a.IsSymbol m) (hlt : m < n) :
    a.IsSymbol (a.pred n) ∧ a.pred n < n ∧ m ≤ a.pred n := by
  cases a
  · rw [isSymbol_byte] at *
    simp only [Alphabet.pred, reduceCtorEq, false_and, if_false]
    omega
  · rw [isSymbol_character] at *
    simp only [Alphabet.pred, true_and]
    split <;> omega

/-- Two symbols with a number between them have a symbol between them, unless
they stand on either side of the surrogates. -/
theorem isSymbol_between {m : Nat} (hm : a.IsSymbol m) (hn : a.IsSymbol n) (hlt : m + 1 < n) :
    (m < a.succ m ∧ a.succ m ≤ a.pred n ∧ a.pred n < n) ∨
      a = .character ∧ m = 0xD7FF ∧ n = 0xE000 ∧ a.succ m = 0xE000 ∧ a.pred n = 0xD7FF := by
  cases a
  · left
    simp only [Alphabet.succ, Alphabet.pred, reduceCtorEq, false_and, if_false]
    omega
  · rw [isSymbol_character] at *
    simp only [Alphabet.succ, Alphabet.pred, true_and]
    split <;> split <;> omega

namespace SymbolSet

variable {s t : SymbolSet} {l : List (Nat × Nat)}

/-! ## Members -/

/-- One of several intervals holds a number. -/
def Holds (l : List (Nat × Nat)) (n : Nat) : Prop := ∃ r ∈ l, r.1 ≤ n ∧ n ≤ r.2

theorem contains_iff : s.contains n = true ↔ Holds s.intervals n := by
  simp [contains, Holds]

/-- An interval of one symbol holds that. -/
theorem contains_single {k : Nat} : (interval k k).contains n = true ↔ n = k := by
  rw [contains_iff, Holds]
  simp only [interval, List.mem_singleton, exists_eq_left]
  omega

theorem holds_cons {r : Nat × Nat} : Holds (r :: l) n ↔ (r.1 ≤ n ∧ n ≤ r.2) ∨ Holds l n := by
  simp [Holds]

theorem holds_append {k : List (Nat × Nat)} : Holds (l ++ k) n ↔ Holds l n ∨ Holds k n := by
  simp [Holds, or_and_right, exists_or]

/-- Joining intervals that overlap or touch keeps what they hold. -/
theorem holds_join {current : Nat × Nat}
    (hsorted : (current :: l).Pairwise fun r q => r.1 ≤ q.1) :
    Holds (join current l) n ↔ Holds (current :: l) n := by
  induction l generalizing current with
  | nil => rfl
  | cons r rest ih =>
    obtain ⟨hcurrent, hrest⟩ := List.pairwise_cons.1 hsorted
    have hle : current.1 ≤ r.1 := hcurrent r List.mem_cons_self
    rw [join]
    split
    · next htouch =>
      have hsorted' : ((current.1, max current.2 r.2) :: rest).Pairwise fun r q => r.1 ≤ q.1 :=
        List.pairwise_cons.2
          ⟨fun q hq => hcurrent q (List.mem_cons_of_mem _ hq), (List.pairwise_cons.1 hrest).2⟩
      rw [ih hsorted', holds_cons, holds_cons, holds_cons, ← or_assoc]
      refine or_congr_left ?_
      dsimp only
      omega
    · rw [holds_cons, ih hrest, ← holds_cons]

theorem sorted_mergeSort (l : List (Nat × Nat)) :
    (l.mergeSort fun r q => decide (r.1 ≤ q.1)).Pairwise fun r q => r.1 ≤ q.1 := by
  have htrans : ∀ r q k : Nat × Nat, decide (r.1 ≤ q.1) → decide (q.1 ≤ k.1) →
      decide (r.1 ≤ k.1) := by
    intro r q k hrq hqk
    rw [decide_eq_true_eq] at *
    omega
  have htotal : ∀ r q : Nat × Nat, decide (r.1 ≤ q.1) || decide (q.1 ≤ r.1) := by
    intro r q
    rw [Bool.or_eq_true, decide_eq_true_eq, decide_eq_true_eq]
    omega
  exact (List.pairwise_mergeSort htrans htotal l).imp of_decide_eq_true

/-- **The members of intervals** are what they hold. -/
theorem contains_ofIntervals : (ofIntervals l).contains n = true ↔ Holds l n := by
  have hperm := List.mergeSort_perm l fun r q => decide (r.1 ≤ q.1)
  have hsorted := sorted_mergeSort l
  have hholds : Holds l n ↔ Holds (l.mergeSort fun r q => decide (r.1 ≤ q.1)) n := by
    simp only [Holds, hperm.mem_iff]
  rw [contains_iff, hholds, ofIntervals]
  split
  · next hnil => rw [hnil]; rfl
  · next r rest hcons =>
    rw [hcons] at hsorted ⊢
    exact holds_join hsorted

@[simp] theorem contains_joined : s.joined.contains n = s.contains n := by
  rw [Bool.eq_iff_iff, joined, contains_ofIntervals, contains_iff]

/-! ## Intervals that stay apart -/

/-- Every interval starts and ends with a symbol. -/
def Valid (a : Alphabet) (l : List (Nat × Nat)) : Prop := ∀ r ∈ l, a.Spans r

instance (a : Alphabet) (l : List (Nat × Nat)) : Decidable (Valid a l) :=
  inferInstanceAs (Decidable (∀ r ∈ l, a.Spans r))

theorem valid_append {k : List (Nat × Nat)} (hl : Valid a l) (hk : Valid a k) :
    Valid a (l ++ k) :=
  List.forall_mem_append.2 ⟨hl, hk⟩

/-- Intervals are in ascending order, and between two of them is a number. -/
def Apart (l : List (Nat × Nat)) : Prop := l.Pairwise fun r q => r.2 + 1 < q.1

theorem valid_join {current : Nat × Nat} (h : Valid a (current :: l)) :
    Valid a (join current l) := by
  induction l generalizing current with
  | nil => exact h
  | cons r rest ih =>
    obtain ⟨hcurrent, hrest⟩ := List.forall_mem_cons.1 h
    obtain ⟨hr, hrest⟩ := List.forall_mem_cons.1 hrest
    rw [join]
    split
    · refine ih (List.forall_mem_cons.2 ⟨⟨hcurrent.1, hcurrent.2.1.max hr.2.1, ?_⟩, hrest⟩)
      exact Nat.le_trans hcurrent.2.2 (Nat.le_max_left _ _)
    · exact List.forall_mem_cons.2 ⟨hcurrent, ih (List.forall_mem_cons.2 ⟨hr, hrest⟩)⟩

/-- Joined intervals start where the first one does, or behind. -/
theorem le_of_mem_join {current q : Nat × Nat}
    (hsorted : (current :: l).Pairwise fun r q => r.1 ≤ q.1) (hq : q ∈ join current l) :
    current.1 ≤ q.1 := by
  induction l generalizing current with
  | nil => exact Nat.le_of_eq (congrArg Prod.fst (List.mem_singleton.1 hq).symm)
  | cons r rest ih =>
    obtain ⟨hcurrent, hrest⟩ := List.pairwise_cons.1 hsorted
    rw [join] at hq
    split at hq
    · have hsorted' : ((current.1, max current.2 r.2) :: rest).Pairwise fun r q => r.1 ≤ q.1 :=
        List.pairwise_cons.2
          ⟨fun k hk => hcurrent k (List.mem_cons_of_mem _ hk), (List.pairwise_cons.1 hrest).2⟩
      exact @ih (current.1, max current.2 r.2) hsorted' hq
    · rcases List.mem_cons.1 hq with rfl | hq
      · exact Nat.le_refl _
      · exact Nat.le_trans (hcurrent r List.mem_cons_self) (ih hrest hq)

theorem apart_join {current : Nat × Nat}
    (hsorted : (current :: l).Pairwise fun r q => r.1 ≤ q.1) : Apart (join current l) := by
  induction l generalizing current with
  | nil => exact List.pairwise_singleton _ _
  | cons r rest ih =>
    obtain ⟨hcurrent, hrest⟩ := List.pairwise_cons.1 hsorted
    rw [join]
    split
    · refine ih (List.pairwise_cons.2 ⟨fun k hk => ?_, (List.pairwise_cons.1 hrest).2⟩)
      exact hcurrent k (List.mem_cons_of_mem _ hk)
    · next hgap =>
      refine List.pairwise_cons.2 ⟨fun q hq => ?_, ih hrest⟩
      have hle := le_of_mem_join hrest hq
      omega

theorem valid_ofIntervals (h : Valid a l) : Valid a (ofIntervals l).intervals := by
  have hsort : Valid a (l.mergeSort fun r q => decide (r.1 ≤ q.1)) :=
    fun r hr => h r ((List.mergeSort_perm l _).mem_iff.1 hr)
  rw [ofIntervals]
  split
  · exact fun r hr => nomatch hr
  · next hcons => exact valid_join (hcons ▸ hsort)

theorem apart_ofIntervals (l : List (Nat × Nat)) : Apart (ofIntervals l).intervals := by
  have hsorted := sorted_mergeSort l
  rw [ofIntervals]
  split
  · exact .nil
  · next hcons => exact apart_join (hcons ▸ hsorted)

/-- Intervals are in ascending order and do not overlap. -/
def Ordered (l : List (Nat × Nat)) : Prop := l.Pairwise fun r q => r.2 < q.1

theorem Apart.ordered (h : Apart l) : Ordered l := h.imp fun hlt => by omega

/-- The intervals of a set span symbols and are in ascending order. -/
structure Proper (a : Alphabet) (s : SymbolSet) : Prop where
  valid : Valid a s.intervals
  ordered : Ordered s.intervals

theorem proper_ofIntervals (h : Valid a l) : Proper a (ofIntervals l) :=
  ⟨valid_ofIntervals h, (apart_ofIntervals l).ordered⟩

/-! ## Complements -/

variable {r : Nat × Nat}

/-- What is known of an interval, of the next one and of those behind it. -/
theorem neighbours {k : Nat × Nat} (h : Valid a (r :: k :: l)) (hapart : Apart (r :: k :: l)) :
    a.Spans r ∧ a.Spans k ∧ r.2 + 1 < k.1 ∧ Valid a (k :: l) ∧ Apart (k :: l) := by
  obtain ⟨hr, hrest⟩ := List.forall_mem_cons.1 h
  obtain ⟨hlt, hrestApart⟩ := List.pairwise_cons.1 hapart
  exact ⟨hr, hrest k List.mem_cons_self, hlt k List.mem_cons_self, hrest, hrestApart⟩

/-- Every gap behind an interval spans symbols. -/
theorem valid_gaps (h : Valid a (r :: l)) (hapart : Apart (r :: l)) :
    Valid a (gaps a r.2 l) := by
  induction l generalizing r with
  | nil =>
    rw [gaps]
    split
    · next hlt =>
      obtain ⟨hsucc, -, hle⟩ :=
        isSymbol_succ (h r List.mem_cons_self).2.1 (isSymbol_last a) hlt
      exact List.forall_mem_singleton.2 ⟨hsucc, isSymbol_last a, hle⟩
    · exact fun q hq => nomatch hq
  | cons q rest ih =>
    obtain ⟨hr, hq, hgap, hrest, hrestApart⟩ := neighbours h hapart
    have hlt : r.2 < q.1 := Nat.lt_of_succ_lt hgap
    have hsucc := (isSymbol_succ hr.2.1 hq.1 hlt).1
    have hpred := (isSymbol_pred hq.1 hr.2.1 hlt).1
    refine List.forall_mem_cons.2 ⟨⟨hsucc.min hpred, hsucc.max hpred, ?_⟩, ih hrest hrestApart⟩
    exact Nat.le_trans (Nat.min_le_left _ _) (Nat.le_max_left _ _)

/-- A gap starts behind the interval before it, or with its end if nothing but
surrogates come between this and the next one. -/
theorem lt_of_mem_gaps {q : Nat × Nat} (h : Valid a (r :: l)) (hapart : Apart (r :: l))
    (hq : q ∈ gaps a r.2 l) :
    r.2 < q.1 ∨ r.2 = 0xD7FF ∧ q.1 = 0xD7FF ∧ Holds l 0xE000 := by
  induction l generalizing r with
  | nil =>
    rw [gaps] at hq
    split at hq
    · next hlt =>
      obtain rfl := List.mem_singleton.1 hq
      exact .inl (isSymbol_succ (h r List.mem_cons_self).2.1 (isSymbol_last a) hlt).2.1
    · exact nomatch hq
  | cons k rest ih =>
    obtain ⟨hr, hk, hlt, hrest, hrestApart⟩ := neighbours h hapart
    rcases List.mem_cons.1 hq with rfl | hq
    · dsimp only [bounded]
      rcases isSymbol_between hr.2.1 hk.1 hlt with hbetween | ⟨-, hbefore, hbehind, hsucc, hpred⟩
      · exact .inl (by omega)
      · refine .inr ⟨hbefore, by omega, holds_cons.2 (.inl ?_)⟩
        have hspan := hk.2.2
        omega
    · have hle := ih hrest hrestApart hq
      have hspan := hk.2.2
      exact .inl (by omega)

theorem ordered_gaps (h : Valid a (r :: l)) (hapart : Apart (r :: l)) :
    Ordered (gaps a r.2 l) := by
  induction l generalizing r with
  | nil =>
    rw [gaps]
    split
    · exact List.pairwise_singleton _ _
    · exact .nil
  | cons k rest ih =>
    obtain ⟨hr, hk, hlt, hrest, hrestApart⟩ := neighbours h hapart
    have hspan := hk.2.2
    refine List.pairwise_cons.2 ⟨fun q hq => ?_, ih hrest hrestApart⟩
    have hle := lt_of_mem_gaps hrest hrestApart hq
    dsimp only [bounded]
    rcases isSymbol_between hr.2.1 hk.1 hlt with hbetween | ⟨-, hbefore, hbehind, hsucc, hpred⟩
    · omega
    · omega

/-- A set with members on both sides of the surrogates, and with nothing else
between them. -/
def Straddles (l : List (Nat × Nat)) : Prop := Holds l 0xD7FF ∧ Holds l 0xE000

theorem straddles_cons (h : Straddles l) : Straddles (r :: l) :=
  ⟨holds_cons.2 (.inr h.1), holds_cons.2 (.inr h.2)⟩

/-- The gaps between intervals are apart, too, if no gap is empty. -/
theorem apart_gaps (h : Valid a (r :: l)) (hapart : Apart (r :: l))
    (hgap : ¬ Straddles (r :: l)) : Apart (gaps a r.2 l) := by
  induction l generalizing r with
  | nil =>
    rw [gaps]
    split
    · exact List.pairwise_singleton _ _
    · exact .nil
  | cons k rest ih =>
    obtain ⟨hr, hk, hlt, hrest, hrestApart⟩ := neighbours h hapart
    have hspan := hk.2.2
    have hrestGap := fun hrest => hgap (straddles_cons hrest)
    refine List.pairwise_cons.2 ⟨fun q hq => ?_, ih hrest hrestApart hrestGap⟩
    dsimp only [bounded]
    rcases isSymbol_between hr.2.1 hk.1 hlt with hbetween | ⟨-, hstop, hstart, -, -⟩
    · rcases lt_of_mem_gaps hrest hrestApart hq with hbehind | ⟨hbefore, -, hbehind⟩
      · omega
      · exact absurd ⟨holds_cons.2 (.inl ⟨by omega, by omega⟩),
          holds_cons.2 (.inr hbehind)⟩ hrestGap
    · refine absurd ⟨?_, ?_⟩ hgap
      · exact holds_cons.2 (.inl ⟨by have := hr.2.2; omega, by omega⟩)
      · exact holds_cons.2 (.inr (holds_cons.2 (.inl ⟨by omega, by omega⟩)))

/-- What the intervals behind another hold does not touch it. -/
theorem lt_of_holds (hapart : Apart (r :: l)) (h : Holds l n) : r.2 + 1 < n := by
  obtain ⟨q, hq, hle, -⟩ := h
  exact Nat.lt_of_lt_of_le ((List.pairwise_cons.1 hapart).1 q hq) hle

/-- What comes before an interval is in none of those behind it. -/
theorem not_holds_of_lt (hspan : a.Spans r) (hapart : Apart (r :: l)) (hlt : n < r.1) :
    ¬ Holds l n := by
  intro h
  have hbehind := lt_of_holds hapart h
  have hle := hspan.2.2
  omega

/-- The gaps behind an interval hold what comes behind it and the others do
not hold, unless two of the intervals stand at the surrogates. What comes before
these is held then, too. -/
theorem holds_gaps (hn : a.IsSymbol n) (h : Valid a (r :: l)) (hapart : Apart (r :: l))
    (hgap : Straddles (r :: l) → n < 0xD7FF) :
    Holds (gaps a r.2 l) n ↔ r.2 < n ∧ ¬ Holds l n := by
  induction l generalizing r with
  | nil =>
    have hr := (h r List.mem_cons_self).2.1
    have hlast := hn.1
    rw [gaps]
    split
    · next hlt =>
      obtain ⟨-, hsucc, -⟩ := isSymbol_succ hr (isSymbol_last a) hlt
      constructor
      · rintro ⟨q, hq, hle, -⟩
        obtain rfl := List.mem_singleton.1 hq
        exact ⟨Nat.lt_of_lt_of_le hsucc hle, fun ⟨q, hq, _⟩ => nomatch hq⟩
      · rintro ⟨hrn, -⟩
        exact ⟨_, List.mem_singleton.2 rfl, (isSymbol_succ hr hn hrn).2.2, hlast⟩
    · next hge =>
      constructor
      · rintro ⟨q, hq, -⟩
        exact nomatch hq
      · rintro ⟨hrn, -⟩
        omega
  | cons k rest ih =>
    obtain ⟨hr, hk, hlt, hrest, hrestApart⟩ := neighbours h hapart
    have hspan := hk.2.2
    have hrestGap := fun hrest => hgap (straddles_cons hrest)
    have hhead : (bounded (a.succ r.2) (a.pred k.1)).1 ≤ n ∧
        n ≤ (bounded (a.succ r.2) (a.pred k.1)).2 ↔ r.2 < n ∧ n < k.1 := by
      dsimp only [bounded]
      rcases isSymbol_between hr.2.1 hk.1 hlt with hbetween | ⟨-, hstop, hstart, hsucc, hpred⟩
      · constructor
        · intro hmem
          omega
        · rintro ⟨hrn, hnk⟩
          have hsucc := (isSymbol_succ hr.2.1 hn hrn).2.2
          have hpred := (isSymbol_pred hk.1 hn hnk).2.2
          omega
      · have hbefore : n < 0xD7FF := by
          refine hgap ⟨?_, ?_⟩
          · exact holds_cons.2 (.inl ⟨by have := hr.2.2; omega, by omega⟩)
          · exact holds_cons.2 (.inr (holds_cons.2 (.inl ⟨by omega, by omega⟩)))
        omega
    rw [gaps, holds_cons, hhead, ih hrest hrestApart hrestGap, holds_cons]
    constructor
    · rintro (⟨hrn, hnk⟩ | ⟨hkn, hnot⟩)
      · exact ⟨hrn, not_or.2 ⟨by omega, not_holds_of_lt hk hrestApart hnk⟩⟩
      · exact ⟨by omega, not_or.2 ⟨by omega, hnot⟩⟩
    · rintro ⟨hrn, hnot⟩
      obtain ⟨hnotk, hnotrest⟩ := not_or.1 hnot
      rcases Nat.lt_or_ge n k.1 with hnk | hkn
      · exact .inl ⟨hrn, hnk⟩
      · exact .inr ⟨by omega, hnotrest⟩

/-- **The complement of a joined set is proper.** -/
theorem proper_compl (h : Valid a s.intervals) (hapart : Apart s.intervals) :
    Proper a (s.compl a) := by
  have hzero : a.IsSymbol 0 := by cases a <;> decide
  rcases s with ⟨_ | ⟨r, rest⟩⟩
  · refine ⟨List.forall_mem_singleton.2 ⟨hzero, isSymbol_last a, Nat.zero_le _⟩, ?_⟩
    exact List.pairwise_singleton _ _
  · have hr := h r List.mem_cons_self
    rw [compl]
    dsimp only at h hapart ⊢
    split
    · next hpos =>
      obtain ⟨hpred, hlt, -⟩ := isSymbol_pred hr.1 hzero hpos
      refine ⟨List.forall_mem_cons.2 ⟨⟨hzero, hpred, Nat.zero_le _⟩, valid_gaps h hapart⟩, ?_⟩
      refine List.pairwise_cons.2 ⟨fun q hq => ?_, ordered_gaps h hapart⟩
      have hle := lt_of_mem_gaps h hapart hq
      have hspan := hr.2.2
      dsimp only
      omega
    · exact ⟨valid_gaps h hapart, ordered_gaps h hapart⟩

/-- **The complement of a joined set** has the symbols that are no members,
those before the surrogates at least if the set has members on both sides of
these. -/
theorem contains_compl (hn : a.IsSymbol n) (h : Valid a s.intervals) (hapart : Apart s.intervals)
    (hgap : Straddles s.intervals → n < 0xD7FF) :
    (s.compl a).contains n = true ↔ ¬ s.contains n = true := by
  have hzero : a.IsSymbol 0 := by cases a <;> decide
  rw [contains_iff, contains_iff]
  rcases s with ⟨_ | ⟨r, rest⟩⟩
  · constructor
    · exact fun _ ⟨q, hq, _⟩ => nomatch hq
    · exact fun _ => ⟨(0, a.last), List.mem_singleton.2 rfl, Nat.zero_le _, hn.1⟩
  · have hr := h r List.mem_cons_self
    have hspan := hr.2.2
    have hrest := holds_gaps hn h hapart hgap
    rw [compl]
    dsimp only
    split
    · next hpos =>
      have hpred := (isSymbol_pred hr.1 hzero hpos).2.1
      rw [holds_cons, hrest, holds_cons, not_or]
      constructor
      · rintro (⟨-, hle⟩ | ⟨hrn, hnot⟩)
        · exact ⟨by omega, not_holds_of_lt hr hapart (by omega)⟩
        · exact ⟨by omega, hnot⟩
      · rintro ⟨hnot, hnotrest⟩
        rcases Nat.lt_or_ge n r.1 with hnr | hrn
        · exact .inl ⟨Nat.zero_le _, (isSymbol_pred hr.1 hn hnr).2.2⟩
        · exact .inr ⟨by omega, hnotrest⟩
    · rw [hrest, holds_cons, not_or]
      exact and_congr_left fun _ => by omega

theorem apart_compl (h : Valid a s.intervals) (hapart : Apart s.intervals)
    (hgap : ¬ Straddles s.intervals) : Apart (s.compl a).intervals := by
  have hzero : a.IsSymbol 0 := by cases a <;> decide
  rcases s with ⟨_ | ⟨r, rest⟩⟩
  · exact List.pairwise_singleton _ _
  · have hr := h r List.mem_cons_self
    have hspan := hr.2.2
    rw [compl]
    dsimp only at h hapart hgap ⊢
    split
    · next hpos =>
      have hpred := (isSymbol_pred hr.1 hzero hpos).2.1
      refine List.pairwise_cons.2 ⟨fun q hq => ?_, apart_gaps h hapart hgap⟩
      dsimp only
      rcases lt_of_mem_gaps h hapart hq with hlt | ⟨hstop, -, hbehind⟩
      · omega
      · exact absurd ⟨holds_cons.2 (.inl ⟨by omega, by omega⟩),
          holds_cons.2 (.inr hbehind)⟩ hgap
    · exact apart_gaps h hapart hgap

/-! ## Joined sets have one form -/

variable {k : List (Nat × Nat)} {q : Nat × Nat}

/-- The first of some intervals starts no earlier, and ends no later, than that
of others which hold as much. -/
theorem bounds_of_holds (hr : a.Spans r) (hq : a.Spans q) (hk : Apart (q :: k))
    (h : ∀ n, Holds (r :: l) n → Holds (q :: k) n) :
    q.1 ≤ r.1 ∧ (r.1 = q.1 → r.2 ≤ q.2) := by
  have hqspan := hq.2.2
  have hrspan := hr.2.2
  have hheld : ∀ n, r.1 ≤ n → n ≤ r.2 → (q.1 ≤ n ∧ n ≤ q.2) ∨ q.2 + 1 < n := by
    intro n hle hge
    rcases holds_cons.1 (h n (holds_cons.2 (.inl ⟨hle, hge⟩))) with hn | hn
    · exact .inl hn
    · exact .inr (lt_of_holds hk hn)
  refine ⟨?_, fun hstart => Nat.le_of_not_lt fun hlt => ?_⟩
  · have hfirst := hheld r.1 (Nat.le_refl _) hrspan
    omega
  · -- The number right behind the shorter interval would have to be held.
    have hnext := hheld (q.2 + 1) (by omega) (by omega)
    omega

/-- **Joined intervals are determined by what they hold.** -/
theorem eq_of_holds (hl : Valid a l) (hk : Valid a k) (hlApart : Apart l) (hkApart : Apart k)
    (h : ∀ n, Holds l n ↔ Holds k n) : l = k := by
  induction l generalizing k with
  | nil =>
    rcases k with _ | ⟨q, k⟩
    · rfl
    · have hq := (hk q List.mem_cons_self).2.2
      obtain ⟨r, hr, -⟩ := (h q.1).2 (holds_cons.2 (.inl ⟨Nat.le_refl _, hq⟩))
      exact nomatch hr
  | cons r l ih =>
    obtain ⟨hr, hlrest⟩ := List.forall_mem_cons.1 hl
    rcases k with _ | ⟨q, k⟩
    · obtain ⟨q, hq, -⟩ := (h r.1).1 (holds_cons.2 (.inl ⟨Nat.le_refl _, hr.2.2⟩))
      exact nomatch hq
    · obtain ⟨hq, hkrest⟩ := List.forall_mem_cons.1 hk
      obtain ⟨hle, hstop⟩ := bounds_of_holds hr hq hkApart fun n => (h n).1
      obtain ⟨hge, hstop'⟩ := bounds_of_holds hq hr hlApart fun n => (h n).2
      obtain rfl : r = q := by
        have hfirst : r.1 = q.1 := Nat.le_antisymm hge hle
        exact Prod.ext hfirst (Nat.le_antisymm (hstop hfirst) (hstop' hfirst.symm))
      refine congrArg (r :: ·) (ih hlrest hkrest hlApart.of_cons hkApart.of_cons fun n => ?_)
      constructor
      · intro hn
        have hlt := lt_of_holds hlApart hn
        exact (holds_cons.1 ((h n).1 (holds_cons.2 (.inr hn)))).resolve_left (by omega)
      · intro hn
        have hlt := lt_of_holds hkApart hn
        exact (holds_cons.1 ((h n).2 (holds_cons.2 (.inr hn)))).resolve_left (by omega)

/-- Joining what is joined changes nothing. -/
theorem ofIntervals_of_apart (hl : Valid a l) (hapart : Apart l) : ofIntervals l = ⟨l⟩ := by
  have hintervals : (ofIntervals l).intervals = l :=
    eq_of_holds (valid_ofIntervals hl) hl (apart_ofIntervals l) hapart fun n =>
      contains_iff.symm.trans contains_ofIntervals
  exact congrArg mk hintervals

end SymbolSet

end Multiscan.Regex
