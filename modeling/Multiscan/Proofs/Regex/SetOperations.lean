import Multiscan.Proofs.Regex.SymbolSet
/-!
# Regex — operations on sets of symbols

What folding adds to a set, and why no operation takes a set out of its
alphabet: intervals that start and end with symbols are cut, joined and moved
to others that do. `contains_caseFold_character` and `contains_caseFold_byte`
are what the classes of a pattern are computed with.
-/

namespace Multiscan.Regex.SymbolSet

variable {a : Alphabet} {n : Nat} {s t : SymbolSet} {l : List (Nat × Nat)}

/-! ## What two intervals have in common -/

theorem overlap?_eq_some {r q k : Nat × Nat} :
    overlap? r q = some k ↔ k = (max r.1 q.1, min r.2 q.2) ∧ k.1 ≤ k.2 := by
  rw [overlap?, Option.ite_none_right_eq_some, Option.some.injEq]
  constructor
  · rintro ⟨hle, rfl⟩
    exact ⟨rfl, hle⟩
  · rintro ⟨rfl, hle⟩
    exact ⟨hle, rfl⟩

/-- Two intervals overlap in the numbers that both hold. -/
theorem exists_overlap? {r q : Nat × Nat} :
    (∃ k, overlap? r q = some k ∧ k.1 ≤ n ∧ n ≤ k.2) ↔
      (r.1 ≤ n ∧ n ≤ r.2) ∧ q.1 ≤ n ∧ n ≤ q.2 := by
  constructor
  · rintro ⟨k, hk, hn⟩
    obtain ⟨rfl, -⟩ := overlap?_eq_some.1 hk
    dsimp only at hn
    omega
  · rintro ⟨hr, hq⟩
    exact ⟨_, overlap?_eq_some.2 ⟨rfl, by dsimp only; omega⟩, by dsimp only; omega⟩

/-! ## Folding -/

/-- What intervals have in common with one, moved. -/
theorem holds_moved {q : Nat × Nat} {g : Nat × Nat → Nat × Nat} :
    Holds (l.filterMap fun r => (overlap? r q).map g) n ↔
      ∃ r ∈ l, ∃ k, overlap? r q = some k ∧ (g k).1 ≤ n ∧ n ≤ (g k).2 := by
  constructor
  · rintro ⟨k', hk', hn⟩
    obtain ⟨r, hr, hmap⟩ := List.mem_filterMap.1 hk'
    obtain ⟨k, hk, rfl⟩ := Option.map_eq_some_iff.1 hmap
    exact ⟨r, hr, k, hk, hn⟩
  · rintro ⟨r, hr, k, hk, hn⟩
    exact ⟨g k, List.mem_filterMap.2 ⟨r, hr, by rw [hk]; rfl⟩, hn⟩

/-- **Folding characters** adds the variants of the members. -/
theorem contains_caseFold_character :
    (s.caseFold .character).contains n = true ↔
      s.contains n = true ∨ ∃ c ∈ Unicode.caseVariants, n ∈ c ∧ ∃ m ∈ c, s.contains m = true := by
  have hclasses : ∀ classes : List (List Nat),
      Holds ((classes.filter fun c => c.any s.contains).flatMap fun c => c.map fun m => (m, m)) n ↔
        ∃ c ∈ classes, n ∈ c ∧ ∃ m ∈ c, s.contains m = true := by
    intro classes
    constructor
    · rintro ⟨r, hr, hle, hge⟩
      obtain ⟨c, hc, hrc⟩ := List.mem_flatMap.1 hr
      obtain ⟨m, hm, rfl⟩ := List.mem_map.1 hrc
      obtain ⟨hmem, hany⟩ := List.mem_filter.1 hc
      obtain rfl : m = n := Nat.le_antisymm hle hge
      exact ⟨c, hmem, hm, List.any_eq_true.1 hany⟩
    · rintro ⟨c, hc, hn, hany⟩
      exact ⟨(n, n), List.mem_flatMap.2 ⟨c, List.mem_filter.2 ⟨hc, List.any_eq_true.2 hany⟩,
        List.mem_map.2 ⟨n, hn, rfl⟩⟩, Nat.le_refl n, Nat.le_refl n⟩
  rw [caseFold, contains_ofIntervals, holds_append, hclasses, ← contains_iff]

/-- **Folding bytes** adds the other case of letters of ASCII. -/
theorem contains_caseFold_byte :
    (s.caseFold .byte).contains n = true ↔
      s.contains n = true ∨ ∃ m, s.contains m = true ∧
        (0x61 ≤ m ∧ m ≤ 0x7A ∧ m = n + 32 ∨ 0x41 ≤ m ∧ m ≤ 0x5A ∧ n = m + 32) := by
  rw [caseFold, contains_ofIntervals, holds_append, ← contains_iff]
  refine or_congr_right ?_
  rw [otherCase, holds_append, holds_moved, holds_moved]
  simp only [Bool.false_eq_true, if_true, if_false]
  constructor
  · rintro (⟨r, hr, k, hk, hn⟩ | ⟨r, hr, k, hk, hn⟩)
    · have hlo : 0x61 ≤ k.1 := by
        rw [(overlap?_eq_some.1 hk).1]
        exact Nat.le_max_right _ _
      obtain ⟨hmem, hletter⟩ := exists_overlap?.1 ⟨k, hk, (by omega : k.1 ≤ n + 32 ∧ n + 32 ≤ k.2)⟩
      exact ⟨n + 32, contains_iff.2 ⟨r, hr, hmem⟩, .inl ⟨hletter.1, hletter.2, rfl⟩⟩
    · obtain ⟨hmem, hletter⟩ := exists_overlap?.1 ⟨k, hk, (by omega : k.1 ≤ n - 32 ∧ n - 32 ≤ k.2)⟩
      exact ⟨n - 32, contains_iff.2 ⟨r, hr, hmem⟩, .inr ⟨hletter.1, hletter.2, by omega⟩⟩
  · rintro ⟨m, hm, hletter⟩
    obtain ⟨r, hr, hmem⟩ := contains_iff.1 hm
    rcases hletter with ⟨hlo, hhi, hmn⟩ | ⟨hlo, hhi, hmn⟩
    · obtain ⟨k, hk, hkm⟩ := exists_overlap?.2 ⟨hmem, (⟨hlo, hhi⟩ : (0x61, 0x7A).1 ≤ m ∧ _)⟩
      exact .inl ⟨r, hr, k, hk, by omega⟩
    · obtain ⟨k, hk, hkm⟩ := exists_overlap?.2 ⟨hmem, (⟨hlo, hhi⟩ : (0x41, 0x5A).1 ≤ m ∧ _)⟩
      exact .inr ⟨r, hr, k, hk, by omega⟩

/-- Case variants are characters. -/
theorem isSymbol_caseVariants :
    ∀ c ∈ Unicode.caseVariants, ∀ m ∈ c, Alphabet.character.IsSymbol m := by
  decide +kernel

theorem valid_otherCase (s : SymbolSet) : Valid .byte s.otherCase := by
  intro k' hk'
  rw [otherCase] at hk'
  simp only [Bool.false_eq_true, if_true, if_false] at hk'
  rcases List.mem_append.1 hk' with hmem | hmem
  all_goals
    obtain ⟨r, -, hmap⟩ := List.mem_filterMap.1 hmem
    obtain ⟨k, hk, rfl⟩ := Option.map_eq_some_iff.1 hmap
    obtain ⟨hbounds, hle⟩ := overlap?_eq_some.1 hk
    have hstop : k.2 ≤ 0x7A := by
      rw [hbounds]
      exact Nat.le_trans (Nat.min_le_right _ _) (by decide)
    rw [Alphabet.Spans, isSymbol_byte, isSymbol_byte]
    dsimp only
    omega

/-- Folding stays within the alphabet. -/
theorem valid_caseFold (h : Valid a s.intervals) : Valid a (s.caseFold a).intervals := by
  cases a
  · exact valid_ofIntervals (valid_append h s.valid_otherCase)
  · refine valid_ofIntervals (valid_append h fun r hr => ?_)
    obtain ⟨c, hc, hrc⟩ := List.mem_flatMap.1 hr
    obtain ⟨m, hm, rfl⟩ := List.mem_map.1 hrc
    have hsymbol := isSymbol_caseVariants c (List.mem_filter.1 hc).1 m hm
    exact ⟨hsymbol, hsymbol, Nat.le_refl m⟩

theorem apart_caseFold (a : Alphabet) (s : SymbolSet) : Apart (s.caseFold a).intervals := by
  cases a
  · exact apart_ofIntervals _
  · exact apart_ofIntervals _

/-! ## Combining sets -/

theorem valid_union (hs : Valid a s.intervals) (ht : Valid a t.intervals) :
    Valid a (s.union t).intervals :=
  valid_ofIntervals (valid_append hs ht)

theorem valid_inter (hs : Valid a s.intervals) (ht : Valid a t.intervals) :
    Valid a (s.inter t).intervals := by
  intro k hk
  obtain ⟨r, hr, hmem⟩ := List.mem_flatMap.1 hk
  obtain ⟨q, hq, hover⟩ := List.mem_filterMap.1 hmem
  obtain ⟨rfl, hle⟩ := overlap?_eq_some.1 hover
  exact ⟨(hs r hr).1.max (ht q hq).1, (hs r hr).2.1.min (ht q hq).2.1, hle⟩

/-- What is left of an interval without others. -/
theorem valid_cut {r : Nat × Nat} (hr : a.Spans r) (hl : Valid a l) : Valid a (cut a r l) := by
  induction l generalizing r with
  | nil => exact List.forall_mem_singleton.2 hr
  | cons q rest ih =>
    obtain ⟨hq, hrest⟩ := List.forall_mem_cons.1 hl
    have hfront : Valid a (if r.1 < q.1 then [(r.1, a.pred q.1)] else []) := by
      split
      · next hlt =>
        obtain ⟨hpred, -, hle⟩ := isSymbol_pred hq.1 hr.1 hlt
        exact List.forall_mem_singleton.2 ⟨hr.1, hpred, hle⟩
      · exact fun k hk => nomatch hk
    rw [cut]
    split
    · exact ih hr hrest
    · split
      · exact List.forall_mem_singleton.2 hr
      · dsimp only
        split
        · next hlt =>
          obtain ⟨hsucc, -, hle⟩ := isSymbol_succ hq.2.1 hr.2.1 hlt
          exact valid_append hfront (ih ⟨hsucc, hr.2.1, hle⟩ hrest)
        · exact hfront

theorem valid_diff (hs : Valid a s.intervals) (ht : Valid a t.intervals) :
    Valid a (s.diff a t).intervals := by
  intro k hk
  obtain ⟨r, hr, hmem⟩ := List.mem_flatMap.1 hk
  exact valid_cut (hs r hr) ht k hmem

theorem valid_symmDiff (hs : Valid a s.intervals) (ht : Valid a t.intervals) :
    Valid a (s.symmDiff a t).intervals :=
  valid_diff (valid_union hs ht) (valid_inter hs ht)

/-! ## Members of what is combined -/

theorem contains_union :
    (s.union t).contains n = true ↔ s.contains n = true ∨ t.contains n = true := by
  rw [union, contains_ofIntervals, holds_append, ← contains_iff, ← contains_iff]

theorem contains_inter :
    (s.inter t).contains n = true ↔ s.contains n = true ∧ t.contains n = true := by
  rw [contains_iff, contains_iff, contains_iff]
  constructor
  · rintro ⟨k, hk, hn⟩
    obtain ⟨r, hr, hk⟩ := List.mem_flatMap.1 hk
    obtain ⟨q, hq, hover⟩ := List.mem_filterMap.1 hk
    obtain ⟨hrn, hqn⟩ := exists_overlap?.1 ⟨k, hover, hn⟩
    exact ⟨⟨r, hr, hrn⟩, q, hq, hqn⟩
  · rintro ⟨⟨r, hr, hrn⟩, q, hq, hqn⟩
    obtain ⟨k, hover, hn⟩ := exists_overlap?.2 ⟨hrn, hqn⟩
    exact ⟨k, List.mem_flatMap.2 ⟨r, hr, List.mem_filterMap.2 ⟨q, hq, hover⟩⟩, hn⟩

theorem ordered_inter (hs : Ordered s.intervals) (ht : Ordered t.intervals) :
    Ordered (s.inter t).intervals := by
  refine List.pairwise_flatMap.2 ⟨fun r _ => List.pairwise_filterMap.2 ?_, hs.imp ?_⟩
  · refine ht.imp fun hlt k hk k' hk' => ?_
    obtain ⟨rfl, -⟩ := overlap?_eq_some.1 hk
    obtain ⟨rfl, -⟩ := overlap?_eq_some.1 hk'
    dsimp only
    omega
  · intro r r' hlt k hk k' hk'
    obtain ⟨q, -, hover⟩ := List.mem_filterMap.1 hk
    obtain ⟨q', -, hover'⟩ := List.mem_filterMap.1 hk'
    obtain ⟨rfl, -⟩ := overlap?_eq_some.1 hover
    obtain ⟨rfl, -⟩ := overlap?_eq_some.1 hover'
    dsimp only
    omega

/-- What comes before the first of ordered intervals is in none of them. -/
theorem not_holds_of_lt_head {q : Nat × Nat} (hq : a.Spans q) (hl : Ordered (q :: l))
    (hlt : n < q.1) : ¬ Holds (q :: l) n := by
  have hspan := hq.2.2
  rintro ⟨k, hk, hle, -⟩
  rcases List.mem_cons.1 hk with rfl | hk
  · omega
  · have hbehind := (List.pairwise_cons.1 hl).1 k hk
    omega

/-- What is left of an interval in front of another. -/
theorem holds_before {r q : Nat × Nat} (hn : a.IsSymbol n) (hr : a.IsSymbol r.1)
    (hq : a.IsSymbol q.1) :
    Holds (if r.1 < q.1 then [(r.1, a.pred q.1)] else []) n ↔ r.1 ≤ n ∧ n < q.1 := by
  split
  · next hlt =>
    obtain ⟨-, hpred, -⟩ := isSymbol_pred hq hr hlt
    rw [holds_cons]
    constructor
    · rintro (hmem | ⟨k, hk, -⟩)
      · dsimp only at hmem
        omega
      · cases hk
    · rintro ⟨hle, hnq⟩
      exact .inl ⟨hle, (isSymbol_pred hq hn hnq).2.2⟩
  · constructor
    · rintro ⟨k, hk, -⟩
      cases hk
    · intro hmem
      omega

/-- **What is left of an interval** are its symbols that the others do not
hold. -/
theorem holds_cut {r : Nat × Nat} (hn : a.IsSymbol n) (hr : a.Spans r) (hl : Valid a l)
    (hordered : Ordered l) :
    Holds (cut a r l) n ↔ (r.1 ≤ n ∧ n ≤ r.2) ∧ ¬ Holds l n := by
  induction l generalizing r with
  | nil =>
    rw [cut, holds_cons]
    simp [Holds]
  | cons q rest ih =>
    obtain ⟨hq, hrest⟩ := List.forall_mem_cons.1 hl
    have hrestOrdered := (List.pairwise_cons.1 hordered).2
    have hspan := hq.2.2
    rw [cut]
    split
    · next hbefore =>
      rw [ih hr hrest hrestOrdered, holds_cons, not_or]
      refine and_congr_right fun hmem => (and_iff_right ?_).symm
      omega
    · next hstart =>
      split
      · next hbehind =>
        rw [holds_cons]
        constructor
        · rintro (hmem | ⟨k, hk, -⟩)
          · exact ⟨hmem, not_holds_of_lt_head hq hordered (by omega)⟩
          · cases hk
        · exact fun h => .inl h.1
      · next hstop =>
        -- The interval is cut where the first of the others starts and ends.
        have hfront := holds_before hn hr.1 hq.1
        have hbefore : n < q.1 → ¬ Holds (q :: rest) n := not_holds_of_lt_head hq hordered
        dsimp only
        split
        · next hlt =>
          obtain ⟨hsucc, hgt, hle⟩ := isSymbol_succ hq.2.1 hr.2.1 hlt
          rw [holds_append, hfront,
            ih (r := (a.succ q.2, r.2)) ⟨hsucc, hr.2.1, hle⟩ hrest hrestOrdered]
          constructor
          · rintro (hmem | ⟨hmem, hnot⟩)
            · exact ⟨by omega, hbefore hmem.2⟩
            · dsimp only at hmem
              exact ⟨by omega, fun h => (holds_cons.1 h).elim (by omega) hnot⟩
          · rintro ⟨hmem, hnot⟩
            obtain ⟨hnq, hnot⟩ := not_or.1 (mt holds_cons.2 hnot)
            rcases Nat.lt_or_ge n q.1 with hfirst | hlast
            · exact .inl ⟨hmem.1, hfirst⟩
            · have hqn : q.2 < n := by omega
              exact .inr ⟨⟨(isSymbol_succ hq.2.1 hn hqn).2.2, hmem.2⟩, hnot⟩
        · rw [hfront]
          constructor
          · exact fun hmem => ⟨by omega, hbefore hmem.2⟩
          · rintro ⟨hmem, hnot⟩
            obtain ⟨hnq, -⟩ := not_or.1 (mt holds_cons.2 hnot)
            omega

theorem contains_diff (hn : a.IsSymbol n) (hs : Valid a s.intervals) (ht : Valid a t.intervals)
    (hordered : Ordered t.intervals) :
    (s.diff a t).contains n = true ↔ s.contains n = true ∧ ¬ t.contains n = true := by
  rw [contains_iff, contains_iff, contains_iff]
  constructor
  · rintro ⟨k, hk, hmem⟩
    obtain ⟨r, hr, hk⟩ := List.mem_flatMap.1 hk
    obtain ⟨hrn, hnot⟩ := (holds_cut hn (hs r hr) ht hordered).1 ⟨k, hk, hmem⟩
    exact ⟨⟨r, hr, hrn⟩, hnot⟩
  · rintro ⟨⟨r, hr, hrn⟩, hnot⟩
    obtain ⟨k, hk, hmem⟩ := (holds_cut hn (hs r hr) ht hordered).2 ⟨hrn, hnot⟩
    exact ⟨k, List.mem_flatMap.2 ⟨r, hr, hk⟩, hmem⟩

theorem contains_symmDiff (hn : a.IsSymbol n) (hs : Proper a s) (ht : Proper a t) :
    (s.symmDiff a t).contains n = true ↔
      ((s.contains n = true ∨ t.contains n = true) ∧
        ¬ (s.contains n = true ∧ t.contains n = true)) := by
  rw [symmDiff, contains_diff hn (valid_union hs.valid ht.valid) (valid_inter hs.valid ht.valid)
    (ordered_inter hs.ordered ht.ordered), contains_union, contains_inter]

/-! ## Characters among code points -/

/-- What is left of an interval of code points starts and ends with a
character. -/
theorem spans_charactersIn {r q : Nat × Nat} (h : charactersIn r = some q) :
    Alphabet.character.Spans q := by
  rw [charactersIn] at h
  simp only [Bool.and_eq_true, decide_eq_true_eq] at h
  obtain ⟨hle, hq⟩ := Option.ite_none_right_eq_some.1 h
  obtain rfl := Option.some.inj hq
  have hcap : Nat.min r.2 0x10FFFF = r.2 ∧ r.2 ≤ 0x10FFFF ∨
      Nat.min r.2 0x10FFFF = 0x10FFFF ∧ 0x10FFFF ≤ r.2 := by
    rcases Nat.le_total r.2 0x10FFFF with hle | hle
    · exact .inl ⟨Nat.min_eq_left hle, hle⟩
    · exact .inr ⟨Nat.min_eq_right hle, hle⟩
  rw [Alphabet.Spans, isSymbol_character, isSymbol_character]
  by_cases hfirst : 0xD800 ≤ r.1 ∧ r.1 ≤ 0xDFFF
  all_goals
    by_cases hlast : 0xD800 ≤ r.2 ∧ r.2 ≤ 0xDFFF
    all_goals
      simp only [hfirst, hlast, and_self, if_true, if_false] at hle ⊢
      omega

theorem valid_ofCodePoints (l : List (Nat × Nat)) :
    Valid .character (ofCodePoints l).intervals := by
  intro q hq
  obtain ⟨r, -, hr⟩ := List.mem_filterMap.1 hq
  exact spans_charactersIn hr

end Multiscan.Regex.SymbolSet
