import Multiscan.Proofs.Regex.SetOperations
import Multiscan.Regex.OfTree
/-!
# Regex — shorthand classes as named ASCII classes

In a pattern whose classes are to stay ASCII, a shorthand class is read as the
named ASCII class of its kind. That class is folded like any other where case
does not count, and among characters folding leaves ASCII: the long s and the
Kelvin sign are variants of letters. `contains_asciiSet` says which symbols are
members, and `foldThenNegate_asciiSet` that the brackets around such a class
change nothing.
-/

namespace Multiscan

namespace Syntax.ShorthandKind

/-- The members of a shorthand class in ASCII. -/
def HasAscii : ShorthandKind → Nat → Prop
  | .digit, n => '0'.toNat ≤ n ∧ n ≤ '9'.toNat
  | .space, n => '\t'.toNat ≤ n ∧ n ≤ '\r'.toNat ∨ n = ' '.toNat
  | .word, n =>
    '0'.toNat ≤ n ∧ n ≤ '9'.toNat ∨ 'A'.toNat ≤ n ∧ n ≤ 'Z'.toNat ∨ n = '_'.toNat ∨
      'a'.toNat ≤ n ∧ n ≤ 'z'.toNat

instance : (kind : ShorthandKind) → (n : Nat) → Decidable (kind.HasAscii n)
  | .digit, _ => inferInstanceAs (Decidable (_ ∧ _))
  | .space, _ => inferInstanceAs (Decidable (_ ∧ _ ∨ _))
  | .word, _ => inferInstanceAs (Decidable (_ ∧ _ ∨ _ ∧ _ ∨ _ ∨ _ ∧ _))

/-- The characters outside ASCII that are case variants of members: the long s
and the Kelvin sign, of letters. -/
def HasVariant (kind : ShorthandKind) (n : Nat) : Prop :=
  kind = .word ∧ (n = 0x17F ∨ n = 0x212A)

instance (kind : ShorthandKind) (n : Nat) : Decidable (kind.HasVariant n) :=
  inferInstanceAs (Decidable (_ ∧ _))

end Syntax.ShorthandKind

namespace Regex

open Syntax SymbolSet

variable {f : Setting} {kind : ShorthandKind} {n : Nat}

/-! ## Members before negation -/

theorem holds_asciiIntervals : Holds (asciiIntervals kind.toAscii) n ↔ kind.HasAscii n := by
  cases kind
  all_goals
    simp only [ShorthandKind.toAscii, asciiIntervals, ShorthandKind.HasAscii, Holds,
      List.exists_mem_cons_iff, List.not_mem_nil, false_and, exists_false, or_false,
      Char.reduceToNat]
  all_goals omega

/-- The letters of ASCII and the variants of some of them. -/
def IsLetter (n : Nat) : Prop :=
  'A'.toNat ≤ n ∧ n ≤ 'Z'.toNat ∨ 'a'.toNat ≤ n ∧ n ≤ 'z'.toNat ∨ n = 0x17F ∨ n = 0x212A

instance (n : Nat) : Decidable (IsLetter n) :=
  inferInstanceAs (Decidable (_ ∧ _ ∨ _ ∧ _ ∨ _ ∨ _))

/-- Case variants are all among these letters, or all other characters outside
ASCII. -/
theorem caseVariants_letters : ∀ c ∈ Unicode.caseVariants,
    (∀ m ∈ c, IsLetter m) ∨ ∀ m ∈ c, 0x7F < m ∧ m ≠ 0x17F ∧ m ≠ 0x212A := by
  decide +kernel

/-- Letters are members or variants of the class of word characters, and of no
other one. -/
theorem hasAscii_or_hasVariant_of_isLetter (hn : IsLetter n) :
    kind.HasAscii n ∨ kind.HasVariant n ↔ kind = .word := by
  cases kind
  all_goals
    simp only [IsLetter, ShorthandKind.HasAscii, ShorthandKind.HasVariant, Char.reduceToNat,
      reduceCtorEq, false_and, true_and, or_false, iff_true, iff_false] at hn ⊢
    omega

/-- Members and their variants have no variants but one another. -/
theorem closed_caseVariants (kind : ShorthandKind) {c : List Nat} (hc : c ∈ Unicode.caseVariants)
    {m : Nat} (hm : m ∈ c) (hmem : kind.HasAscii m ∨ kind.HasVariant m) (hn : n ∈ c) :
    kind.HasAscii n ∨ kind.HasVariant n := by
  rcases caseVariants_letters c hc with hletters | hothers
  · have hword := (hasAscii_or_hasVariant_of_isLetter (hletters m hm)).1 hmem
    exact (hasAscii_or_hasVariant_of_isLetter (hletters n hn)).2 hword
  · have hother := hothers m hm
    rcases hmem with hascii | ⟨-, hvariant⟩
    · cases kind
      all_goals
        simp only [ShorthandKind.HasAscii, Char.reduceToNat] at hascii
        omega
    · omega

/-- Each of the variants is one of a member. -/
theorem exists_caseVariants (h : kind.HasVariant n) :
    ∃ c ∈ Unicode.caseVariants, n ∈ c ∧ ∃ m ∈ c, kind.HasAscii m := by
  obtain ⟨rfl, rfl | rfl⟩ := h
  · exact ⟨[0x53, 0x73, 0x17F], by decide +kernel, by decide, 0x53, by decide, by decide⟩
  · exact ⟨[0x4B, 0x6B, 0x212A], by decide +kernel, by decide, 0x4B, by decide, by decide⟩

/-- The set of a shorthand class in ASCII before it is negated, folded where
case does not count. -/
def foldedAscii (f : Setting) (kind : ShorthandKind) : SymbolSet :=
  foldThenNegate f false (.ofIntervals (asciiIntervals kind.toAscii))

/-- **Folding adds the variants** outside ASCII, if there are characters. -/
theorem contains_foldedAscii :
    (foldedAscii f kind).contains n = true ↔
      kind.HasAscii n ∨ f.caseless = true ∧ f.unicode = true ∧ kind.HasVariant n := by
  have hplain : ∀ m, (ofIntervals (asciiIntervals kind.toAscii)).contains m = true ↔
      kind.HasAscii m := fun m => contains_ofIntervals.trans holds_asciiIntervals
  rw [foldedAscii, foldThenNegate, if_neg Bool.false_ne_true]
  by_cases hcase : f.caseless = true
  · rw [if_pos hcase, Setting.alphabet]
    by_cases hunicode : f.unicode = true
    · rw [if_pos hunicode, contains_caseFold_character, hplain]
      constructor
      · rintro (hn | ⟨c, hc, hn, m, hm, hmem⟩)
        · exact .inl hn
        · refine (closed_caseVariants kind hc hm (.inl ((hplain m).1 hmem)) hn).imp_right ?_
          exact fun hvariant => ⟨hcase, hunicode, hvariant⟩
      · rintro (hn | ⟨-, -, hvariant⟩)
        · exact .inl hn
        · obtain ⟨c, hc, hn, m, hm, hmem⟩ := exists_caseVariants hvariant
          exact .inr ⟨c, hc, hn, m, hm, (hplain m).2 hmem⟩
    · rw [if_neg hunicode, contains_caseFold_byte, hplain]
      constructor
      · rintro (hn | ⟨m, hmem, hletter⟩)
        · exact .inl hn
        · have hm := (hplain m).1 hmem
          left
          cases kind
          all_goals
            simp only [ShorthandKind.HasAscii, Char.reduceToNat] at hm ⊢
            omega
      · rintro (hn | ⟨-, htrue, -⟩)
        · exact .inl hn
        · exact absurd htrue hunicode
  · rw [if_neg hcase, contains_joined, hplain]
    constructor
    · exact .inl
    · rintro (hn | ⟨htrue, -⟩)
      · exact hn
      · exact absurd htrue hcase

/-! ## The sets themselves -/

theorem valid_foldThenNegate {s : SymbolSet} (h : Valid f.alphabet s.intervals) :
    Valid f.alphabet (foldThenNegate f false s).intervals ∧
      Apart (foldThenNegate f false s).intervals := by
  rw [foldThenNegate, if_neg Bool.false_ne_true]
  split
  · exact ⟨valid_caseFold h, apart_caseFold _ _⟩
  · exact ⟨valid_ofIntervals h, apart_ofIntervals _⟩

theorem valid_asciiIntervals (a : Alphabet) (kind : AsciiKind) :
    Valid a (asciiIntervals kind) := by
  cases a
  all_goals
    cases kind
    all_goals decide

theorem foldedAscii_joined (f : Setting) (kind : ShorthandKind) :
    Valid f.alphabet (foldedAscii f kind).intervals ∧ Apart (foldedAscii f kind).intervals :=
  valid_foldThenNegate (valid_ofIntervals (valid_asciiIntervals _ _))

/-- No member of a shorthand class in ASCII is next to the surrogates. -/
theorem not_straddles_foldedAscii : ¬ Straddles (foldedAscii f kind).intervals := by
  rintro ⟨hbefore, -⟩
  rcases contains_foldedAscii.1 (contains_iff.2 hbefore) with hn | ⟨-, -, -, hn⟩
  · cases kind
    all_goals exact absurd hn (by decide)
  · omega

/-- **The members of a shorthand class in ASCII**, negated or not. -/
theorem contains_asciiSet {c : Shorthand} (hn : f.alphabet.IsSymbol n) :
    (asciiSet f c.toAscii).contains n = true ↔
      (c.negated = true ↔ ¬ (c.kind.HasAscii n ∨
        f.caseless = true ∧ f.unicode = true ∧ c.kind.HasVariant n)) := by
  obtain ⟨hvalid, hapart⟩ := foldedAscii_joined f c.kind
  rw [← contains_foldedAscii, asciiSet, foldThenNegate]
  change (if c.negated then (foldedAscii f c.kind).compl f.alphabet
    else foldedAscii f c.kind).contains n = true ↔ _
  by_cases hnegated : c.negated = true
  · rw [if_pos hnegated, contains_compl hn hvalid hapart fun h => absurd h not_straddles_foldedAscii]
    exact (iff_true_left hnegated).symm
  · rw [if_neg hnegated, iff_false_left hnegated, not_not]

theorem asciiSet_joined (f : Setting) (c : Shorthand) :
    Valid f.alphabet (asciiSet f c.toAscii).intervals ∧
      Apart (asciiSet f c.toAscii).intervals := by
  obtain ⟨hvalid, hapart⟩ := foldedAscii_joined f c.kind
  change Valid f.alphabet (if c.negated then (foldedAscii f c.kind).compl f.alphabet
    else foldedAscii f c.kind).intervals ∧ Apart (if c.negated then
      (foldedAscii f c.kind).compl f.alphabet else foldedAscii f c.kind).intervals
  split
  · exact ⟨(proper_compl hvalid hapart).valid, apart_compl hvalid hapart not_straddles_foldedAscii⟩
  · exact ⟨hvalid, hapart⟩

/-- Symbols of which both or none are members with variants are both or none in
the set. -/
theorem contains_asciiSet_congr {c : Shorthand} {m : Nat} (hcase : f.caseless = true)
    (hm : f.alphabet.IsSymbol m) (hn : f.alphabet.IsSymbol n)
    (h : c.kind.HasAscii m ∨ f.unicode = true ∧ c.kind.HasVariant m ↔
      c.kind.HasAscii n ∨ f.unicode = true ∧ c.kind.HasVariant n) :
    (asciiSet f c.toAscii).contains m = true ↔ (asciiSet f c.toAscii).contains n = true := by
  rw [contains_asciiSet hm, contains_asciiSet hn]
  simp only [hcase, true_and, h]

/-- A shorthand class in ASCII that does not regard case has the variants of its
members. -/
theorem contains_caseFold_asciiSet {c : Shorthand} (hcase : f.caseless = true) :
    ((asciiSet f c.toAscii).caseFold f.alphabet).contains n = true ↔
      (asciiSet f c.toAscii).contains n = true := by
  by_cases hunicode : f.unicode = true
  · have halphabet : f.alphabet = .character := if_pos hunicode
    rw [halphabet, contains_caseFold_character]
    refine ⟨fun h => h.elim id ?_, .inl⟩
    rintro ⟨v, hv, hn, m, hm, hmem⟩
    have hsymbol : ∀ k ∈ v, f.alphabet.IsSymbol k := halphabet ▸ isSymbol_caseVariants v hv
    refine (contains_asciiSet_congr hcase (hsymbol m hm) (hsymbol n hn) ?_).1 hmem
    simp only [hunicode, true_and]
    exact ⟨fun h => closed_caseVariants c.kind hv hm h hn,
      fun h => closed_caseVariants c.kind hv hn h hm⟩
  · have halphabet : f.alphabet = .byte := if_neg hunicode
    rw [halphabet, contains_caseFold_byte]
    refine ⟨fun h => h.elim id ?_, .inl⟩
    rintro ⟨m, hmem, hletter⟩
    have hsymbol : ∀ k ≤ 0x7A, f.alphabet.IsSymbol k := fun k hk => by
      rw [halphabet, isSymbol_byte]
      omega
    refine (contains_asciiSet_congr hcase (hsymbol m (by omega)) (hsymbol n (by omega)) ?_).1 hmem
    have hfalse : f.unicode = false := eq_false_of_ne_true hunicode
    rw [hfalse]
    cases c.kind
    all_goals
      simp only [ShorthandKind.HasAscii, Char.reduceToNat, Bool.false_eq_true, false_and, or_false]
      omega

/-- **Brackets around a shorthand class** in ASCII change nothing. -/
theorem foldThenNegate_asciiSet (f : Setting) (c : Shorthand) :
    foldThenNegate f false (asciiSet f c.toAscii) = asciiSet f c.toAscii := by
  obtain ⟨hvalid, hapart⟩ := asciiSet_joined f c
  rw [foldThenNegate, if_neg Bool.false_ne_true]
  by_cases hcase : f.caseless = true
  · rw [if_pos hcase]
    have hintervals := eq_of_holds (valid_caseFold hvalid) hvalid (apart_caseFold _ _) hapart
      fun n => contains_iff.symm.trans ((contains_caseFold_asciiSet hcase).trans contains_iff)
    exact congrArg SymbolSet.mk hintervals
  · rw [if_neg hcase, joined, ofIntervals_of_apart hvalid hapart]

end Regex

end Multiscan
