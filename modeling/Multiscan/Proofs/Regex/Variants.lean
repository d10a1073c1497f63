import Mathlib.Tactic.SplitIfs
import Multiscan.Proofs.Regex.OfTree
/-!
# Regex — letters of ASCII and their variants

Where case does not count, the letters of ASCII are variants of one another, and
among characters of the long s and the Kelvin sign, too. No other symbol is a
variant of one in ASCII. So what the classes of a pattern hold of ASCII, and of
these two characters, can be said without the table of case variants:
`contains_foldThenNegate` and `contains_applySetOp` do, and what they make is
closed under variants (`closed_foldThenNegate`, `closed_applySetOp`), so folding
it once more adds nothing.
-/

namespace Multiscan.Regex

open Syntax SymbolSet

variable {a : Alphabet} {f : Setting} {s t : SymbolSet} {k m n : Nat}

/-! ## Letters -/

/-- The letters of ASCII, and among characters the variants of some of them. -/
def Alphabet.IsLetter (a : Alphabet) (n : Nat) : Prop := Regex.IsLetter n ∧ (a = .byte → n < 128)

/-- The capital letter of ASCII that a letter is a variant of. -/
def capital (n : Nat) : Nat :=
  if n = 0x17F then 0x53 else if n = 0x212A then 0x4B else if 0x61 ≤ n then n - 32 else n

/-- What a letter is to its capital. -/
theorem capital_cases (h : IsLetter n) : (0x41 ≤ capital n ∧ capital n ≤ 0x5A) ∧
    (n = capital n ∨ n = capital n + 32 ∨ n = 0x17F ∧ capital n = 0x53 ∨
      n = 0x212A ∧ capital n = 0x4B) := by
  simp only [IsLetter, Char.reduceToNat] at h
  unfold capital
  split_ifs <;> omega

/-- Symbols that are in ASCII, or variants of such. -/
def Alphabet.Near (a : Alphabet) (n : Nat) : Prop := n < 128 ∨ a.IsLetter n

theorem Alphabet.Near.bounds (h : a.Near n) : n ≤ 0x212A ∧ (a = .byte → n < 128) := by
  rcases h with hn | ⟨hn, hbyte⟩
  · exact ⟨by omega, fun _ => hn⟩
  · simp only [Regex.IsLetter, Char.reduceToNat] at hn
    exact ⟨by omega, hbyte⟩

theorem Alphabet.Near.isSymbol (h : a.Near n) : a.IsSymbol n := by
  obtain ⟨hle, hbyte⟩ := h.bounds
  cases a
  · have hlt := hbyte rfl
    exact isSymbol_byte.2 (by omega)
  · exact isSymbol_character.2 (by omega)

/-! ## The table -/

/-- A class with a letter is one of letters with one capital. -/
theorem capital_caseVariants : ∀ c ∈ Unicode.caseVariants, ∀ m ∈ c, ∀ n ∈ c,
    IsLetter m → capital m = capital n := by
  decide +kernel

/-- The letters with one capital are in one class. -/
theorem exists_caseVariants_of_capital : ∀ u ∈ List.range' 0x41 26, ∃ c ∈ Unicode.caseVariants,
    u ∈ c ∧ u + 32 ∈ c ∧ (u = 0x53 → 0x17F ∈ c) ∧ (u = 0x4B → 0x212A ∈ c) := by
  decide +kernel

theorem exists_caseVariants_of_isLetter (hm : IsLetter m) (hn : IsLetter n)
    (h : capital m = capital n) : ∃ c ∈ Unicode.caseVariants, m ∈ c ∧ n ∈ c := by
  have hcapital := (capital_cases hm).1
  obtain ⟨c, hc, hfirst, hsecond, hs, hk⟩ := exists_caseVariants_of_capital (capital m)
    (List.mem_range'_1.2 (by omega))
  have hmem : ∀ k, IsLetter k → capital k = capital m → k ∈ c := by
    intro k hletter hsame
    obtain ⟨-, hcases⟩ := capital_cases hletter
    rw [hsame] at hcases
    rcases hcases with hk' | hk' | ⟨hk', hcap⟩ | ⟨hk', hcap⟩
    · exact hk' ▸ hfirst
    · exact hk' ▸ hsecond
    · exact hk' ▸ hs hcap
    · exact hk' ▸ hk hcap
  exact ⟨c, hc, hmem m hm rfl, hmem n hn h.symm⟩

/-! ## Variants -/

/-- Symbols that count as the same in ASCII: where case does not count, letters
with one capital. -/
def Setting.Variants (f : Setting) (m n : Nat) : Prop :=
  m = n ∨ f.caseless = true ∧ f.alphabet.IsLetter m ∧ f.alphabet.IsLetter n ∧
    capital m = capital n

theorem Setting.Variants.symm (h : f.Variants m n) : f.Variants n m := by
  rcases h with rfl | ⟨hcase, hm, hn, hsame⟩
  · exact .inl rfl
  · exact .inr ⟨hcase, hn, hm, hsame.symm⟩

theorem Setting.Variants.trans (h : f.Variants k m) (h' : f.Variants m n) : f.Variants k n := by
  rcases h with rfl | ⟨hcase, hk, hm, hsame⟩
  · exact h'
  · rcases h' with rfl | ⟨-, -, hn, hsame'⟩
    · exact .inr ⟨hcase, hk, hm, hsame⟩
    · exact .inr ⟨hcase, hk, hn, hsame.trans hsame'⟩

/-- A set has the variants of its members. -/
def Setting.Closed (f : Setting) (s : SymbolSet) : Prop :=
  ∀ m n, f.Variants m n → s.contains m = true → s.contains n = true

/-- Some variant of a symbol is a member. -/
def Setting.Meets (f : Setting) (s : SymbolSet) (n : Nat) : Prop :=
  ∃ m, f.Variants m n ∧ s.contains m = true

theorem Setting.Meets.of_contains (h : s.contains n = true) : f.Meets s n := ⟨n, .inl rfl, h⟩

theorem Setting.Meets.congr (h : f.Variants m n) : f.Meets s m ↔ f.Meets s n :=
  ⟨fun ⟨k, hk, hmem⟩ => ⟨k, hk.trans h, hmem⟩, fun ⟨k, hk, hmem⟩ => ⟨k, hk.trans h.symm, hmem⟩⟩

theorem Setting.Closed.meets_iff (h : f.Closed s) : f.Meets s n ↔ s.contains n = true :=
  ⟨fun ⟨m, hm, hmem⟩ => h m n hm hmem, .of_contains⟩

/-- What holds of variants alike is closed under them. -/
theorem closed_of_near {p : Nat → Prop} (hp : ∀ m n, f.Variants m n → (p m ↔ p n))
    (h : ∀ n, f.alphabet.Near n → (s.contains n = true ↔ p n)) : f.Closed s := by
  rintro m n hmn hm
  rcases hmn with rfl | ⟨hcase, hlm, hln, hsame⟩
  · exact hm
  · have hiff := hp m n (.inr ⟨hcase, hlm, hln, hsame⟩)
    exact (h n (.inr hln)).2 (hiff.1 ((h m (.inr hlm)).1 hm))

/-! ## Folding -/

theorem contains_caseFold_of_near (hn : a.Near n) : (s.caseFold a).contains n = true ↔
    ∃ m, (m = n ∨ a.IsLetter m ∧ a.IsLetter n ∧ capital m = capital n) ∧
      s.contains m = true := by
  cases a with
  | byte =>
    have hn128 := hn.bounds.2 rfl
    rw [contains_caseFold_byte]
    constructor
    · rintro (hmem | ⟨m, hmem, hcase⟩)
      · exact ⟨n, .inl rfl, hmem⟩
      · have hletters : IsLetter m ∧ IsLetter n ∧ m < 128 ∧ capital m = capital n := by
          simp only [IsLetter, capital, Char.reduceToNat]
          split_ifs <;> omega
        obtain ⟨hm, hn', hlt, hsame⟩ := hletters
        exact ⟨m, .inr ⟨⟨hm, fun _ => hlt⟩, ⟨hn', fun _ => hn128⟩, hsame⟩, hmem⟩
    · rintro ⟨m, rfl | ⟨⟨hm, hmbyte⟩, ⟨hn', -⟩, hsame⟩, hmem⟩
      · exact .inl hmem
      · have hm128 := hmbyte rfl
        have hmcases := capital_cases hm
        have hncases := capital_cases hn'
        rcases Nat.lt_trichotomy m n with hlt | rfl | hgt
        · exact .inr ⟨m, hmem, by omega⟩
        · exact .inl hmem
        · exact .inr ⟨m, hmem, by omega⟩
  | character =>
    rw [contains_caseFold_character]
    have hanyLetter : ∀ {k : Nat}, IsLetter k → Alphabet.character.IsLetter k :=
      fun hk => ⟨hk, Alphabet.noConfusion⟩
    constructor
    · rintro (hmem | ⟨c, hc, hnc, m, hmc, hmem⟩)
      · exact ⟨n, .inl rfl, hmem⟩
      · rcases caseVariants_letters c hc with hletters | hothers
        · have hsame := capital_caseVariants c hc m hmc n hnc (hletters m hmc)
          exact ⟨m, .inr ⟨hanyLetter (hletters m hmc), hanyLetter (hletters n hnc), hsame⟩, hmem⟩
        · have hother := hothers n hnc
          rcases hn with hn | ⟨hn, -⟩
          · omega
          · simp only [IsLetter, Char.reduceToNat] at hn
            omega
    · rintro ⟨m, rfl | ⟨⟨hm, -⟩, ⟨hn', -⟩, hsame⟩, hmem⟩
      · exact .inl hmem
      · obtain ⟨c, hc, hmc, hnc⟩ := exists_caseVariants_of_isLetter hm hn' hsame
        exact .inr ⟨c, hc, hnc, m, hmc, hmem⟩

/-- A set as it is before it is negated: with the variants of its members. -/
theorem contains_folded (hn : f.alphabet.Near n) :
    (foldThenNegate f false s).contains n = true ↔ f.Meets s n := by
  rw [foldThenNegate, if_neg Bool.false_ne_true, Setting.Meets]
  by_cases hcase : f.caseless = true
  · rw [if_pos hcase, contains_caseFold_of_near hn]
    simp only [Setting.Variants, hcase, true_and]
  · rw [if_neg hcase, contains_joined]
    simp only [Setting.Variants, hcase, Bool.false_eq_true, false_and, or_false, exists_eq_left]

/-- **The members of a class**, once case and negation have been seen to. -/
theorem contains_foldThenNegate {negated : Bool} (hn : f.alphabet.Near n)
    (hs : Valid f.alphabet s.intervals) :
    (foldThenNegate f negated s).contains n = true ↔ (negated = true ↔ ¬ f.Meets s n) := by
  obtain ⟨hvalid, hapart⟩ := valid_foldThenNegate hs
  rw [← contains_folded hn]
  cases negated
  · rw [iff_false_left Bool.false_ne_true, not_not]
  · have hsmall : n < 0xD7FF := by
      have hle := hn.bounds.1
      omega
    rw [iff_true_left rfl]
    exact contains_compl hn.isSymbol hvalid hapart fun _ => hsmall

theorem closed_foldThenNegate {negated : Bool} (hs : Valid f.alphabet s.intervals) :
    f.Closed (foldThenNegate f negated s) := by
  refine closed_of_near (fun m n hmn => ?_) fun n hn => contains_foldThenNegate hn hs
  rw [Setting.Meets.congr hmn]

/-! ## Operations -/

/-- What an operation asks of its two sides. -/
def SetOpHolds (kind : SetOp) (p q : Prop) : Prop :=
  match kind with
  | .intersection => p ∧ q
  | .difference => p ∧ ¬ q
  | .symmetricDifference => (p ∨ q) ∧ ¬ (p ∧ q)

/-- **The members of what an operation makes** of two sets. -/
theorem contains_applySetOp {kind : SetOp} (hn : f.alphabet.Near n)
    (hs : Valid f.alphabet s.intervals) (ht : Valid f.alphabet t.intervals) :
    (applySetOp f kind s t).contains n = true ↔ SetOpHolds kind (f.Meets s n) (f.Meets t n) := by
  have hsProper := proper_foldThenNegate false hs
  have htProper := proper_foldThenNegate false ht
  rw [← contains_folded (s := s) hn, ← contains_folded (s := t) hn]
  cases kind
  · exact contains_inter
  · exact contains_diff hn.isSymbol hsProper.valid htProper.valid htProper.ordered
  · exact contains_symmDiff hn.isSymbol hsProper htProper

theorem closed_applySetOp {kind : SetOp} (hs : Valid f.alphabet s.intervals)
    (ht : Valid f.alphabet t.intervals) : f.Closed (applySetOp f kind s t) := by
  refine closed_of_near (fun m n hmn => ?_) fun n hn => contains_applySetOp hn hs ht
  rw [Setting.Meets.congr (s := s) hmn, Setting.Meets.congr (s := t) hmn]

end Multiscan.Regex
