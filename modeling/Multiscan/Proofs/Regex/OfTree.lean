import Multiscan.Proofs.Regex.Building
import Multiscan.Proofs.Regex.Shorthand
import Multiscan.Proofs.Syntax.Counts
/-!
# Regex — what a tree means is proper

The sets of classes are computed with operations that stay within the alphabet
of the setting, and what a class stands for in the end is joined or a
complement, so it is proper (`proper_foldThenNegate`). The rest of an expression
is built of such sets. So the expression of a tree is proper under any setting
(`proper_ofTree`) if the tree has no repetition that was to be refused.
-/

namespace Multiscan.Regex

open Syntax SymbolSet

variable {f : Setting}

/-! ## Classes -/

/-- What a class stands for once case and negation have been seen to. -/
theorem proper_foldThenNegate {s : SymbolSet} (negated : Bool)
    (h : Valid f.alphabet s.intervals) : (foldThenNegate f negated s).Proper f.alphabet := by
  obtain ⟨hvalid, hapart⟩ := valid_foldThenNegate h
  cases negated
  · exact ⟨hvalid, hapart.ordered⟩
  · exact proper_compl hvalid hapart

theorem valid_decimalDigits : Valid .character Unicode.decimalDigits := by decide +kernel

theorem valid_whiteSpace : Valid .character Unicode.whiteSpace := by decide +kernel

theorem valid_wordCharacters : Valid .character Unicode.wordCharacters := by decide +kernel

theorem valid_shorthandIntervals (f : Setting) (kind : ShorthandKind) :
    Valid f.alphabet (shorthandIntervals f kind) := by
  unfold shorthandIntervals
  split
  · next hunicode =>
    rw [Setting.alphabet, if_pos hunicode]
    cases kind
    · exact valid_decimalDigits
    · exact valid_whiteSpace
    · exact valid_wordCharacters
  · exact valid_asciiIntervals _ _

theorem proper_shorthandSet (f : Setting) (c : Shorthand) :
    (shorthandSet f c).Proper f.alphabet := by
  have hvalid := valid_ofIntervals (valid_shorthandIntervals f c.kind)
  rw [shorthandSet]
  split
  · exact proper_compl hvalid (apart_ofIntervals _)
  · exact ⟨hvalid, (apart_ofIntervals _).ordered⟩

theorem proper_propertySet {c : PropertyClass} {s : SymbolSet} (h : propertySet f c = .ok s) :
    s.Proper f.alphabet := by
  rw [propertySet] at h
  split at h
  · next hunicode =>
    have halphabet : f.alphabet = .character := if_pos hunicode
    split at h
    · next intervals _ =>
      obtain rfl := Except.ok.inj h
      exact proper_foldThenNegate _ (halphabet ▸ valid_ofCodePoints intervals)
    · exact nomatch h
  · exact nomatch h

theorem isSymbol_classSymbol {l : Literal} {n : Nat} (h : classSymbol f l = .ok n) :
    f.alphabet.IsSymbol n := by
  rw [classSymbol] at h
  split at h
  · next hunicode =>
    obtain rfl := Except.ok.inj h
    rw [Setting.alphabet, if_pos hunicode]
    exact isSymbol_toNat l.char
  · next hbytes =>
    rw [Setting.alphabet, if_neg hbytes]
    split at h
    · next b _ =>
      obtain rfl := Except.ok.inj h
      have hlt := b.toNat_lt
      exact isSymbol_byte.2 (by omega)
    · split at h
      · next hlt =>
        obtain rfl := Except.ok.inj h
        exact isSymbol_byte.2 (by omega)
      · cases h

/-- Operations on classes stay within the alphabet. -/
theorem valid_applySetOp {s t : SymbolSet} (kind : SetOp) (hs : Valid f.alphabet s.intervals)
    (ht : Valid f.alphabet t.intervals) : Valid f.alphabet (applySetOp f kind s t).intervals := by
  have hprepare : ∀ {s : SymbolSet}, Valid f.alphabet s.intervals →
      Valid f.alphabet (if f.caseless then s.caseFold f.alphabet else s.joined).intervals :=
    fun h => (valid_foldThenNegate h).1
  cases kind
  · exact valid_inter (hprepare hs) (hprepare ht)
  · exact valid_diff (hprepare hs) (hprepare ht)
  · exact valid_symmDiff (hprepare hs) (hprepare ht)

mutual

/-- **What stands between brackets** is within the alphabet. -/
theorem valid_classMembers : (set : ClassSet) → ∀ {s : SymbolSet}, classMembers f set = .ok s →
    Valid f.alphabet s.intervals
  | .empty _, s, h => by
    obtain rfl := Except.ok.inj h
    exact fun r hr => nomatch hr
  | .literal l, s, h => by
    obtain ⟨n, hn, h⟩ := bind_eq_ok.1 h
    obtain rfl := Except.ok.inj h
    exact valid_single (isSymbol_classSymbol hn)
  | .range _ lo hi, s, h => by
    obtain ⟨first, hfirst, h⟩ := bind_eq_ok.1 h
    obtain ⟨last, hlast, h⟩ := bind_eq_ok.1 h
    obtain rfl := Except.ok.inj h
    have hlo := isSymbol_classSymbol hfirst
    have hhi := isSymbol_classSymbol hlast
    refine valid_ofIntervals (List.forall_mem_singleton.2 ⟨hlo.min hhi, hlo.max hhi, ?_⟩)
    exact Nat.le_trans (Nat.min_le_left first last) (Nat.le_max_left first last)
  | .ascii c, s, h => by
    obtain rfl := Except.ok.inj h
    exact (proper_foldThenNegate _ (valid_ofIntervals (valid_asciiIntervals _ _))).valid
  | .property c, s, h => (proper_propertySet h).valid
  | .shorthand c, s, h => by
    obtain rfl := Except.ok.inj h
    exact (proper_shorthandSet f c).valid
  | .bracketed _ negated inner, s, h => by
    obtain ⟨t, ht, h⟩ := bind_eq_ok.1 h
    obtain rfl := Except.ok.inj h
    exact (proper_foldThenNegate negated (valid_classMembers inner ht)).valid
  | .union _ items, s, h => by
    obtain ⟨l, hl, h⟩ := bind_eq_ok.1 h
    obtain rfl := Except.ok.inj h
    exact valid_ofIntervals (valid_unionMembers items hl)
  | .op _ kind lhs rhs, s, h => by
    obtain ⟨t, ht, h⟩ := bind_eq_ok.1 h
    obtain ⟨u, hu, h⟩ := bind_eq_ok.1 h
    obtain rfl := Except.ok.inj h
    exact valid_applySetOp kind (valid_classMembers lhs ht) (valid_classMembers rhs hu)

theorem valid_unionMembers : (sets : List ClassSet) → ∀ {l : List (Nat × Nat)},
    unionMembers f sets = .ok l → Valid f.alphabet l
  | [], l, h => by
    obtain rfl := Except.ok.inj h
    exact fun r hr => nomatch hr
  | set :: sets, l, h => by
    obtain ⟨s, hs, h⟩ := bind_eq_ok.1 h
    obtain ⟨rest, hrest, h⟩ := bind_eq_ok.1 h
    obtain rfl := Except.ok.inj h
    exact valid_append (valid_classMembers set hs) (valid_unionMembers sets hrest)

end

/-! ## Single items -/

/-- The bytes that a literal stands for where case counts. -/
def literalBytes (f : Setting) (l : Literal) : List UInt8 :=
  match l.byte? with
  | some b => if !f.unicode && 0x80 ≤ b then [b] else Text.encodeChar l.char
  | none => Text.encodeChar l.char

/-- A literal is its bytes, or the set of the variants of its symbol. -/
theorem literalRegex_eq (f : Setting) (l : Literal) : literalRegex f l =
    if f.caseless && (f.unicode || l.char.toNat < 128) then
      let single := SymbolSet.interval l.char.toNat l.char.toNat
      let folded := single.caseFold f.alphabet
      if folded = single then ofBytes (literalBytes f l) else ofSet f.alphabet folded
    else ofBytes (literalBytes f l) := rfl

/-- Only symbols have variants. -/
theorem isSymbol_of_foldable {l : Literal} (h : (f.unicode || decide (l.char.toNat < 128)) = true) :
    f.alphabet.IsSymbol l.char.toNat := by
  rw [Setting.alphabet]
  split
  · exact isSymbol_toNat l.char
  · next hbytes =>
    have hlt := of_decide_eq_true ((Bool.or_eq_true_iff.1 h).resolve_left hbytes)
    exact isSymbol_byte.2 (by omega)

theorem proper_literalRegex (f : Setting) (l : Literal) : (literalRegex f l).Proper := by
  rw [literalRegex_eq]
  dsimp only
  split
  · next hfold =>
    obtain ⟨-, hfoldable⟩ := Bool.and_eq_true_iff.1 hfold
    have hsymbol := isSymbol_of_foldable hfoldable
    split
    · exact proper_ofBytes _
    · exact proper_ofSet ⟨valid_caseFold (valid_single hsymbol), (apart_caseFold _ _).ordered⟩
  · exact proper_ofBytes _

theorem lineEnds_joined (f : Setting) (a : Alphabet) :
    Valid a (lineEnds f) ∧ Apart (lineEnds f) := by
  rw [lineEnds]
  split
  · exact ⟨fun r hr => (nomatch hr), .nil⟩
  · split
    · refine ⟨by cases a <;> decide, ?_⟩
      rw [Apart]
      decide
    · exact ⟨by cases a <;> decide, List.pairwise_singleton _ _⟩

theorem proper_dotRegex (f : Setting) : (dotRegex f).Proper := by
  obtain ⟨hvalid, hapart⟩ := lineEnds_joined f f.alphabet
  exact proper_ofSet (proper_compl hvalid hapart)

theorem proper_groupRegex (kind : GroupKind) {r : Regex} (h : r.Proper) :
    (groupRegex kind r).Proper := by
  cases kind <;> exact h

/-- The counts of a repetition that can be carried out. -/
theorem counts_of_isValid {kind : RepetitionKind} (h : kind.isValid = true) :
    ∀ m ∈ kind.counts.2, kind.counts.1 ≤ m := by
  intro m hm
  cases kind with
  | zeroOrOne | zeroOrMore => exact Nat.zero_le m
  | oneOrMore | atLeast => exact nomatch hm
  | exactly n => exact Nat.le_of_eq (Option.some.inj hm)
  | bounded n most =>
    obtain rfl := Option.some.inj hm
    exact of_decide_eq_true h

/-! ## Trees -/

mutual

/-- **The expression of a tree is proper.** -/
theorem proper_ofTree : (t : Tree) → t.Counted → ∀ {f : Setting} {r : Regex} {f' : Setting},
    ofTree f t = .ok (r, f') → r.Proper
  | .empty _, _, f, r, f', h => by
    obtain ⟨rfl, -⟩ := Prod.mk.inj (Except.ok.inj h)
    trivial
  | .flags _ _ _, _, f, r, f', h => by
    obtain ⟨rfl, -⟩ := Prod.mk.inj (Except.ok.inj h)
    trivial
  | .literal l, _, f, r, f', h => by
    obtain ⟨rfl, -⟩ := Prod.mk.inj (Except.ok.inj h)
    exact proper_literalRegex f l
  | .dot _, _, f, r, f', h => by
    obtain ⟨rfl, -⟩ := Prod.mk.inj (Except.ok.inj h)
    exact proper_dotRegex f
  | .assertion _ _, _, f, r, f', h => by
    obtain ⟨rfl, -⟩ := Prod.mk.inj (Except.ok.inj h)
    trivial
  | .shorthand c, _, f, r, f', h => by
    obtain ⟨rfl, -⟩ := Prod.mk.inj (Except.ok.inj h)
    exact proper_ofSet (proper_shorthandSet f c)
  | .property c, _, f, r, f', h => by
    obtain ⟨s, hs, h⟩ := bind_eq_ok.1 h
    obtain ⟨rfl, -⟩ := Prod.mk.inj (Except.ok.inj h)
    exact proper_ofSet (proper_propertySet hs)
  | .bracketed _ negated set, _, f, r, f', h => by
    obtain ⟨s, hs, h⟩ := bind_eq_ok.1 h
    obtain ⟨rfl, -⟩ := Prod.mk.inj (Except.ok.inj h)
    exact proper_ofSet (proper_foldThenNegate negated (valid_classMembers set hs))
  | .repetition _ _ kind greedy sub, ht, f, r, f', h => by
    obtain ⟨⟨q, f₁⟩, hq, h⟩ := bind_eq_ok.1 h
    obtain ⟨rfl, -⟩ := Prod.mk.inj (Except.ok.inj h)
    have hproper := proper_ofTree sub ht.2 hq
    exact closed_proper.ofRepetition hproper (counts_of_isValid ht.1)
      fun hcounts _ => ⟨hcounts, hproper⟩
  | .group _ kind sub, ht, f, r, f', h => by
    obtain ⟨⟨q, f₁⟩, hq, h⟩ := bind_eq_ok.1 h
    obtain ⟨rfl, -⟩ := Prod.mk.inj (Except.ok.inj h)
    exact proper_groupRegex kind (proper_ofTree sub ht hq)
  | .alternation _ ts, ht, f, r, f', h => by
    obtain ⟨⟨rs, f₁⟩, hrs, h⟩ := bind_eq_ok.1 h
    obtain ⟨rfl, -⟩ := Prod.mk.inj (Except.ok.inj h)
    exact closed_proper.ofAlternation (allProper_iff.1 (proper_ofTrees ts ht hrs))
  | .concat _ ts, ht, f, r, f', h => by
    obtain ⟨⟨rs, f₁⟩, hrs, h⟩ := bind_eq_ok.1 h
    obtain ⟨rfl, -⟩ := Prod.mk.inj (Except.ok.inj h)
    exact closed_proper.ofConcat (allProper_iff.1 (proper_ofTrees ts ht hrs))

theorem proper_ofTrees : (ts : List Tree) → Tree.AllCounted ts →
    ∀ {f : Setting} {rs : List Regex} {f' : Setting}, ofTrees f ts = .ok (rs, f') →
    AllProper rs
  | [], _, f, rs, f', h => by
    obtain ⟨rfl, -⟩ := Prod.mk.inj (Except.ok.inj h)
    trivial
  | t :: ts, ht, f, rs, f', h => by
    obtain ⟨⟨r, f₁⟩, hr, h⟩ := bind_eq_ok.1 h
    obtain ⟨⟨rest, f₂⟩, hrest, h⟩ := bind_eq_ok.1 h
    obtain ⟨rfl, -⟩ := Prod.mk.inj (Except.ok.inj h)
    exact ⟨proper_ofTree t ht.1 hr, proper_ofTrees ts ht.2 hrest⟩

end

end Multiscan.Regex
