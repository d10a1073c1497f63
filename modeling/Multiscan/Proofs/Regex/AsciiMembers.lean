import Multiscan.Proofs.Regex.Reading
import Multiscan.Proofs.Regex.Variants
import Multiscan.Proofs.Syntax.ByteLiterals
/-!
# Regex — what a class holds of ASCII

A class is read in one of several ways: its symbols are bytes or characters, and
its shorthand classes are those of ASCII or those of Unicode. Whichever it is,
the class holds the same of ASCII (`sameOnAscii_members`). Folding can bring
into ASCII what was outside, so what is carried through the operations on sets
is more than that: two sets must have the same members in ASCII and meet the
variants of the same ones (`SameOnAscii`).
-/

namespace Multiscan.Regex

open Syntax SymbolSet

variable {f f' f'' : Setting} {s s' s'' t t' : SymbolSet} {l k l' k' : List (Nat × Nat)} {n : Nat}

/-! ## Settings and sets -/

/-- Settings that differ at most in what symbols are. -/
def Setting.Like (f f' : Setting) : Prop := f' = { f with unicode := f'.unicode }

theorem Setting.Like.caseless (h : f.Like f') : f'.caseless = f.caseless := by rw [h]

theorem Setting.Like.eq (h : f.Like f') (hunicode : f.unicode = f'.unicode) : f = f' := by
  rw [h, ← hunicode]

/-- Sets of two settings that are the same as far as ASCII goes, before folding
and after. -/
def SameOnAscii (f f' : Setting) (s s' : SymbolSet) : Prop :=
  ∀ n < 128, (s.contains n = true ↔ s'.contains n = true) ∧ (f.Meets s n ↔ f'.Meets s' n)

namespace SameOnAscii

theorem refl (f : Setting) (s : SymbolSet) : SameOnAscii f f s s := fun _ _ => ⟨.rfl, .rfl⟩

theorem symm (h : SameOnAscii f f' s s') : SameOnAscii f' f s' s :=
  fun n hn => ⟨(h n hn).1.symm, (h n hn).2.symm⟩

theorem trans (h : SameOnAscii f f' s s') (h' : SameOnAscii f' f'' s' s'') :
    SameOnAscii f f'' s s'' :=
  fun n hn => ⟨(h n hn).1.trans (h' n hn).1, (h n hn).2.trans (h' n hn).2⟩

/-- Of closed sets only the members count. -/
theorem of_closed (hs : f.Closed s) (hs' : f'.Closed s')
    (h : ∀ n < 128, (s.contains n = true ↔ s'.contains n = true)) : SameOnAscii f f' s s' := by
  intro n hn
  refine ⟨h n hn, ?_⟩
  rw [hs.meets_iff, hs'.meets_iff]
  exact h n hn

theorem foldThenNegate {negated : Bool} (h : SameOnAscii f f' s s')
    (hs : Valid f.alphabet s.intervals) (hs' : Valid f'.alphabet s'.intervals) :
    SameOnAscii f f' (foldThenNegate f negated s) (foldThenNegate f' negated s') := by
  refine of_closed (closed_foldThenNegate hs) (closed_foldThenNegate hs') fun n hn => ?_
  rw [contains_foldThenNegate (.inl hn) hs, contains_foldThenNegate (.inl hn) hs', (h n hn).2]

theorem applySetOp {kind : SetOp} (h : SameOnAscii f f' s s') (h' : SameOnAscii f f' t t')
    (hs : Valid f.alphabet s.intervals) (hs' : Valid f'.alphabet s'.intervals)
    (ht : Valid f.alphabet t.intervals) (ht' : Valid f'.alphabet t'.intervals) :
    SameOnAscii f f' (applySetOp f kind s t) (applySetOp f' kind s' t') := by
  refine of_closed (closed_applySetOp hs ht) (closed_applySetOp hs' ht') fun n hn => ?_
  rw [contains_applySetOp (.inl hn) hs ht, contains_applySetOp (.inl hn) hs' ht', (h n hn).2,
    (h' n hn).2]

/-- The members of several intervals are those of the parts. -/
theorem append (h : SameOnAscii f f' ⟨l⟩ ⟨l'⟩) (h' : SameOnAscii f f' ⟨k⟩ ⟨k'⟩) :
    SameOnAscii f f' ⟨l ++ k⟩ ⟨l' ++ k'⟩ := by
  have hcontains : ∀ (l k : List (Nat × Nat)) (n : Nat), (SymbolSet.mk (l ++ k)).contains n = true ↔
      (SymbolSet.mk l).contains n = true ∨ (SymbolSet.mk k).contains n = true := by
    intro l k n
    rw [contains_iff, contains_iff, contains_iff]
    exact holds_append
  have hmeets : ∀ (f : Setting) (l k : List (Nat × Nat)) (n : Nat),
      f.Meets ⟨l ++ k⟩ n ↔ f.Meets ⟨l⟩ n ∨ f.Meets ⟨k⟩ n := by
    intro f l k n
    simp only [Setting.Meets, hcontains, and_or_left, exists_or]
  intro n hn
  rw [hcontains, hcontains, hmeets, hmeets, (h n hn).1, (h n hn).2, (h' n hn).1, (h' n hn).2]
  exact ⟨.rfl, .rfl⟩

/-- Putting intervals in order changes nothing. -/
theorem ofIntervals (h : SameOnAscii f f' ⟨l⟩ ⟨l'⟩) :
    SameOnAscii f f' (.ofIntervals l) (.ofIntervals l') := by
  have hcontains : ∀ (l : List (Nat × Nat)) (n : Nat),
      (SymbolSet.ofIntervals l).contains n = true ↔ (SymbolSet.mk l).contains n = true := by
    intro l n
    rw [contains_ofIntervals, contains_iff]
  have hmeets : ∀ (f : Setting) (l : List (Nat × Nat)) (n : Nat),
      f.Meets (.ofIntervals l) n ↔ f.Meets ⟨l⟩ n := by
    intro f l n
    simp only [Setting.Meets, hcontains]
  intro n hn
  rw [hcontains, hcontains, hmeets, hmeets]
  exact h n hn

end SameOnAscii

/-! ## Members that are bytes -/

/-- Symbols have the same variants in ASCII whatever else symbols are, all but
the two that have some among characters only. -/
theorem variants_iff {m : Nat} (hlike : f.Like f')
    (hm : f.caseless = true → f.unicode ≠ f'.unicode → m ≠ 0x17F ∧ m ≠ 0x212A) (hn : n < 128) :
    f.Variants m n ↔ f'.Variants m n := by
  by_cases hsame : f.unicode = f'.unicode
  · rw [hlike.eq hsame]
  · rw [Setting.Variants, Setting.Variants, hlike.caseless]
    refine or_congr_right (and_congr_right fun hcase => ?_)
    have hother := hm hcase hsame
    have hletter : ∀ a : Alphabet, a.IsLetter m ↔ IsLetter m := by
      intro a
      refine and_iff_left_of_imp fun h _ => ?_
      simp only [IsLetter, Char.reduceToNat] at h
      omega
    have hletter' : ∀ a : Alphabet, a.IsLetter n ↔ IsLetter n := fun a =>
      and_iff_left_of_imp fun _ _ => hn
    rw [hletter, hletter, hletter', hletter']

theorem sameOnAscii_of_lt (hlike : f.Like f') (h : ∀ n, s.contains n = true → n < 256) :
    SameOnAscii f f' s s := by
  intro n hn
  have hvariants : ∀ m, s.contains m = true → (f.Variants m n ↔ f'.Variants m n) := by
    intro m hmem
    have hlt := h m hmem
    exact variants_iff hlike (fun _ _ => by omega) hn
  refine ⟨.rfl, ?_⟩
  constructor
  · rintro ⟨m, hm, hmem⟩
    exact ⟨m, (hvariants m hmem).1 hm, hmem⟩
  · rintro ⟨m, hm, hmem⟩
    exact ⟨m, (hvariants m hmem).2 hm, hmem⟩

/-- A set for both settings, whose members are bytes if symbols are in one. -/
theorem sameOnAscii_self (hlike : f.Like f')
    (h : f.unicode = false ∨ f'.unicode = false → ∀ n, s.contains n = true → n < 256) :
    SameOnAscii f f' s s := by
  by_cases hsame : f.unicode = f'.unicode
  · obtain rfl := hlike.eq hsame
    exact .refl f s
  · refine sameOnAscii_of_lt hlike (h ?_)
    cases hunicode : f.unicode
    · exact .inl rfl
    · rw [hunicode] at hsame
      exact .inr (eq_false_of_ne_true (Ne.symm hsame))

/-- What a literal in a class stands for. -/
theorem eq_of_classSymbol {c : Literal} (hbyte : c.NamesByte) (h : classSymbol f c = .ok n) :
    n = c.char.toNat ∧ (f.unicode = false → n < 256) := by
  rw [classSymbol] at h
  split at h
  · next hunicode =>
    obtain rfl := Except.ok.inj h
    exact ⟨rfl, fun hfalse => absurd (hunicode.symm.trans hfalse) (by decide)⟩
  · split at h
    · next b hb =>
      obtain rfl := Except.ok.inj h
      exact ⟨hbyte b hb, fun _ => b.toNat_lt⟩
    · split at h
      · next hlt =>
        obtain rfl := Except.ok.inj h
        exact ⟨rfl, fun _ => by omega⟩
      · cases h

theorem sameOnAscii_asciiSet (hlike : f.Like f') (c : AsciiClass) :
    SameOnAscii f f' (asciiSet f c) (asciiSet f' c) := by
  refine SameOnAscii.foldThenNegate (sameOnAscii_of_lt hlike fun n hn => ?_)
    (valid_ofIntervals (valid_asciiIntervals _ _)) (valid_ofIntervals (valid_asciiIntervals _ _))
  have hlast : ∀ kind, ∀ r ∈ asciiIntervals kind, r.2 < 128 := by
    intro kind
    cases kind <;> decide
  obtain ⟨r, hr, -, hle⟩ := contains_ofIntervals.1 hn
  have hlt := hlast c.kind r hr
  omega

/-! ## Shorthand classes -/

/-- The tables of Unicode have what ASCII has, and the two variants of letters
among the word characters. -/
theorem contains_tables : ∀ n ∈ List.range 128 ++ [0x17F, 0x212A],
    (SymbolSet.mk Unicode.decimalDigits).contains n =
        decide (ShorthandKind.digit.HasAscii n ∨ ShorthandKind.digit.HasVariant n) ∧
      (SymbolSet.mk Unicode.whiteSpace).contains n =
        decide (ShorthandKind.space.HasAscii n ∨ ShorthandKind.space.HasVariant n) ∧
      (SymbolSet.mk Unicode.wordCharacters).contains n =
        decide (ShorthandKind.word.HasAscii n ∨ ShorthandKind.word.HasVariant n) := by
  decide +kernel

/-- What a shorthand class has before it is negated. -/
theorem holds_shorthandIntervals {kind : ShorthandKind} (hn : f.alphabet.Near n) :
    Holds (shorthandIntervals f kind) n ↔
      kind.HasAscii n ∨ f.unicode = true ∧ kind.HasVariant n := by
  by_cases hunicode : f.unicode = true
  · have hmem : n ∈ List.range 128 ++ [0x17F, 0x212A] := by
      have hletters := hn
      simp only [Alphabet.Near, Alphabet.IsLetter, IsLetter, Char.reduceToNat] at hletters
      simp only [List.mem_append, List.mem_range, List.mem_cons, List.not_mem_nil, or_false]
      omega
    obtain ⟨hdigit, hspace, hword⟩ := contains_tables n hmem
    unfold shorthandIntervals
    rw [if_pos hunicode]
    simp only [hunicode, true_and]
    rw [← decide_eq_true_iff (p := kind.HasAscii n ∨ _)]
    cases kind
    · rw [← hdigit, contains_iff]
    · rw [← hspace, contains_iff]
    · rw [← hword, contains_iff]
  · have hvariant : ¬ (f.unicode = true ∧ kind.HasVariant n) := fun h => hunicode h.1
    unfold shorthandIntervals
    rw [if_neg hunicode, holds_asciiIntervals, or_iff_left hvariant]

theorem contains_shorthandSet {c : Shorthand} (hn : f.alphabet.Near n) :
    (shorthandSet f c).contains n = true ↔
      (c.negated = true ↔ ¬ (c.kind.HasAscii n ∨ f.unicode = true ∧ c.kind.HasVariant n)) := by
  have hvalid := valid_ofIntervals (valid_shorthandIntervals f c.kind)
  have hsmall : n < 0xD7FF := by
    have hle := hn.bounds.1
    omega
  rw [shorthandSet, ← holds_shorthandIntervals hn, ← contains_ofIntervals]
  by_cases hnegated : c.negated = true
  · rw [if_pos hnegated, iff_true_left hnegated]
    exact contains_compl hn.isSymbol hvalid (apart_ofIntervals _) fun _ => hsmall
  · rw [if_neg hnegated, iff_false_left hnegated, not_not]

/-- The classes of Unicode are closed under variants, too: of letters they have
all or none. -/
theorem closed_shorthandSet (f : Setting) (c : Shorthand) : f.Closed (shorthandSet f c) := by
  have hword : ∀ {n : Nat}, f.alphabet.IsLetter n →
      (c.kind.HasAscii n ∨ f.unicode = true ∧ c.kind.HasVariant n ↔ c.kind = .word) := by
    intro n hn
    rw [← hasAscii_or_hasVariant_of_isLetter hn.1]
    by_cases hunicode : f.unicode = true
    · simp only [hunicode, true_and]
    · have hbyte : f.alphabet = .byte := if_neg hunicode
      have hlt := hn.2 hbyte
      have hvariant : ¬ c.kind.HasVariant n := by
        rintro ⟨-, h⟩
        omega
      simp only [hunicode, hvariant, and_false]
  refine closed_of_near (fun m n hmn => ?_) fun n hn => contains_shorthandSet hn
  rcases hmn with rfl | ⟨-, hm, hn, -⟩
  · rfl
  · rw [hword hm, hword hn]

/-- **A shorthand class holds the same of ASCII** as the named class of its
kind. -/
theorem sameOnAscii_shorthandSet (f : Setting) (c : Shorthand) :
    SameOnAscii f f (asciiSet f c.toAscii) (shorthandSet f c) := by
  refine .of_closed (closed_foldThenNegate (valid_ofIntervals (valid_asciiIntervals _ _)))
    (closed_shorthandSet f c) fun n hn => ?_
  have hvariant : ¬ c.kind.HasVariant n := by
    rintro ⟨-, h⟩
    omega
  rw [contains_asciiSet (isSymbol_of_ascii _ (by omega)), contains_shorthandSet (.inl hn)]
  simp only [hvariant, and_false]

/-! ## Classes -/

namespace Reading

variable {R R' : Reading}

/-- One of the two ways in which patterns are read. -/
def Standard (R : Reading) : Prop := R = plain ∨ R = ascii

theorem standard_ofWord (word : UInt32) : (ofWord word).Standard := by
  unfold ofWord
  split
  · exact .inr rfl
  · exact .inl rfl

theorem valid_members (hR : R.Standard) {set : ClassSet} (h : R.members f set = .ok s) :
    Valid f.alphabet s.intervals := by
  rcases hR with rfl | rfl
  · rw [members_plain] at h
    exact valid_classMembers set h
  · rw [members_ascii] at h
    exact valid_classMembers _ h

theorem sameOnAscii_shorthand (hR : R.Standard) (hR' : R'.Standard) (hlike : f.Like f')
    (c : Shorthand) : SameOnAscii f f' (R.shorthand f c) (R'.shorthand f' c) := by
  have hnamed : ∀ {R : Reading}, R.Standard → ∀ f,
      SameOnAscii f f (asciiSet f c.toAscii) (R.shorthand f c) := by
    rintro R (rfl | rfl) f
    · exact sameOnAscii_shorthandSet f c
    · exact .refl f _
  exact (hnamed hR f).symm.trans ((sameOnAscii_asciiSet hlike c.toAscii).trans (hnamed hR' f'))

/-- A property class is there for characters only. -/
theorem sameOnAscii_propertySet {c : PropertyClass} (hlike : f.Like f')
    (h : propertySet f c = .ok s) (h' : propertySet f' c = .ok s') : SameOnAscii f f' s s' := by
  have hunicode : ∀ {f : Setting} {s : SymbolSet}, propertySet f c = .ok s → f.unicode = true := by
    intro f s h
    rw [propertySet] at h
    split at h
    · assumption
    · cases h
  obtain rfl := hlike.eq ((hunicode h).trans (hunicode h').symm)
  obtain rfl := Except.ok.inj (h.symm.trans h')
  exact .refl f s

mutual

/-- **What stands between brackets** holds the same of ASCII in all readings. -/
theorem sameOnAscii_members (hR : R.Standard) (hR' : R'.Standard) (hlike : f.Like f') :
    (set : ClassSet) → set.NamesBytes → ∀ {s s' : SymbolSet}, R.members f set = .ok s →
    R'.members f' set = .ok s' → SameOnAscii f f' s s'
  | .empty _, _, s, s', h, h' => by
    obtain rfl := Except.ok.inj h
    obtain rfl := Except.ok.inj h'
    exact sameOnAscii_self hlike fun _ n hn => by cases hn
  | .literal l, hbyte, s, s', h, h' => by
    obtain ⟨n, hn, h⟩ := bind_eq_ok.1 h
    obtain ⟨n', hn', h'⟩ := bind_eq_ok.1 h'
    obtain rfl := Except.ok.inj h
    obtain rfl := Except.ok.inj h'
    obtain ⟨rfl, hlt⟩ := eq_of_classSymbol hbyte hn
    obtain ⟨rfl, hlt'⟩ := eq_of_classSymbol hbyte hn'
    refine sameOnAscii_self hlike fun hunicode m hm => ?_
    obtain ⟨r, hr, -, hle⟩ := contains_iff.1 hm
    obtain rfl := List.mem_singleton.1 hr
    exact Nat.lt_of_le_of_lt hle (hunicode.elim hlt hlt')
  | .range _ lo hi, ⟨hlo, hhi⟩, s, s', h, h' => by
    obtain ⟨first, hfirst, h⟩ := bind_eq_ok.1 h
    obtain ⟨last, hlast, h⟩ := bind_eq_ok.1 h
    obtain ⟨first', hfirst', h'⟩ := bind_eq_ok.1 h'
    obtain ⟨last', hlast', h'⟩ := bind_eq_ok.1 h'
    obtain rfl := Except.ok.inj h
    obtain rfl := Except.ok.inj h'
    obtain ⟨rfl, hlt⟩ := eq_of_classSymbol hlo hfirst
    obtain ⟨rfl, hlt'⟩ := eq_of_classSymbol hlo hfirst'
    obtain ⟨rfl, hgt⟩ := eq_of_classSymbol hhi hlast
    obtain ⟨rfl, hgt'⟩ := eq_of_classSymbol hhi hlast'
    refine SameOnAscii.ofIntervals (sameOnAscii_self hlike fun hunicode m hm => ?_)
    obtain ⟨r, hr, -, hle⟩ := contains_iff.1 hm
    obtain rfl := List.mem_singleton.1 hr
    have hmax : Nat.max lo.char.toNat hi.char.toNat < 256 :=
      Nat.max_lt.2 ⟨hunicode.elim hlt hlt', hunicode.elim hgt hgt'⟩
    exact Nat.lt_of_le_of_lt hle hmax
  | .ascii c, _, s, s', h, h' => by
    obtain rfl := Except.ok.inj h
    obtain rfl := Except.ok.inj h'
    exact sameOnAscii_asciiSet hlike c
  | .property c, _, s, s', h, h' => sameOnAscii_propertySet hlike h h'
  | .shorthand c, _, s, s', h, h' => by
    obtain rfl := Except.ok.inj h
    obtain rfl := Except.ok.inj h'
    exact sameOnAscii_shorthand hR hR' hlike c
  | .bracketed _ negated inner, hbytes, s, s', h, h' => by
    obtain ⟨t, ht, h⟩ := bind_eq_ok.1 h
    obtain ⟨t', ht', h'⟩ := bind_eq_ok.1 h'
    obtain rfl := Except.ok.inj h
    obtain rfl := Except.ok.inj h'
    exact (sameOnAscii_members hR hR' hlike inner hbytes ht ht').foldThenNegate
      (valid_members hR ht) (valid_members hR' ht')
  | .union _ items, hbytes, s, s', h, h' => by
    obtain ⟨l, hl, h⟩ := bind_eq_ok.1 h
    obtain ⟨l', hl', h'⟩ := bind_eq_ok.1 h'
    obtain rfl := Except.ok.inj h
    obtain rfl := Except.ok.inj h'
    exact (sameOnAscii_unionMembers hR hR' hlike items hbytes hl hl').ofIntervals
  | .op _ kind lhs rhs, ⟨hlhs, hrhs⟩, s, s', h, h' => by
    obtain ⟨t, ht, h⟩ := bind_eq_ok.1 h
    obtain ⟨u, hu, h⟩ := bind_eq_ok.1 h
    obtain ⟨t', ht', h'⟩ := bind_eq_ok.1 h'
    obtain ⟨u', hu', h'⟩ := bind_eq_ok.1 h'
    obtain rfl := Except.ok.inj h
    obtain rfl := Except.ok.inj h'
    exact (sameOnAscii_members hR hR' hlike lhs hlhs ht ht').applySetOp
      (sameOnAscii_members hR hR' hlike rhs hrhs hu hu') (valid_members hR ht)
      (valid_members hR' ht') (valid_members hR hu) (valid_members hR' hu')

theorem sameOnAscii_unionMembers (hR : R.Standard) (hR' : R'.Standard) (hlike : f.Like f') :
    (sets : List ClassSet) → ClassSet.AllNameBytes sets → ∀ {l l' : List (Nat × Nat)},
    R.unionMembers f sets = .ok l → R'.unionMembers f' sets = .ok l' →
    SameOnAscii f f' ⟨l⟩ ⟨l'⟩
  | [], _, l, l', h, h' => by
    obtain rfl := Except.ok.inj h
    obtain rfl := Except.ok.inj h'
    exact sameOnAscii_self hlike fun _ n hn => by cases hn
  | set :: sets, ⟨hset, hsets⟩, l, l', h, h' => by
    obtain ⟨s, hs, h⟩ := bind_eq_ok.1 h
    obtain ⟨rest, hrest, h⟩ := bind_eq_ok.1 h
    obtain ⟨s', hs', h'⟩ := bind_eq_ok.1 h'
    obtain ⟨rest', hrest', h'⟩ := bind_eq_ok.1 h'
    obtain rfl := Except.ok.inj h
    obtain rfl := Except.ok.inj h'
    exact (sameOnAscii_members hR hR' hlike set hset hs hs').append
      (sameOnAscii_unionMembers hR hR' hlike sets hsets hrest hrest')

end

end Reading

end Multiscan.Regex
