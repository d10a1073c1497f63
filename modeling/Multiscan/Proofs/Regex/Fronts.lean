import Multiscan.Proofs.Regex.AsciiItems
import Multiscan.Proofs.Regex.Building
import Multiscan.Proofs.Regex.Lockstep
import Multiscan.Proofs.Regex.SetOperations
/-!
# Regex — common fronts

Alternatives with a common front are built as that front before what is left of
them. So the ways through the front come before the choice between the
alternatives, and no longer behind it: of two alternatives with a front that
prefers nothing, another one is found once the fronts are told to be the same
(`search_ofLazyFronts`).
-/

namespace Multiscan.Regex

open SymbolSet
open Text (Bytes AllAscii)

variable {a : Alphabet} {s t : SymbolSet} {r r' : Regex} {p : Nat → Prop}

/-! ## What is built -/

/-- A set with more than one member is none that can be written otherwise. -/
theorem ofSet_of_two {m n : Nat} (hm : s.contains m = true) (hn : s.contains n = true)
    (hne : m ≠ n) : ofSet a s = .oneOf a s := by
  obtain ⟨rfl, -⟩ | ⟨k, rfl, -⟩ | hset := ofSet_cases a s
  · exact nomatch hm
  · exact absurd ((contains_single.1 hm).trans (contains_single.1 hn).symm) hne
  · exact hset

/-- A symbol is not one of the expressions that match nothing but the empty
stretch. -/
theorem ofRepetition_oneOf (a : Alphabet) (s : SymbolSet) :
    ofRepetition 0 (some 1) false (.oneOf a s) = .repetition 0 (some 1) false (.oneOf a s) := by
  have hlen : (Regex.oneOf a s).maxLen? ≠ some 0 := by
    rw [maxLen?]
    unfold setMaxLen?
    split
    · exact (Option.some_ne_none 0).symm
    · exact fun h => absurd (Option.some.inj h) Nat.one_ne_zero
    · exact fun h => Nat.ne_of_gt (Text.width_pos _) (Option.some.inj h)
  rw [ofRepetition, if_neg hlen]
  rfl

/-- Sequences that start with different parts stay alternatives. -/
theorem factorAlternation_apart {rs rs' : List Regex} (h : r ≠ r') (fuel : Nat) :
    factorAlternation fuel [.concat (r :: rs), .concat (r' :: rs')] =
      .alternation [.concat (r :: rs), .concat (r' :: rs')] := by
  have hset : asOneSet? [.concat (r :: rs), .concat (r' :: rs')] = none := rfl
  have hfront : commonFront (r :: rs) (r' :: rs') = 0 := by
    rw [commonFront, beq_eq_false_iff_ne.2 h]
    rfl
  cases fuel with
  | zero => rfl
  | succ fuel =>
    rw [factorAlternation]
    simp [openAlternations, hset, partsOf?, hfront]

/-- Sequences that start with the same part go on with what is left of them. -/
theorem factorAlternation_front {q q' : Regex} (h : q ≠ q') (fuel : Nat) :
    factorAlternation (fuel + 1) [.concat [r, q], .concat [r, q']] =
      ofConcat [r, factorAlternation fuel [ofConcat [q], ofConcat [q']]] := by
  have hset : asOneSet? [.concat [r, q], .concat [r, q']] = none := rfl
  have hfront : commonFront [r, q] [r, q'] = 1 := by
    rw [commonFront, beq_self_eq_true, if_pos rfl, commonFront, beq_eq_false_iff_ne.2 h]
    rfl
  rw [factorAlternation]
  simp [openAlternations, hset, partsOf?, hfront]

/-! ## A front that prefers nothing -/

/-- The letters of the text "ca" as a set. -/
def twoLetters : SymbolSet := .ofIntervals [(97, 97), (99, 99)]

/-- One symbol of a set or none, preferably none, before an a; or one of another
set before a c. -/
def ofLazyFronts (a : Alphabet) (s t : SymbolSet) : Regex :=
  ofAlternation [ofConcat [ofRepetition 0 (some 1) false (ofSet a s), .literal [97]],
    ofConcat [ofRepetition 0 (some 1) false (ofSet a t), .literal [99]]]

theorem contains_twoLetters : twoLetters.contains 97 = true ∧ twoLetters.contains 99 = true := by
  rw [twoLetters, contains_ofIntervals, contains_ofIntervals]
  exact ⟨⟨(97, 97), List.mem_cons_self, Nat.le_refl _, Nat.le_refl _⟩,
    ⟨(99, 99), List.mem_cons_of_mem _ List.mem_cons_self, Nat.le_refl _, Nat.le_refl _⟩⟩

theorem ofLazyFronts_self (hs : ofSet a s = .oneOf a s) :
    ofLazyFronts a s s =
      .concat [.repetition 0 (some 1) false (.oneOf a s), .oneOf .character twoLetters] := by
  have hne : Regex.literal [97] ≠ .literal [99] := by decide
  have htails : ∀ fuel,
      factorAlternation fuel [.literal [97], .literal [99]] = ofSet .character twoLetters := by
    intro fuel
    cases fuel <;> rfl
  have hset : ofSet .character twoLetters = .oneOf .character twoLetters :=
    ofSet_of_two contains_twoLetters.1 contains_twoLetters.2 (by decide)
  have hpair : ∀ b, ofConcat [.repetition 0 (some 1) false (.oneOf a s), .literal [b]] =
      .concat [.repetition 0 (some 1) false (.oneOf a s), .literal [b]] := fun _ => rfl
  have hletter : ∀ b, ofConcat [.literal [b]] = .literal [b] := fun _ => rfl
  rw [ofLazyFronts, hs, ofRepetition_oneOf, hpair, hpair, ofAlternation]
  refine (factorAlternation_front hne 7).trans ?_
  rw [hletter, hletter, htails, hset]
  rfl

theorem ofLazyFronts_apart (hs : ofSet a s = .oneOf a s) (ht : ofSet a t = .oneOf a t)
    (hne : s ≠ t) :
    ofLazyFronts a s t =
      .alternation [.concat [.repetition 0 (some 1) false (.oneOf a s), .literal [97]],
        .concat [.repetition 0 (some 1) false (.oneOf a t), .literal [99]]] := by
  have hfront : Regex.repetition 0 (some 1) false (.oneOf a s) ≠
      .repetition 0 (some 1) false (.oneOf a t) := by
    intro h
    injection h with _ _ _ h
    injection h with _ h
    exact hne h
  rw [ofLazyFronts, hs, ht, ofRepetition_oneOf, ofRepetition_oneOf]
  exact factorAlternation_apart hfront _

/-- The bytes of the text "ca". -/
theorem letter_of_getElem? {i : Nat} {b : UInt8} (h : (#[99, 97] : Bytes)[i]? = some b) :
    b.toNat = 99 ∨ b.toNat = 97 := by
  have hmem : b ∈ [99, 97] := Array.mem_toList_iff.2 (Array.mem_of_getElem? h)
  rcases List.mem_cons.1 hmem with rfl | hmem
  · exact .inl rfl
  · rw [List.mem_singleton.1 hmem]
    exact .inr rfl

theorem allAscii_letters : AllAscii #[99, 97] := by
  intro i b hb
  rcases letter_of_getElem? hb with h | h
  · rw [h]
    decide
  · rw [h]
    decide

/-- In this text, what takes both letters takes what their interval does. -/
theorem alike_interval (hr : Takes #[99, 97] p r) (ha : p 97) (hc : p 99) :
    Alike #[99, 97] r (.oneOf .byte (.interval 97 99)) := by
  have hinterval := takes_oneOf allAscii_letters .byte (.interval 97 99)
  refine (hr.congr_of_mem fun i b hb => ?_).alike hinterval
  rcases letter_of_getElem? hb with h | h
  · rw [h]
    exact iff_of_true hc (by decide)
  · rw [h]
    exact iff_of_true ha (by decide)

/-- **Whether fronts are the same** decides what is found of two alternatives
with fronts that prefer nothing. If they are, the front takes nothing and the c is
found at once, by the second alternative. If not, the first alternative goes
before: its front takes the c, and the a is behind. -/
theorem search_ofLazyFronts (hs : s.contains 97 = true ∧ s.contains 99 = true)
    (ht : t.contains 97 = true ∧ t.contains 99 = true) :
    search #[99, 97] (ofLazyFronts a s t) 0 = some (0, if s = t then 1 else 2) := by
  have hset : ∀ {a : Alphabet} {s : SymbolSet}, s.contains 97 = true ∧ s.contains 99 = true →
      ofSet a s = .oneOf a s ∧ Alike #[99, 97] (.oneOf a s) (.oneOf .byte (.interval 97 99)) := by
    intro a s h
    exact ⟨ofSet_of_two h.1 h.2 (by decide),
      alike_interval (takes_oneOf allAscii_letters a s) h.1 h.2⟩
  have hletter : ∀ b : UInt8, Alike #[99, 97] (.literal [b]) (.literal [b]) := fun b =>
    (takes_byte _ b).alike (takes_byte _ b)
  obtain ⟨hs, hs'⟩ := hset (a := a) hs
  obtain ⟨ht, ht'⟩ := hset (a := a) ht
  by_cases hsame : s = t
  · subst hsame
    rw [if_pos rfl, ofLazyFronts_self hs]
    refine (search_alike (.concat (.cons (.bounded 0 1 false hs')
      (.cons (hset contains_twoLetters).2 .nil))) 0).trans (search_of_walk 20 ?_)
    decide
  · rw [if_neg hsame, ofLazyFronts_apart hs ht hsame]
    refine (search_alike (.alternation (.cons (.concat (.cons (.bounded 0 1 false hs')
      (.cons (hletter 97) .nil))) (.cons (.concat (.cons (.bounded 0 1 false ht')
      (.cons (hletter 99) .nil))) .nil))) 0).trans (search_of_walk 20 ?_)
    decide

end Multiscan.Regex
