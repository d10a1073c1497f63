import Multiscan.Proofs.Regex.OfTree
import Multiscan.Proofs.Regex.Places
/-!
# Regex — sequences of one part

Every expression that a tree means has the form that the functions by which it is
built bring expressions into (`Regex.Flat`, `flat_of_meaning`). A sequence of one
such part is that part (`ofConcat_singleton`), and what matches the empty stretch
before the parts of a sequence makes no difference to it (`ofConcat_empty_cons`).
-/

namespace Multiscan

open Regex Syntax

/-- No literal is empty, and sequences have several parts with no two adjacent
literals among them. -/
inductive Regex.Flat : Regex → Prop
  | empty : Flat .empty
  | literal {bytes : List UInt8} (h : bytes ≠ []) : Flat (.literal bytes)
  | oneOf (a : Alphabet) (s : SymbolSet) : Flat (.oneOf a s)
  | look (l : Look) : Flat (.look l)
  | repetition (min : Nat) (max : Option Nat) (greedy : Bool) (sub : Regex) :
    Flat (.repetition min max greedy sub)
  | capture (index : Nat) (name : Option String) (sub : Regex) : Flat (.capture index name sub)
  | concat {parts : List Regex} (hmany : 2 ≤ parts.length)
    (hjoined : joinLiterals [] parts = parts) (h : ∀ r ∈ parts, Flat r) : Flat (.concat parts)
  | alternation {alts : List Regex} (h : ∀ r ∈ alts, Flat r) : Flat (.alternation alts)

namespace Regex

variable {r : Regex} {rs : List Regex} {f : Setting}

/-! ## Building -/

theorem flat_ofBytes (bytes : List UInt8) : (ofBytes bytes).Flat := by
  rw [ofBytes]
  split
  · exact .empty
  · next hne => exact .literal fun hnil => hne (List.isEmpty_iff.2 hnil)

theorem flat_ofSet (a : Alphabet) (s : SymbolSet) : (ofSet a s).Flat := by
  obtain ⟨-, hset⟩ | ⟨n, -, hset⟩ | hset := ofSet_cases a s
  · exact hset ▸ .oneOf _ _
  · exact hset ▸ .literal (symbolBytes_ne_nil a n)
  · exact hset ▸ .oneOf a s

theorem flat_asOneSet? (h : asOneSet? rs = some r) : r.Flat := by
  obtain ⟨a, _, s, -, -, rfl⟩ := exists_of_asOneSet? h
  exact flat_ofSet a s

/-- **Being flat is kept** by all that is built. -/
theorem closed_flat : Closed Flat where
  empty := .empty
  fail := .oneOf _ _
  append h _ := by
    cases h with
    | literal hne => exact .literal fun hnil => hne (List.append_eq_nil_iff.1 hnil).1
  oneSet _ := flat_asOneSet?
  parts h := by
    cases h with
    | concat _ _ h => exact h
  concat := .concat
  alternation _ := .alternation
  alternatives h := by
    cases h with
    | alternation h => exact h

/-- Whatever the counts are. -/
theorem flat_ofRepetition (min : Nat) (max : Option Nat) (greedy : Bool) (h : r.Flat) :
    (ofRepetition min max greedy r).Flat := by
  have hbuilt (counts : Nat × Option Nat) :
      (if counts.1 = 0 ∧ counts.2 = some 0 then Regex.empty
        else if counts.1 = 1 ∧ counts.2 = some 1 then r
        else .repetition counts.1 counts.2 greedy r).Flat := by
    split
    · exact .empty
    · split
      · exact h
      · exact .repetition _ _ greedy r
  exact hbuilt _

/-- What is empty before the parts of a sequence makes no difference. -/
theorem ofConcat_empty_cons (rs : List Regex) : ofConcat (.empty :: rs) = ofConcat rs := rfl

/-- **A sequence of one part is that part.** -/
theorem ofConcat_singleton (h : r.Flat) : ofConcat [r] = r := by
  cases h with
  | @literal bytes h =>
    have hempty : ¬bytes.isEmpty = true := fun hnil => h (List.isEmpty_iff.1 hnil)
    have hjoined : joinLiterals [] (openConcats [.literal bytes]) = [.literal bytes] := if_neg hempty
    rw [ofConcat, hjoined]
  | @concat parts hmany hjoined h =>
    have hopen : openConcats [.concat parts] = parts := List.append_nil parts
    rw [ofConcat, hopen, hjoined]
    rcases parts with _ | ⟨p, _ | ⟨q, rest⟩⟩
    · cases hmany
    · exact absurd hmany (Nat.lt_irrefl 1)
    · rfl
  | _ => rfl

/-! ## Trees -/

theorem flat_literalRegex (f : Setting) (l : Literal) : (literalRegex f l).Flat := by
  rw [literalRegex_eq]
  dsimp only
  split
  · split
    · exact flat_ofBytes _
    · exact flat_ofSet _ _
  · exact flat_ofBytes _

theorem flat_groupRegex (kind : GroupKind) (h : r.Flat) : (groupRegex kind r).Flat := by
  cases kind with
  | plain => exact h
  | _ => exact .capture _ _ _

mutual

/-- **The expression of a tree is flat.** -/
theorem flat_of_meaning : (t : Tree) → ∀ {f f' : Setting} {r : Regex},
    meaning f t = some (r, f') → r.Flat
  | .empty _, f, f', r, h | .flags _ _ _, f, f', r, h => by
    cases h
    exact .empty
  | .literal l, f, f', r, h => by
    cases h
    exact flat_literalRegex f l
  | .dot _, f, f', r, h | .shorthand _, f, f', r, h => by
    cases h
    exact flat_ofSet _ _
  | .assertion _ _, f, f', r, h => by
    cases h
    exact .look _
  | .property c, f, f', r, h => by
    rw [meaning, ofTree, toOption_bind] at h
    obtain ⟨s, -, h⟩ := Option.bind_eq_some_iff.1 h
    cases h
    exact flat_ofSet _ s
  | .bracketed _ negated set, f, f', r, h => by
    rw [meaning, ofTree, toOption_bind] at h
    obtain ⟨s, -, h⟩ := Option.bind_eq_some_iff.1 h
    cases h
    exact flat_ofSet _ _
  | .repetition _ _ kind greedy sub, f, f', r, h => by
    rw [meaning_repetition] at h
    obtain ⟨⟨q, f₁⟩, hq, h⟩ := Option.map_eq_some_iff.1 h
    cases h
    exact flat_ofRepetition _ _ _ (flat_of_meaning sub hq)
  | .group _ kind sub, f, f', r, h => by
    rw [meaning_group] at h
    obtain ⟨⟨q, f₁⟩, hq, h⟩ := Option.map_eq_some_iff.1 h
    cases h
    exact flat_groupRegex kind (flat_of_meaning sub hq)
  | .alternation _ ts, f, f', r, h => by
    rw [meaning_alternation] at h
    obtain ⟨⟨rs, f₁⟩, hrs, h⟩ := Option.map_eq_some_iff.1 h
    cases h
    exact closed_flat.ofAlternation (flat_of_meanings ts hrs)
  | .concat _ ts, f, f', r, h => by
    rw [meaning_concat] at h
    obtain ⟨⟨rs, f₁⟩, hrs, h⟩ := Option.map_eq_some_iff.1 h
    cases h
    exact closed_flat.ofConcat (flat_of_meanings ts hrs)

theorem flat_of_meanings : (ts : List Tree) → ∀ {f f' : Setting} {rs : List Regex},
    meanings f ts = some (rs, f') → ∀ r ∈ rs, r.Flat
  | [], f, f', rs, h => by
    cases h
    exact fun r hr => absurd hr List.not_mem_nil
  | t :: ts, f, f', rs, h => by
    rw [meanings_cons] at h
    obtain ⟨⟨r, f₁⟩, hr, h⟩ := Option.bind_eq_some_iff.1 h
    obtain ⟨⟨rest, f₂⟩, hrest, h⟩ := Option.map_eq_some_iff.1 h
    cases h
    exact List.forall_mem_cons.2 ⟨flat_of_meaning t hr, flat_of_meanings ts hrest⟩

end

end Regex

end Multiscan
