import Multiscan.Proofs.Regex.EmptyMatches
import Multiscan.Proofs.Syntax.Counts
/-!
# Regex — patterns in simple form

What a pattern asks for is searched in a simple form (`Reading.regex`), other than it
is written (`Reading.written`). By the tree of the pattern one can tell where the simple
form offers the same choices (`Reading.KeepsChoice`): nothing that can match the empty
stretch is repeated without bound, and no front comes before alternatives that can end
in several places. Such a pattern finds in every text in ASCII what it says as it is
written (`Reading.findAll_written`).

Where a front ends in several places the choice may be another one: the text `cb` is
matched by `.??b|.??c` up to its end, and by `.??(?:b|c)` up to the `c`. Of a loop whose
rounds may take nothing nothing is said, for the machine passes over the place that such
a round leads back to.
-/

namespace Multiscan.Regex

open Syntax
open Text (AllAscii Bytes)

variable {bs : Bytes} {r s : Regex} {rs ss : List Regex} {f f' : Setting}

/-! ## What is repeated without bound -/

theorem advancing_writtenRepetition {min : Nat} {max : Option Nat} (greedy : Bool)
    (hr : r.Advancing) (hbound : max = none → r.nullable = false) :
    (writtenRepetition min max greedy r).Advancing := by
  cases max with
  | some max => cases min <;> exact ⟨nofun, hr⟩
  | none =>
    cases min with
    | zero => exact ⟨nofun, hbound, hr⟩
    | succ min => exact ⟨hbound, hr⟩

theorem advancing_literalRegex (f : Setting) (l : Literal) : (literalRegex f l).Advancing := by
  rw [literalRegex_eq]
  dsimp only
  split
  · split
    · exact advancing_ofBytes _
    · exact advancing_ofSet _ _
  · exact advancing_ofBytes _

theorem advancing_groupRegex (kind : GroupKind) (h : r.Advancing) :
    (groupRegex kind r).Advancing := by
  cases kind <;> exact h

theorem nullable_groupRegex (kind : GroupKind) (r : Regex) :
    (groupRegex kind r).nullable = r.nullable := by
  cases kind <;> rfl

theorem SameEnds.groupRegex (kind : GroupKind) (h : SameEnds bs r s) :
    SameEnds bs (groupRegex kind r) (groupRegex kind s) := by
  cases kind <;> exact h

/-! ## Trees -/

namespace Reading

variable {R : Reading}

mutual

/-- Where the simple form of a pattern offers the same choices as the pattern does as
it is written: nothing is repeated without bound that can match the empty stretch, and
no front comes before alternatives that can end in several places. -/
def KeepsChoice (R : Reading) (f : Setting) : Tree → Prop
  | .repetition _ _ kind _ sub =>
    (kind.counts.2 = none → ∀ s, R.written f sub = .ok s → s.nullable = false) ∧
      KeepsChoice R f sub
  | .group _ kind sub => KeepsChoice R (f.inside kind) sub
  | .alternation _ ts =>
    (∀ rs f', R.regexes f ts = .ok (rs, f') → definiteFronts (totalSize rs) rs = true) ∧
      AllKeepChoice R f ts
  | .concat _ ts => AllKeepChoice R f ts
  | _ => True

/-- The same for several trees, each under the setting behind the one before it. -/
def AllKeepChoice (R : Reading) (f : Setting) : List Tree → Prop
  | [] => True
  | t :: ts => KeepsChoice R f t ∧ AllKeepChoice R (f.behind t) ts

end

theorem proper_regex (hR : R.Standard) {t : Tree} (ht : t.Counted)
    (h : R.regex f t = .ok (r, f')) : r.Proper := by
  rcases hR with rfl | rfl
  · exact proper_ofTree t ht (regex_plain f t ▸ h)
  · exact proper_ofTree t.toAscii (counted_toAscii t ht) (regex_ascii f t ▸ h)

theorem proper_regexes (hR : R.Standard) {ts : List Tree} (hts : Tree.AllCounted ts)
    (h : R.regexes f ts = .ok (rs, f')) : ∀ r ∈ rs, r.Proper := by
  rcases hR with rfl | rfl
  · exact allProper_iff.1 (proper_ofTrees ts hts (regexes_plain f ts ▸ h))
  · exact allProper_iff.1 (proper_ofTrees _ (counted_allToAscii ts hts) (regexes_ascii f ts ▸ h))

end Reading

/-- The simple form of what is written: it ends in the same, can match nothing if that
can, and what is repeated without bound takes bytes in both. -/
structure Simplifies (bs : Bytes) (r s : Regex) : Prop where
  sameEnds : SameEnds bs r s
  nullable : r.nullable = s.nullable
  advancing : r.Advancing
  advancing' : s.Advancing

/-- The simple forms of several expressions. -/
structure SimplifiesAll (bs : Bytes) (rs ss : List Regex) : Prop where
  sameEnds : List.Forall₂ (SameEnds bs) rs ss
  all : rs.all nullable = ss.all nullable
  any : rs.any nullable = ss.any nullable
  advancing : ∀ r ∈ rs, r.Advancing
  advancing' : ∀ s ∈ ss, s.Advancing

namespace Simplifies

variable {min : Nat} {max : Option Nat}

theorem refl (bs : Bytes) (hr : r.Advancing) : Simplifies bs r r := ⟨.refl bs r, rfl, hr, hr⟩

theorem repetition (h : Simplifies bs r s) (greedy : Bool) (hr : r.Proper)
    (hcounts : ∀ m ∈ max, min ≤ m) (hbound : max = none → s.nullable = false) :
    Simplifies bs (ofRepetition min max greedy r) (writtenRepetition min max greedy s) where
  sameEnds := by
    refine (sameEnds_ofRepetition min max greedy hr).trans ?_
    refine (h.sameEnds.repetition min max greedy).trans fun pos hpos => ?_
    exact .of_eq (ends_writtenRepetition min max greedy hbound hpos).symm
  nullable := by rw [nullable_ofRepetition, nullable_writtenRepetition, h.nullable]
  advancing := by
    refine closed_advancing.ofRepetition h.advancing hcounts fun _ hnone =>
      ⟨fun hmost => ?_, h.advancing⟩
    rw [h.nullable]
    exact hbound (hnone hmost)
  advancing' := advancing_writtenRepetition greedy h.advancing' hbound

theorem group (h : Simplifies bs r s) (kind : GroupKind) :
    Simplifies bs (groupRegex kind r) (groupRegex kind s) where
  sameEnds := h.sameEnds.groupRegex kind
  nullable := by rw [nullable_groupRegex, nullable_groupRegex, h.nullable]
  advancing := advancing_groupRegex kind h.advancing
  advancing' := advancing_groupRegex kind h.advancing'

theorem concat (h : SimplifiesAll bs rs ss) : Simplifies bs (ofConcat rs) (.concat ss) where
  sameEnds := (sameEnds_ofConcat rs).trans (.concat h.sameEnds)
  nullable := by rw [nullable_ofConcat, Regex.nullable, allNullable_eq, h.all]
  advancing := closed_advancing.ofConcat h.advancing
  advancing' := allAdvancing_iff.2 h.advancing'

theorem alternation (hbs : AllAscii bs) (h : SimplifiesAll bs rs ss)
    (hproper : ∀ r ∈ rs, r.Proper) (hfronts : definiteFronts (totalSize rs) rs = true) :
    Simplifies bs (ofAlternation rs) (.alternation ss) where
  sameEnds := (sameEnds_factorAlternation hbs _ hproper h.advancing hfronts).trans
    (.alternation h.sameEnds)
  nullable := (nullable_factorAlternation _ rs).trans (h.any.trans (anyNullable_eq ss).symm)
  advancing := closed_advancing.ofAlternation h.advancing
  advancing' := allAdvancing_iff.2 h.advancing'

end Simplifies

theorem SimplifiesAll.nil (bs : Bytes) : SimplifiesAll bs [] [] := ⟨.nil, rfl, rfl, nofun, nofun⟩

theorem SimplifiesAll.cons (h : Simplifies bs r s) (hrest : SimplifiesAll bs rs ss) :
    SimplifiesAll bs (r :: rs) (s :: ss) where
  sameEnds := .cons h.sameEnds hrest.sameEnds
  all := by rw [List.all_cons, List.all_cons, h.nullable, hrest.all]
  any := by rw [List.any_cons, List.any_cons, h.nullable, hrest.any]
  advancing := List.forall_mem_cons.2 ⟨h.advancing, hrest.advancing⟩
  advancing' := List.forall_mem_cons.2 ⟨h.advancing', hrest.advancing'⟩

namespace Reading

variable {R : Reading}

mutual

/-- **The expression of a tree simplifies what is written**, where the choices stay. -/
theorem simplifies_regex (hbs : AllAscii bs) (hR : R.Standard) : (t : Tree) → t.Counted →
    ∀ {f f' : Setting} {r s : Regex}, R.KeepsChoice f t → R.regex f t = .ok (r, f') →
    R.written f t = .ok s → Simplifies bs r s
  | .empty _, _, f, f', r, s, _, h, h' | .flags _ _ _, _, f, f', r, s, _, h, h'
  | .assertion _ _, _, f, f', r, s, _, h, h' => by
    obtain ⟨rfl, -⟩ := Prod.mk.inj (Except.ok.inj h)
    obtain rfl := Except.ok.inj h'
    exact .refl bs trivial
  | .literal l, _, f, f', r, s, _, h, h' => by
    obtain ⟨rfl, -⟩ := Prod.mk.inj (Except.ok.inj h)
    obtain rfl := Except.ok.inj h'
    exact .refl bs (advancing_literalRegex f l)
  | .dot _, _, f, f', r, s, _, h, h' | .shorthand _, _, f, f', r, s, _, h, h' => by
    obtain ⟨rfl, -⟩ := Prod.mk.inj (Except.ok.inj h)
    obtain rfl := Except.ok.inj h'
    exact .refl bs (advancing_ofSet _ _)
  | .property c, _, f, f', r, s, _, h, h' | .bracketed _ _ _, _, f, f', r, s, _, h, h' => by
    obtain ⟨_, hr, hs⟩ := bind_eq_ok.1 h'
    obtain rfl := Except.ok.inj hs
    obtain rfl := Except.ok.inj (hr.symm.trans h)
    obtain ⟨_, -, h⟩ := bind_eq_ok.1 h
    obtain ⟨rfl, -⟩ := Prod.mk.inj (Except.ok.inj h)
    exact .refl bs (advancing_ofSet _ _)
  | .repetition _ _ kind greedy sub, hcounted, f, f', r, s, ⟨hbound, hsub⟩, h, h' => by
    obtain ⟨⟨q, f₁⟩, hq, h⟩ := bind_eq_ok.1 h
    obtain ⟨rfl, -⟩ := Prod.mk.inj (Except.ok.inj h)
    obtain ⟨q', hq', h'⟩ := bind_eq_ok.1 h'
    obtain rfl := Except.ok.inj h'
    obtain ⟨rfl, -⟩ := written_of_regex sub hq
    exact (simplifies_regex hbs hR sub hcounted.2 hsub hq hq').repetition _
      (proper_regex hR hcounted.2 hq) (counts_of_isValid hcounted.1)
      fun hnone => hbound hnone q' hq'
  | .group _ kind sub, hcounted, f, f', r, s, hsub, h, h' => by
    obtain ⟨⟨q, f₁⟩, hq, h⟩ := bind_eq_ok.1 h
    obtain ⟨rfl, -⟩ := Prod.mk.inj (Except.ok.inj h)
    obtain ⟨q', hq', h'⟩ := bind_eq_ok.1 h'
    obtain rfl := Except.ok.inj h'
    exact (simplifies_regex hbs hR sub hcounted hsub hq hq').group kind
  | .alternation _ ts, hcounted, f, f', r, s, ⟨hfronts, hts⟩, h, h' => by
    obtain ⟨⟨rs, f₁⟩, hrs, h⟩ := bind_eq_ok.1 h
    obtain ⟨rfl, -⟩ := Prod.mk.inj (Except.ok.inj h)
    obtain ⟨ss, hss, h'⟩ := bind_eq_ok.1 h'
    obtain rfl := Except.ok.inj h'
    exact .alternation hbs (simplifies_regexes hbs hR ts hcounted hts hrs hss)
      (proper_regexes hR hcounted hrs) (hfronts rs f₁ hrs)
  | .concat _ ts, hcounted, f, f', r, s, hts, h, h' => by
    obtain ⟨⟨rs, f₁⟩, hrs, h⟩ := bind_eq_ok.1 h
    obtain ⟨rfl, -⟩ := Prod.mk.inj (Except.ok.inj h)
    obtain ⟨ss, hss, h'⟩ := bind_eq_ok.1 h'
    obtain rfl := Except.ok.inj h'
    exact .concat (simplifies_regexes hbs hR ts hcounted hts hrs hss)

theorem simplifies_regexes (hbs : AllAscii bs) (hR : R.Standard) : (ts : List Tree) →
    Tree.AllCounted ts → ∀ {f f' : Setting} {rs ss : List Regex}, R.AllKeepChoice f ts →
    R.regexes f ts = .ok (rs, f') → R.writtens f ts = .ok ss → SimplifiesAll bs rs ss
  | [], _, f, f', rs, ss, _, h, h' => by
    obtain ⟨rfl, -⟩ := Prod.mk.inj (Except.ok.inj h)
    obtain rfl := Except.ok.inj h'
    exact .nil bs
  | t :: ts, hcounted, f, f', rs, ss, ⟨ht, hts⟩, h, h' => by
    obtain ⟨⟨r, f₁⟩, hr, h⟩ := bind_eq_ok.1 h
    obtain ⟨⟨rest, f₂⟩, hrest, h⟩ := bind_eq_ok.1 h
    obtain ⟨rfl, -⟩ := Prod.mk.inj (Except.ok.inj h)
    obtain ⟨s, hs, h'⟩ := bind_eq_ok.1 h'
    obtain ⟨rest', hrest', h'⟩ := bind_eq_ok.1 h'
    obtain rfl := Except.ok.inj h'
    obtain ⟨rfl, -⟩ := written_of_regex t hr
    exact .cons (simplifies_regex hbs hR t hcounted.1 ht hr hs)
      (simplifies_regexes hbs hR ts hcounted.2 hts hrest hrest')

end

/-- **A pattern finds what it says as it is written**, where the choices stay. -/
theorem findAll_written {pattern : List Char} {word : UInt32} (hbs : AllAscii bs)
    (hR : R.Standard)
    (hkeeps : ∀ tree, Tree.ofPattern? (Pattern.spelled pattern word) = .ok tree →
      R.KeepsChoice (Pattern.setting word) tree)
    (h : R.parse pattern word = .ok r) (h' : R.parseWritten pattern word = .ok s) (whole : Bool) :
    findAll bs whole r = findAll bs whole s := by
  obtain ⟨tree, htree, h⟩ := bind_eq_ok.1 h
  obtain ⟨⟨q, f⟩, hq, h⟩ := bind_eq_ok.1 h
  obtain rfl := Except.ok.inj h
  obtain ⟨tree', htree', hs⟩ := bind_eq_ok.1 h'
  obtain rfl := Except.ok.inj (htree.symm.trans htree')
  have hsimple := simplifies_regex hbs hR tree (counted_ofPattern? htree) (hkeeps tree htree) hq hs
  exact findAll_sameEnds hbs hsimple.advancing hsimple.advancing' hsimple.sameEnds whole whole

end Reading

end Multiscan.Regex
