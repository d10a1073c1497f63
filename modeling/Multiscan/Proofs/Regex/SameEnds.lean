import Multiscan.Proofs.Regex.Backtracking
import Multiscan.Proofs.Regex.Lockstep
/-!
# Regex — expressions that end in the same

Of the ends of matches only one is found: the first with which what follows can go
on. Two lists of offsets that never differ in this offer the `SameChoice`. They need
not be equal; an offset behind an earlier one that equals it is never chosen.

Expressions that offer the same choice wherever a match may start have the
`SameEnds`. This passes from parts to wholes, and such expressions find the same
(`search_sameEnds`), as long as the machine finds what comes first in both.
-/

namespace Multiscan.Regex

open Text (AllAscii Bytes)

/-! ## Choices -/

/-- Whatever is asked of the offsets of two lists, the first answer is the same. -/
def SameChoice (l l' : List Nat) : Prop := ∀ f : Nat → Option Nat, l.findSome? f = l'.findSome? f

namespace SameChoice

variable {l l' l'' m m' : List Nat} {f f' : Nat → List Nat} {a : Nat}

theorem refl (l : List Nat) : SameChoice l l := fun _ => rfl

theorem of_eq (h : l = l') : SameChoice l l' := h ▸ refl l

theorem symm (h : SameChoice l l') : SameChoice l' l := fun f => (h f).symm

theorem trans (h : SameChoice l l') (h' : SameChoice l' l'') : SameChoice l l'' :=
  fun f => (h f).trans (h' f)

theorem findSome?_flatMap (l : List Nat) (f : Nat → List Nat) (g : Nat → Option Nat) :
    (l.flatMap f).findSome? g = l.findSome? fun q => (f q).findSome? g := by
  induction l with
  | nil => rfl
  | cons q l ih =>
    rw [List.flatMap_cons, List.findSome?_append, ih, List.findSome?_cons]
    cases (f q).findSome? g <;> rfl

theorem findSome?_congr {l : List Nat} {α : Type} {f g : Nat → Option α}
    (h : ∀ q ∈ l, f q = g q) : l.findSome? f = l.findSome? g := by
  induction l with
  | nil => rfl
  | cons q l ih =>
    obtain ⟨hq, hl⟩ := List.forall_mem_cons.1 h
    rw [List.findSome?_cons, List.findSome?_cons, hq, ih hl]

/-- What comes first of both is the same. -/
theorem head? (h : SameChoice l l') : l.head? = l'.head? := by
  have hfirst : ∀ l : List Nat, l.head? = l.findSome? some := fun l => by cases l <;> rfl
  rw [hfirst, hfirst, h some]

theorem append (h : SameChoice l l') (h' : SameChoice m m') : SameChoice (l ++ m) (l' ++ m') := by
  intro f
  rw [List.findSome?_append, List.findSome?_append, h f, h' f]

theorem prefer {greedy : Bool} (h : SameChoice l l') (h' : SameChoice m m') :
    SameChoice (prefer greedy l m) (prefer greedy l' m') := by
  cases greedy
  · exact h'.append h
  · exact h.append h'

/-- What follows may differ as long as it offers the same choice. -/
theorem flatMap (h : SameChoice l l') (hf : ∀ q ∈ l', SameChoice (f q) (f' q)) :
    SameChoice (l.flatMap f) (l'.flatMap f') := by
  intro g
  rw [findSome?_flatMap, findSome?_flatMap, h]
  exact findSome?_congr fun q hq => hf q hq g

/-- Lists of one offset only differ in how often they offer it. -/
theorem of_single (h : ∀ q ∈ l, q = a) (h' : ∀ q ∈ l', q = a) (hmem : a ∈ l ↔ a ∈ l') :
    SameChoice l l' := by
  have hone : ∀ {l : List Nat}, (∀ q ∈ l, q = a) → SameChoice l (if a ∈ l then [a] else []) := by
    intro l hl f
    induction l with
    | nil => rfl
    | cons q l ih =>
      obtain ⟨rfl, hrest⟩ := List.forall_mem_cons.1 hl
      rw [if_pos List.mem_cons_self, List.findSome?_cons, List.findSome?_cons, ih hrest]
      cases hq : f q with
      | some _ => rfl
      | none => split <;> simp [hq]
  have hsame := hone h
  simp only [hmem] at hsame
  exact hsame.trans (hone h').symm

end SameChoice

/-! ## Ends -/

/-- Two expressions offer the same choice wherever a match may start. -/
def SameEnds (bs : Bytes) (r r' : Regex) : Prop :=
  ∀ pos ≤ bs.size, SameChoice (ends bs r pos) (ends bs r' pos)

variable {bs : Bytes} {r r' : Regex} {rs rs' : List Regex} {f f' : Nat → List Nat} {pos n : Nat}
variable {greedy : Bool}

theorem sameChoice_exactly (hf : ∀ pos ≤ bs.size, SameChoice (f pos) (f' pos))
    (hle : ∀ {i j}, j ∈ f' i → i ≤ bs.size → j ≤ bs.size) (hpos : pos ≤ bs.size) :
    SameChoice (exactly f n pos) (exactly f' n pos) := by
  induction n generalizing pos with
  | zero => exact .refl _
  | succ n ih => exact (hf pos hpos).flatMap fun q hq => ih (hle hq hpos)

theorem sameChoice_atMost (hf : ∀ pos ≤ bs.size, SameChoice (f pos) (f' pos))
    (hle : ∀ {i j}, j ∈ f' i → i ≤ bs.size → j ≤ bs.size) (hpos : pos ≤ bs.size) :
    SameChoice (atMost f greedy n pos) (atMost f' greedy n pos) := by
  induction n generalizing pos with
  | zero => exact .refl _
  | succ n ih => exact .prefer ((hf pos hpos).flatMap fun q hq => ih (hle hq hpos)) (.refl _)

theorem le_size_of_mem_exactly (hle : ∀ {i j}, j ∈ f i → i ≤ bs.size → j ≤ bs.size)
    (hpos : pos ≤ bs.size) : ∀ q ∈ exactly f n pos, q ≤ bs.size := by
  intro q hq
  have htimes := times_of_mem_exactly (P := fun i j => i ≤ bs.size → j ≤ bs.size) hle hq
  exact le_size_of_times (fun h => h) htimes hpos

namespace SameEnds

theorem refl (bs : Bytes) (r : Regex) : SameEnds bs r r := fun _ _ => .refl _

theorem trans {r'' : Regex} (h : SameEnds bs r r') (h' : SameEnds bs r' r'') :
    SameEnds bs r r'' := fun pos hpos => (h pos hpos).trans (h' pos hpos)

theorem repetition (min : Nat) (max : Option Nat) (greedy : Bool) (h : SameEnds bs r r') :
    SameEnds bs (.repetition min max greedy r) (.repetition min max greedy r') := by
  intro pos hpos
  refine (sameChoice_exactly h le_size_of_mem_ends hpos).flatMap fun q hq => ?_
  exact sameChoice_atMost h le_size_of_mem_ends
    (le_size_of_mem_exactly le_size_of_mem_ends hpos q hq)

theorem concat (h : List.Forall₂ (SameEnds bs) rs rs') :
    SameEnds bs (.concat rs) (.concat rs') := by
  induction h with
  | nil => exact .refl bs _
  | cons hr _ ih =>
    exact fun pos hpos => (hr pos hpos).flatMap fun q hq => ih q (le_size_of_mem_ends hq hpos)

theorem alternation (h : List.Forall₂ (SameEnds bs) rs rs') :
    SameEnds bs (.alternation rs) (.alternation rs') := by
  induction h with
  | nil => exact .refl bs _
  | cons hr _ ih => exact fun pos hpos => (hr pos hpos).append (ih pos hpos)

end SameEnds

/-! ## What is found -/

/-- **Expressions that end in the same find the same**, where the machine finds what
comes first. -/
theorem search_sameEnds (hr : r.Advancing) (hr' : r'.Advancing) (h : SameEnds bs r r')
    (start : Nat) : search bs r start = search bs r' start := by
  rw [search_eq hr, search_eq hr']
  refine SameChoice.findSome?_congr fun pos hpos => ?_
  obtain ⟨hge, hlt⟩ := List.mem_range'_1.1 hpos
  rw [(h pos (by omega)).head?]

/-- All that is found of text in ASCII is the same. -/
theorem findAll_sameEnds (hbs : AllAscii bs) (hr : r.Advancing) (hr' : r'.Advancing)
    (h : SameEnds bs r r') (whole whole' : Bool) : findAll bs whole r = findAll bs whole' r' :=
  findAll_of_ascii hbs (search_sameEnds hr hr' h) whole whole'

end Multiscan.Regex
