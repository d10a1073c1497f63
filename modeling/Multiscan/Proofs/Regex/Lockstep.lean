import Mathlib.Data.List.Forall2
import Multiscan.Proofs.Regex.Progress
import Multiscan.Proofs.Text.Ascii
/-!
# Regex — two expressions in lockstep

Two expressions of one shape that differ in single items only, and in such that
do the same at every offset of some bytes, are `Alike` there. Machines that run
them stand at places of the same name and take the same steps (`step_alike`). So
they have tried the same places when they come to the same fork, and all that is
found is the same (`findAll_alike`), in ASCII whether characters must stay whole
or not.
-/

namespace Multiscan.Regex

open Text (AllAscii Bytes)

variable {bs : Bytes} {r r' : Regex} {rs rs' : List Regex} {s s' : List Frame} {pos start : Nat}

/-! ## Expressions, frames and steps -/

/-- The step of a single item: the machine goes on at an offset, or not at all. -/
def goOn : Option Nat → List Frame → Step
  | some pos, k => .move k pos
  | none, _ => .dead

/-- Expressions of one shape, in which single items may differ as long as they
do the same. A repetition from none on without bound is none of these: what it
does depends on the lengths that are known of what is repeated. -/
inductive Alike (bs : Bytes) : Regex → Regex → Prop
  | single {r r' : Regex} (next : Nat → Option Nat)
    (h : ∀ pos ≤ bs.size, ∀ k, runStep bs pos r k = goOn (next pos) k)
    (h' : ∀ pos ≤ bs.size, ∀ k, runStep bs pos r' k = goOn (next pos) k) : Alike bs r r'
  | bounded {r r' : Regex} (min max : Nat) (greedy : Bool) (h : Alike bs r r') :
    Alike bs (.repetition min (some max) greedy r) (.repetition min (some max) greedy r')
  | unbounded {r r' : Regex} (min : Nat) (greedy : Bool) (h : Alike bs r r') :
    Alike bs (.repetition (min + 1) none greedy r) (.repetition (min + 1) none greedy r')
  | capture {r r' : Regex} (index : Nat) (name : Option String) (h : Alike bs r r') :
    Alike bs (.capture index name r) (.capture index name r')
  | concat {rs rs' : List Regex} (h : List.Forall₂ (Alike bs) rs rs') :
    Alike bs (.concat rs) (.concat rs')
  | alternation {rs rs' : List Regex} (h : List.Forall₂ (Alike bs) rs rs') :
    Alike bs (.alternation rs) (.alternation rs')

/-- Frames of one kind with expressions that are alike. -/
inductive Frame.Alike (bs : Bytes) : Frame → Frame → Prop
  | run {r r' : Regex} (h : Regex.Alike bs r r') : Frame.Alike bs (.run r) (.run r')
  | parts {rs rs' : List Regex} (h : List.Forall₂ (Regex.Alike bs) rs rs') :
    Frame.Alike bs (.parts rs) (.parts rs')
  | choice {rs rs' : List Regex} (k : Nat) (h : List.Forall₂ (Regex.Alike bs) rs rs') :
    Frame.Alike bs (.choice k rs) (.choice k rs')
  | branch (k : Nat) : Frame.Alike bs (.branch k) (.branch k)
  | copies {r r' : Regex} (left : Nat) (h : Regex.Alike bs r r') :
    Frame.Alike bs (.copies r left) (.copies r' left)
  | options {r r' : Regex} (greedy : Bool) (left : Nat) (h : Regex.Alike bs r r') :
    Frame.Alike bs (.options r greedy left) (.options r' greedy left)
  | loop {r r' : Regex} (greedy : Bool) (entered : Option Nat) (h : Regex.Alike bs r r') :
    Frame.Alike bs (.loop r greedy entered) (.loop r' greedy entered)

/-- Stacks of frames that are alike. -/
abbrev StackAlike (bs : Bytes) : List Frame → List Frame → Prop := List.Forall₂ (Frame.Alike bs)

/-- Steps of one kind to stacks that are alike. -/
inductive Step.Alike (bs : Bytes) : Step → Step → Prop
  | accept : Step.Alike bs .accept .accept
  | dead : Step.Alike bs .dead .dead
  | move {s s' : List Frame} (pos : Nat) (h : StackAlike bs s s') :
    Step.Alike bs (.move s pos) (.move s' pos)
  | fork {a a' b b' : List Frame} (ha : StackAlike bs a a') (hb : StackAlike bs b b') :
    Step.Alike bs (.fork a b) (.fork a' b')

/-! ## One step -/

theorem code_eq {f f' : Frame} (h : f.Alike bs f') : f.code = f'.code := by
  cases h with
  | parts h => rw [Frame.code, Frame.code, h.length_eq]
  | _ => rfl

/-- **Stacks that are alike** stand at places of the same name. -/
theorem place_eq (h : StackAlike bs s s') : place s = place s' := by
  have hmap : List.Forall₂ (fun f f' => f.code = f'.code) s s' := h.imp fun _ _ => code_eq
  rw [place, place, ← List.forall₂_eq_eq_eq, List.forall₂_map_left_iff,
    List.forall₂_map_right_iff]
  exact hmap

theorem forkOf_alike (greedy : Bool) {a a' b b' : List Frame} (ha : StackAlike bs a a')
    (hb : StackAlike bs b b') : (forkOf greedy a b).Alike bs (forkOf greedy a' b') := by
  cases greedy
  · exact .fork hb ha
  · exact .fork ha hb

theorem runStep_alike (hpos : pos ≤ bs.size) (h : Alike bs r r') (hs : StackAlike bs s s') :
    (runStep bs pos r s).Alike bs (runStep bs pos r' s') := by
  cases h with
  | single next h h' =>
    rw [h pos hpos, h' pos hpos]
    cases next pos with
    | none => exact .dead
    | some pos' => exact .move pos' hs
  | bounded min max greedy h =>
    exact .move pos (.cons (.copies min h) (.cons (.options greedy (max - min) h) hs))
  | unbounded min greedy h =>
    exact .move pos (.cons (.copies min h) (.cons (.run h) (.cons (.loop greedy none h) hs)))
  | capture index name h => exact .move pos (.cons (.run h) (.cons (.branch 0) hs))
  | concat h => exact .move pos (.cons (.parts h) hs)
  | alternation h => exact .move pos (.cons (.choice 0 h) hs)

/-- **Machines whose stacks are alike** take the same step. -/
theorem step_alike (hpos : pos ≤ bs.size) (h : StackAlike bs s s') :
    (step bs pos s).Alike bs (step bs pos s') := by
  cases h with
  | nil => exact .accept
  | cons hf hs =>
    cases hf with
    | run h => exact runStep_alike hpos h hs
    | parts h =>
      cases h with
      | nil => exact .move pos hs
      | cons hr hrs => exact .move pos (.cons (.run hr) (.cons (.parts hrs) hs))
    | choice k h =>
      cases h with
      | nil => exact .dead
      | cons hr hrs =>
        exact .fork (.cons (.run hr) (.cons (.branch k) hs)) (.cons (.choice (k + 1) hrs) hs)
    | branch k => exact .move pos hs
    | copies left h =>
      cases left with
      | zero => exact .move pos hs
      | succ left => exact .move pos (.cons (.run h) (.cons (.copies left h) hs))
    | options greedy left h =>
      cases left with
      | zero => exact .move pos hs
      | succ left =>
        exact forkOf_alike greedy (.cons (.run h) (.cons (.options greedy left h) hs)) hs
    | loop greedy entered h =>
      rw [step, step]
      split
      · exact .move pos hs
      · exact forkOf_alike greedy (.cons (.run h) (.cons (.loop greedy (some pos) h) hs)) hs

/-! ## Runs -/

/-- Exploring from stacks that are alike tries the same places and comes to the
same end. -/
theorem explore_alike {s s' : List Frame} {pos : Nat} (h : StackAlike bs s s')
    (hpos : pos ≤ bs.size) (tried : Tried) : explore bs pos s tried = explore bs pos s' tried := by
  have hdec := decreases_step bs pos s
  have halike := step_alike hpos h
  rw [explore_eq, explore_eq bs pos s', place_eq h]
  split
  · rfl
  · generalize step bs pos s = next at hdec halike
    generalize step bs pos s' = next' at halike
    cases halike with
    | accept => rfl
    | dead => rfl
    | move pos' h₁ =>
      have hle : pos' ≤ bs.size := by
        rcases hdec with ⟨-, hle⟩ | ⟨rfl, -⟩
        · exact hle
        · exact hpos
      exact explore_alike h₁ hle _
    | fork ha hb =>
      dsimp only
      rw [explore_alike ha hpos]
      split
      · rfl
      · exact explore_alike hb hpos _
termination_by (bs.size - pos, weight pos s)
decreasing_by
  · rcases hdec with hfurther | ⟨rfl, hlighter⟩
    · exact Prod.Lex.left _ _ (by omega)
    · exact Prod.Lex.right _ hlighter
  · exact Prod.Lex.right _ hdec.1
  · exact Prod.Lex.right _ hdec.2

theorem search_alike (h : Alike bs r r') (start : Nat) : search bs r start = search bs r' start := by
  have hfrom : ∀ (count start : Nat) (tried : Tried), start + count ≤ bs.size + 1 →
      searchFrom bs r count start tried = searchFrom bs r' count start tried := by
    intro count
    induction count with
    | zero => exact fun _ _ _ => rfl
    | succ count ih =>
      intro start tried hle
      rw [searchFrom, searchFrom, explore_alike (.cons (.run h) .nil) (by omega)]
      split
      · rfl
      · exact ih (start + 1) _ (by omega)
  rcases Nat.lt_or_ge bs.size start with hlt | hge
  · rw [search, search, show bs.size + 1 - start = 0 by omega]
    rfl
  · exact hfrom _ start ∅ (by omega)

/-! ## All that is found -/

/-- In ASCII, characters are whole wherever a match ends. -/
theorem find_of_ascii (hbs : AllAscii bs) (whole : Bool) (r : Regex) (start : Nat) :
    find bs whole r start = search bs r start := by
  rw [find]
  split
  · rcases Nat.lt_or_ge bs.size start with hlt | hge
    · rw [search, show bs.size + 1 - start = 0 by omega]
      rfl
    · obtain ⟨fuel, hfuel⟩ : ∃ fuel, bs.size + 1 - start = fuel + 1 := ⟨bs.size - start, by omega⟩
      rw [hfuel, searchWhole]
      split
      · next hnone => exact hnone.symm
      · next from_ stop hfound =>
        have hstop := (search_bounds hfound).2.2
        rw [if_pos (Text.isBoundary_of_ascii hbs hstop), hfound]
  · rfl

/-- Expressions that find the same from every offset find the same of text in ASCII. -/
theorem findAll_of_ascii (hbs : AllAscii bs)
    (h : ∀ start, search bs r start = search bs r' start) (whole whole' : Bool) :
    findAll bs whole r = findAll bs whole' r' := by
  have hfind : ∀ start, find bs whole r start = find bs whole' r' start := by
    intro start
    rw [find_of_ascii hbs, find_of_ascii hbs, h]
  have hfrom : ∀ (fuel start : Nat) (last : Option Nat),
      findFrom bs whole r fuel start last = findFrom bs whole' r' fuel start last := by
    intro fuel
    induction fuel with
    | zero => exact fun _ _ => rfl
    | succ fuel ih =>
      intro start last
      rw [findFrom, findFrom, hfind start, hfind (start + 1)]
      simp only [ih]
  exact hfrom _ 0 none

/-- **All that expressions find that are alike** is the same. -/
theorem findAll_alike (hbs : AllAscii bs) (h : Alike bs r r') (whole whole' : Bool) :
    findAll bs whole r = findAll bs whole' r' :=
  findAll_of_ascii hbs (search_alike h) whole whole'

end Multiscan.Regex
