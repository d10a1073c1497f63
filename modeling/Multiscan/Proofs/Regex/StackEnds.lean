import Multiscan.Proofs.Regex.Ends
/-!
# Regex — where stacks end

A stack of frames ends where matches of its frames end, one behind the other
(`stackEnds`). A step of the machine changes nothing of it (`keepsEnds_step`): the
sides of a fork share the ends of the stack before it, the first of them having the
ones that are preferred.

What is still to be matched is also what the name of a place says. Stacks of one
expression at places of one name differ at most in where their loops were entered
(`Over.unique`), and so they end in the same.
-/

namespace Multiscan.Regex

open Text (Bytes)

variable {bs : Bytes} {root r x y : Regex} {rs : List Regex} {f : Frame} {s s' k : List Frame}
variable {pos pos' : Nat}

/-! ## Where stacks end -/

/-- Where matches of what a frame asks for end. -/
def Frame.ends (bs : Bytes) : Frame → Nat → List Nat
  | .run r => Regex.ends bs r
  | .parts rs => endsAll bs rs
  | .choice _ rs => endsAny bs rs
  | .branch _ => fun pos => [pos]
  | .copies r left => exactly (Regex.ends bs r) left
  | .options r greedy left => atMost (Regex.ends bs r) greedy left
  | .loop r greedy _ => atMost (Regex.ends bs r) greedy bs.size

/-- Where matches of all the frames of a stack end, one behind the other. -/
def stackEnds (bs : Bytes) : List Frame → Nat → List Nat
  | [] => fun pos => [pos]
  | f :: k => fun pos => (f.ends bs pos).flatMap (stackEnds bs k)

theorem stackEnds_cons (f : Frame) (k : List Frame) (pos : Nat) :
    stackEnds bs (f :: k) pos = (f.ends bs pos).flatMap (stackEnds bs k) := rfl

/-! ## What a place says -/

/-- A loop that has not been entered. -/
def Frame.reset : Frame → Frame
  | .loop r greedy _ => .loop r greedy none
  | f => f

/-- A frame stands for what is left of an expression, and the frames over it are for
another. -/
inductive Frame.Belongs (x : Regex) : Frame → Regex → Prop
  | run : Belongs x (.run x) x
  | copies (left : Nat) : Belongs x (.copies x left) x
  | parts (front rest : List Regex) (h : x = .concat (front ++ rest)) :
    Belongs x (.parts rest) (front.getLast?.getD .empty)
  | choice (front rest : List Regex) (h : x = .alternation (front ++ rest)) :
    Belongs x (.choice front.length rest) .empty
  | branch (front : List Regex) (r : Regex) (rest : List Regex)
    (h : x = .alternation (front ++ r :: rest)) : Belongs x (.branch front.length) r
  | number {index : Nat} {name : Option String} {sub : Regex} (h : x = .capture index name sub) :
    Belongs x (.branch 0) sub
  | options {min : Nat} {max : Option Nat} {greedy : Bool} {sub : Regex} (left : Nat)
    (h : x = .repetition min max greedy sub) : Belongs x (.options sub greedy left) sub
  | loop {min : Nat} {greedy : Bool} {sub : Regex} (entered : Option Nat)
    (h : x = .repetition min none greedy sub) : Belongs x (.loop sub greedy entered) sub

/-- A stack stands in an expression, and the frames over it would be for another. -/
inductive Over (root : Regex) : List Frame → Regex → Prop
  | nil : Over root [] root
  | cons {f : Frame} {k : List Frame} {x y : Regex} (h : Over root k x) (hf : f.Belongs x y) :
    Over root (f :: k) y

/-- Two frames of an expression with one code differ at most in where a loop was
entered. -/
theorem Frame.Belongs.unique {f' : Frame} {y' : Regex} (h : f.Belongs x y) (h' : f'.Belongs x y')
    (hcode : f.code = f'.code) : f.reset = f'.reset ∧ y = y' := by
  cases h <;> cases h' <;> simp only [Frame.code] at hcode <;> try omega
  case run.run => exact ⟨rfl, rfl⟩
  case copies.copies left left' =>
    obtain rfl : left = left' := by omega
    exact ⟨rfl, rfl⟩
  case parts.parts front rest h front' rest' h' =>
    obtain ⟨rfl, rfl⟩ := List.append_inj' (Regex.concat.inj (h.symm.trans h')) (by omega)
    exact ⟨rfl, rfl⟩
  case choice.choice front rest h front' rest' h' =>
    obtain ⟨rfl, rfl⟩ := List.append_inj (Regex.alternation.inj (h.symm.trans h')) (by omega)
    exact ⟨rfl, rfl⟩
  case branch.branch front rest h front' rest' h' =>
    obtain ⟨rfl, hrest⟩ := List.append_inj (Regex.alternation.inj (h.symm.trans h')) (by omega)
    exact ⟨rfl, (List.cons.inj hrest).1⟩
  case branch.number h _ _ h' => exact nomatch h.symm.trans h'
  case number.branch h _ _ h' => exact nomatch h.symm.trans h'
  case number.number h _ _ h' => exact ⟨rfl, (Regex.capture.inj (h.symm.trans h')).2.2⟩
  case options.options left h _ _ _ left' h' =>
    obtain ⟨-, -, rfl, rfl⟩ := Regex.repetition.inj (h.symm.trans h')
    obtain rfl : left = left' := by omega
    exact ⟨rfl, rfl⟩
  case loop.loop h _ _ _ h' =>
    obtain ⟨-, -, rfl, rfl⟩ := Regex.repetition.inj (h.symm.trans h')
    exact ⟨rfl, rfl⟩

/-- **The name of a place says what is still to be matched there.** -/
theorem Over.unique {s' : List Frame} {y' : Regex} (h : Over root s y) (h' : Over root s' y')
    (hplace : place s = place s') : s.map Frame.reset = s'.map Frame.reset ∧ y = y' := by
  induction h generalizing s' y' with
  | nil =>
    cases h' with
    | nil => exact ⟨rfl, rfl⟩
    | cons _ _ => cases hplace
  | cons h hf ih =>
    cases h' with
    | nil => cases hplace
    | cons h' hf' =>
      obtain ⟨hcode, hrest⟩ := List.cons.inj hplace
      obtain ⟨hreset, rfl⟩ := ih h' hrest
      obtain ⟨hframe, hy⟩ := hf.unique hf' hcode
      exact ⟨congrArg₂ List.cons hframe hreset, hy⟩

theorem stackEnds_reset (s : List Frame) : stackEnds bs (s.map Frame.reset) = stackEnds bs s := by
  induction s with
  | nil => rfl
  | cons f k ih =>
    rw [List.map_cons, stackEnds, stackEnds, ih]
    cases f <;> rfl

/-- Stacks at one place end in the same. -/
theorem Over.ends_eq {s' : List Frame} {y' : Regex} (h : Over root s y) (h' : Over root s' y')
    (hplace : place s = place s') : stackEnds bs s = stackEnds bs s' := by
  rw [← stackEnds_reset s, (h.unique h' hplace).1, stackEnds_reset]

/-- What is repeated without bound in a frame takes bytes. -/
def Frame.Advancing : Frame → Prop
  | .run r | .copies r _ | .options r _ _ => r.Advancing
  | .parts rs | .choice _ rs => AllAdvancing rs
  | .branch _ => True
  | .loop r _ _ => r.nullable = false ∧ r.Advancing

theorem Frame.Belongs.advancing (h : f.Belongs x y) (hx : x.Advancing) :
    f.Advancing ∧ y.Advancing := by
  cases h with
  | run | copies => exact ⟨hx, hx⟩
  | parts front rest h =>
    subst h
    have hparts := allAdvancing_iff.1 hx
    refine ⟨allAdvancing_iff.2 fun r hr => hparts r (List.mem_append_right _ hr), ?_⟩
    cases hlast : front.getLast? with
    | none => trivial
    | some r => exact hparts r (List.mem_append_left _ (List.mem_of_getLast? hlast))
  | choice front rest h =>
    subst h
    exact ⟨allAdvancing_iff.2 fun r hr => allAdvancing_iff.1 hx r (List.mem_append_right _ hr),
      trivial⟩
  | branch front _ rest h =>
    subst h
    exact ⟨trivial, allAdvancing_iff.1 hx y (List.mem_append_right _ List.mem_cons_self)⟩
  | number h =>
    subst h
    exact ⟨trivial, hx⟩
  | options left h =>
    subst h
    exact ⟨hx.2, hx.2⟩
  | loop entered h =>
    subst h
    exact ⟨⟨hx.1 rfl, hx.2⟩, hx.2⟩

theorem Over.advancing (hroot : root.Advancing) (h : Over root s y) :
    (∀ f ∈ s, f.Advancing) ∧ y.Advancing := by
  induction h with
  | nil => exact ⟨fun f hf => (nomatch hf), hroot⟩
  | cons h hf ih =>
    obtain ⟨hframe, hy⟩ := hf.advancing ih.2
    exact ⟨List.forall_mem_cons.2 ⟨hframe, ih.1⟩, hy⟩

/-! ## Every step keeps the ends -/

/-- Whether a frame can be done with nothing matched. -/
def Frame.skippable : Frame → Bool
  | .run r => r.nullable
  | .parts rs => allNullable rs
  | .choice _ rs => anyNullable rs
  | .copies r left => left == 0 || r.nullable
  | .branch _ | .options _ _ _ | .loop _ _ _ => true

/-- The offset at which a loop was last entered. -/
def Frame.entered : Frame → Option Nat
  | .loop _ _ entered => entered
  | _ => none

/-- No loop was entered here that can be come to without matching anything. -/
def Fresh (pos : Nat) : List Frame → Prop
  | [] => True
  | f :: k => f.entered ≠ some pos ∧ (f.skippable = true → Fresh pos k)

/-- What a step leads to ends in what the stack before it does, in the same order. -/
def Step.KeepsEnds (bs : Bytes) (pos : Nat) (s : List Frame) : Step → Prop
  | .accept => stackEnds bs s pos = [pos]
  | .dead => stackEnds bs s pos = []
  | .move s' pos' => stackEnds bs s pos = stackEnds bs s' pos'
  | .fork a b => stackEnds bs s pos = stackEnds bs a pos ++ stackEnds bs b pos

theorem stackEnds_of_singleton (h : f.ends bs pos = [pos']) :
    stackEnds bs (f :: k) pos = stackEnds bs k pos' := by
  rw [stackEnds_cons, h, List.flatMap_singleton]

theorem keepsEnds_forkOf {greedy : Bool} {a b : List Frame}
    (h : stackEnds bs s pos = prefer greedy (stackEnds bs a pos) (stackEnds bs b pos)) :
    (forkOf greedy a b).KeepsEnds bs pos s := by
  cases greedy <;> exact h

theorem keepsEnds_runStep (hpos : pos ≤ bs.size) (hr : r.Advancing) (k : List Frame) :
    (runStep bs pos r k).KeepsEnds bs pos (.run r :: k) := by
  unfold runStep
  split
  · exact stackEnds_of_singleton rfl
  · next bytes =>
    split
    · next hbytes => exact stackEnds_of_singleton (if_pos hbytes)
    · next hbytes =>
      have hnone : Regex.ends bs (.literal bytes) pos = [] := if_neg hbytes
      rw [Step.KeepsEnds, stackEnds_cons, Frame.ends, hnone, List.flatMap_nil]
  · next a set =>
    split
    · next pos' hsymbol => exact stackEnds_of_singleton (congrArg Option.toList hsymbol)
    · next hsymbol =>
      have hnone : Regex.ends bs (.oneOf a set) pos = [] := congrArg Option.toList hsymbol
      rw [Step.KeepsEnds, stackEnds_cons, Frame.ends, hnone, List.flatMap_nil]
  · next l =>
    split
    · next hlook => exact stackEnds_of_singleton (if_pos hlook)
    · next hlook =>
      have hnone : Regex.ends bs (.look l) pos = [] := if_neg hlook
      rw [Step.KeepsEnds, stackEnds_cons, Frame.ends, hnone, List.flatMap_nil]
  · refine List.flatMap_congr fun q _ => ?_
    exact (stackEnds_of_singleton rfl).symm
  · exact rfl
  · exact rfl
  · exact List.flatMap_assoc
  · next greedy sub =>
    have hunrolled : atMost (Regex.ends bs sub) greedy bs.size pos = _ :=
      atMost_size (hr.1 rfl) hpos
    have hends : stackEnds bs (.run (.repetition 0 none greedy sub) :: k) pos =
        (atMost (Regex.ends bs sub) greedy bs.size pos).flatMap (stackEnds bs k) :=
      congrArg (List.flatMap _) (List.flatMap_singleton _ _)
    split
    · exact hends
    · refine keepsEnds_forkOf ?_
      rw [hends, hunrolled, flatMap_prefer, List.flatMap_assoc, List.flatMap_singleton]
      rfl
  · next min greedy sub =>
    have hends : Regex.ends bs (.repetition (min + 1) none greedy sub) pos =
        (exactly (Regex.ends bs sub) (min + 1) pos).flatMap
          (atMost (Regex.ends bs sub) greedy bs.size) := rfl
    rw [Step.KeepsEnds, stackEnds_cons, Frame.ends, hends, exactly_succ, List.flatMap_assoc,
      List.flatMap_assoc]
    rfl

/-- **Every step keeps the ends.** -/
theorem keepsEnds_step (hpos : pos ≤ bs.size) (hs : ∀ f ∈ s, f.Advancing) (hfresh : Fresh pos s) :
    (step bs pos s).KeepsEnds bs pos s := by
  unfold step
  split
  · exact rfl
  · exact keepsEnds_runStep hpos (hs _ List.mem_cons_self) _
  · exact stackEnds_of_singleton rfl
  · exact List.flatMap_assoc
  · exact rfl
  · next n r rs k =>
    have hbranch : stackEnds bs (.branch n :: k) = stackEnds bs k :=
      funext fun q => stackEnds_of_singleton rfl
    rw [Step.KeepsEnds, stackEnds_cons, stackEnds_cons, stackEnds_cons, hbranch]
    exact List.flatMap_append
  · exact stackEnds_of_singleton rfl
  · exact stackEnds_of_singleton rfl
  · exact List.flatMap_assoc
  · exact stackEnds_of_singleton rfl
  · next r greedy left k =>
    refine keepsEnds_forkOf ?_
    rw [stackEnds_cons, Frame.ends, atMost, flatMap_prefer, List.flatMap_assoc,
      List.flatMap_singleton]
    rfl
  · next r greedy entered k =>
    split
    · next h => exact absurd h hfresh.1
    · refine keepsEnds_forkOf ?_
      rw [stackEnds_cons, Frame.ends, atMost_size (hs _ List.mem_cons_self).1 hpos, flatMap_prefer,
        List.flatMap_assoc, List.flatMap_singleton]
      rfl

end Multiscan.Regex
