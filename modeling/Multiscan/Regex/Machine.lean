import Multiscan.Regex.Basic
/-!
# Regex — running an expression as a machine

The machine stands at an offset of a byte sequence with a stack of frames,
which say what is still to be matched, the next thing first. A step matches
something, opens the top frame into smaller ones, or comes to a fork, where
two stacks are to be tried in order.

The codes of the frames name the place in the expression, as if every
repetition were written out: marks keep places apart that have the same
things before them. A place that has been tried at an offset need not be
tried there again.

A loop remembers the offset at which it was last entered, and is not
entered again there. So every step either moves on in the bytes or makes
the stack lighter (`Step.Decreases`), and running a machine comes to an
end.
-/

namespace Multiscan.Regex

open Text (Bytes)

/-- Something still to be matched. -/
inductive Frame
  /-- An expression. -/
  | run (r : Regex)
  /-- The rest of a sequence. -/
  | parts (rs : List Regex)
  /-- The alternatives behind the first `k`. -/
  | choice (k : Nat) (rs : List Regex)
  /-- A mark behind the alternative with the number `k`. -/
  | branch (k : Nat)
  /-- So many matches of an expression. -/
  | copies (r : Regex) (left : Nat)
  /-- At most so many matches of an expression. -/
  | options (r : Regex) (greedy : Bool) (left : Nat)
  /-- Any number of further matches of an expression, one having been tried
  from the offset `entered`. -/
  | loop (r : Regex) (greedy : Bool) (entered : Option Nat)

/-- The number that stands for a frame in the name of a place. -/
def Frame.code : Frame → Nat
  | .run _ => 0
  | .parts rs => 7 * rs.length + 1
  | .choice k _ => 7 * k + 2
  | .branch k => 7 * k + 3
  | .copies _ left => 7 * left + 4
  | .options _ _ left => 7 * left + 5
  | .loop _ _ _ => 6

/-- The name of the place at which a stack stands. -/
def place (s : List Frame) : List Nat := s.map Frame.code

mutual

/-- A bound on the steps that an expression takes without moving on. -/
def cost : Regex → Nat
  | .repetition min max _ sub =>
    match max with
    | some m => min * (cost sub + 1) + (m - min) * (cost sub + 1) + 3
    | none => min * (cost sub + 1) + cost sub + 6
  | .capture _ _ sub => cost sub + 2
  | .concat parts => totalCost parts + 2
  | .alternation alts => totalCost alts + 2
  | _ => 1

/-- The same for several expressions and the steps between them. -/
def totalCost : List Regex → Nat
  | [] => 0
  | r :: rs => cost r + totalCost rs + 2

end

/-- The weight of a frame at an offset. -/
def Frame.weight (pos : Nat) : Frame → Nat
  | .run r => cost r
  | .parts rs => totalCost rs + 1
  | .choice _ rs => totalCost rs + 1
  | .branch _ => 1
  | .copies r left => left * (cost r + 1) + 1
  | .options r _ left => left * (cost r + 1) + 1
  | .loop r _ entered => if entered = some pos then 1 else cost r + 3

/-- The weight of a stack at an offset. -/
def weight (pos : Nat) (s : List Frame) : Nat := s.foldr (fun f n => f.weight pos + n) 0

/-- What a machine does next. -/
inductive Step
  /-- It has matched everything. -/
  | accept
  /-- It cannot go on. -/
  | dead
  /-- It goes on with another stack at another offset. -/
  | move (s : List Frame) (pos : Nat)
  /-- It tries one stack and, if that fails, another. -/
  | fork (first second : List Frame)

/-- A fork whose sides are in the order of a repetition: going on comes
first if it is greedy. -/
def forkOf (greedy : Bool) (again leave : List Frame) : Step :=
  if greedy then .fork again leave else .fork leave again

/-- Whether the given bytes stand at an offset. -/
def bytesAt (bs : Bytes) (pos : Nat) : List UInt8 → Bool
  | [] => decide (pos ≤ bs.size)
  | b :: rest => bs[pos]? == some b && bytesAt bs (pos + 1) rest

/-- The offset behind the symbol of a set that stands at an offset. -/
def symbolAt? (bs : Bytes) (pos : Nat) (a : Alphabet) (s : SymbolSet) : Option Nat :=
  match a with
  | .byte =>
    match bs[pos]? with
    | some b => if s.contains b.toNat then some (pos + 1) else none
    | none => none
  | .character =>
    match Text.decodeAt bs pos with
    | some c => if s.contains c.toNat then some (pos + Text.width c) else none
    | none => none

/-- Whether every match is thought to take bytes. -/
def mustConsume (r : Regex) : Bool :=
  match r.minLen? with
  | some n => n != 0
  | none => false

/-- What a machine does whose top frame runs an expression. -/
def runStep (bs : Bytes) (pos : Nat) (r : Regex) (k : List Frame) : Step :=
  match r with
  | .empty => .move k pos
  | .literal bytes => if bytesAt bs pos bytes then .move k (pos + bytes.length) else .dead
  | .oneOf a s =>
    match symbolAt? bs pos a s with
    | some pos' => .move k pos'
    | none => .dead
  | .look l => if l.holds bs pos then .move k pos else .dead
  | .capture _ _ sub => .move (.run sub :: .branch 0 :: k) pos
  | .concat parts => .move (.parts parts :: k) pos
  | .alternation alts => .move (.choice 0 alts :: k) pos
  | .repetition min (some max) greedy sub =>
    .move (.copies sub min :: .options sub greedy (max - min) :: k) pos
  | .repetition 0 none greedy sub =>
    -- What can match nothing is left out or repeated once and more: a loop
    -- could not be entered for a match of nothing.
    if mustConsume sub then .move (.loop sub greedy none :: k) pos
    else forkOf greedy (.run sub :: .loop sub greedy (some pos) :: k) k
  | .repetition (min + 1) none greedy sub =>
    .move (.copies sub min :: .run sub :: .loop sub greedy none :: k) pos

/-- What a machine does at an offset. -/
def step (bs : Bytes) (pos : Nat) : List Frame → Step
  | [] => .accept
  | .run r :: k => runStep bs pos r k
  | .parts [] :: k => .move k pos
  | .parts (r :: rs) :: k => .move (.run r :: .parts rs :: k) pos
  | .choice _ [] :: _ => .dead
  | .choice n (r :: rs) :: k => .fork (.run r :: .branch n :: k) (.choice (n + 1) rs :: k)
  | .branch _ :: k => .move k pos
  | .copies _ 0 :: k => .move k pos
  | .copies r (left + 1) :: k => .move (.run r :: .copies r left :: k) pos
  | .options _ _ 0 :: k => .move k pos
  | .options r greedy (left + 1) :: k =>
    forkOf greedy (.run r :: .options r greedy left :: k) k
  | .loop r greedy entered :: k =>
    -- The last match was one of nothing, and so would be the next.
    if entered = some pos then .move k pos
    else forkOf greedy (.run r :: .loop r greedy (some pos) :: k) k

/-! ## Every step makes progress -/

/-- A stack at an offset comes after another: it is further on, within the
bytes, or in the same place and lighter. -/
def Later (bs : Bytes) (pos : Nat) (s : List Frame) (pos' : Nat) (s' : List Frame) : Prop :=
  (pos < pos' ∧ pos' ≤ bs.size) ∨ (pos' = pos ∧ weight pos s' < weight pos s)

/-- What a step says about the stacks it leads to. -/
def Step.Decreases (bs : Bytes) (pos : Nat) (s : List Frame) : Step → Prop
  | .accept => True
  | .dead => True
  | .move s' pos' => Later bs pos s pos' s'
  | .fork a b => weight pos a < weight pos s ∧ weight pos b < weight pos s

theorem weight_cons (pos : Nat) (f : Frame) (s : List Frame) :
    weight pos (f :: s) = f.weight pos + weight pos s := rfl

theorem decreases_forkOf {bs : Bytes} {pos : Nat} {s a b : List Frame} {greedy : Bool}
    (ha : weight pos a < weight pos s) (hb : weight pos b < weight pos s) :
    (forkOf greedy a b).Decreases bs pos s := by
  cases greedy <;> simp [forkOf, Step.Decreases, ha, hb]

theorem decreases_move {bs : Bytes} {pos : Nat} {s s' : List Frame}
    (h : weight pos s' < weight pos s) : (Step.move s' pos).Decreases bs pos s :=
  .inr ⟨rfl, h⟩

theorem bytesAt_le {bs : Bytes} {bytes : List UInt8} {pos : Nat}
    (h : bytesAt bs pos bytes = true) : pos + bytes.length ≤ bs.size := by
  induction bytes generalizing pos with
  | nil => simpa [bytesAt] using h
  | cons b rest ih =>
    simp only [bytesAt, Bool.and_eq_true] at h
    have := ih h.2
    simp only [List.length_cons]
    omega

/-- A symbol that is read takes bytes and ends within them. -/
theorem symbolAt?_le {bs : Bytes} {pos pos' : Nat} {a : Alphabet} {set : SymbolSet}
    (h : symbolAt? bs pos a set = some pos') : pos < pos' ∧ pos' ≤ bs.size := by
  unfold symbolAt? at h
  split at h
  · split at h
    · next b hb =>
      have := (Array.getElem?_eq_some_iff.1 hb).1
      split at h
      · cases h; omega
      · cases h
    · cases h
  · split at h
    · next c hc =>
      have := Text.decodeWithin_le hc
      have := Text.width_pos c
      split at h
      · cases h; omega
      · cases h
    · cases h

theorem one_le_cost (r : Regex) : 1 ≤ cost r := by
  cases r <;> simp only [cost] <;> try omega
  next min max _ _ => cases max <;> simp only <;> omega

theorem decreases_runStep (bs : Bytes) (pos : Nat) (r : Regex) (k : List Frame) :
    (runStep bs pos r k).Decreases bs pos (.run r :: k) := by
  have hr := one_le_cost r
  unfold runStep
  split
  · apply decreases_move; simp only [weight_cons, Frame.weight]; omega
  · next bytes =>
    split
    · next h =>
      have := bytesAt_le h
      cases bytes with
      | nil => apply decreases_move; simp only [weight_cons, Frame.weight]; omega
      | cons b rest => left; simp only [List.length_cons] at this ⊢; omega
    · trivial
  · split
    · next h => exact .inl (symbolAt?_le h)
    · trivial
  · split
    · apply decreases_move; simp only [weight_cons, Frame.weight]; omega
    · trivial
  · apply decreases_move; simp only [weight_cons, Frame.weight, cost]; omega
  · apply decreases_move; simp only [weight_cons, Frame.weight, cost]; omega
  · apply decreases_move; simp only [weight_cons, Frame.weight, cost]; omega
  · apply decreases_move; simp only [weight_cons, Frame.weight, cost]; omega
  · split
    · apply decreases_move; simp only [weight_cons, Frame.weight, cost]; simp
    · apply decreases_forkOf
      · simp only [weight_cons, Frame.weight, cost]
        simp
        omega
      · simp only [weight_cons, Frame.weight, cost]
        omega
  · next min greedy sub =>
    apply decreases_move
    simp only [weight_cons, Frame.weight, cost, Nat.succ_mul]
    simp
    omega

/-- **Every step makes progress.** -/
theorem decreases_step (bs : Bytes) (pos : Nat) (s : List Frame) :
    (step bs pos s).Decreases bs pos s := by
  unfold step
  split
  · trivial
  · exact decreases_runStep ..
  · apply decreases_move; simp only [weight_cons, Frame.weight]; omega
  · apply decreases_move; simp only [weight_cons, Frame.weight, totalCost]; omega
  · trivial
  · constructor <;> simp only [weight_cons, Frame.weight, totalCost] <;> omega
  · apply decreases_move; simp only [weight_cons, Frame.weight]; omega
  · apply decreases_move; simp only [weight_cons, Frame.weight]; omega
  · apply decreases_move; simp only [weight_cons, Frame.weight, Nat.succ_mul]; omega
  · apply decreases_move; simp only [weight_cons, Frame.weight]; omega
  · apply decreases_forkOf <;> simp only [weight_cons, Frame.weight, Nat.succ_mul] <;> omega
  · split
    · next h => apply decreases_move; simp only [weight_cons, Frame.weight, h]; simp
    · next h =>
      apply decreases_forkOf
      · simp only [weight_cons, Frame.weight, if_neg h]
        simp
        omega
      · simp only [weight_cons, Frame.weight, if_neg h]
        omega

end Multiscan.Regex
