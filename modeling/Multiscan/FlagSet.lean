import Multiscan.Flag
/-!
# Sets of flags

A set of flags is kept as the question which flags it holds.
-/

namespace Multiscan

/-- A set of flags, as the question which flags it holds. -/
@[ext] structure FlagSet where
  contains : Flag → Bool

namespace FlagSet

/-- The set without flags. -/
def empty : FlagSet := ⟨fun _ => false⟩

/-- The set with one more flag. -/
def insert (s : FlagSet) (f : Flag) : FlagSet := ⟨fun g => g == f || s.contains g⟩

/-- The set without one flag. -/
def erase (s : FlagSet) (f : Flag) : FlagSet := ⟨fun g => g != f && s.contains g⟩

/-- The flags of either set. -/
def union (s t : FlagSet) : FlagSet := ⟨fun f => s.contains f || t.contains f⟩

/-- The flags of a list. -/
def ofList (fs : List Flag) : FlagSet := fs.foldl insert empty

/-- The flags of a set, in their order. -/
def toList (s : FlagSet) : List Flag := Flag.all.filter s.contains

/-- Whether a set holds no flag. -/
def isEmpty (s : FlagSet) : Bool := s.toList.isEmpty

/-- Whether two sets hold the same flags. -/
def beq (s t : FlagSet) : Bool := Flag.all.all fun f => s.contains f == t.contains f

instance : BEq FlagSet := ⟨beq⟩

@[simp] theorem contains_empty (f : Flag) : empty.contains f = false := rfl

@[simp] theorem contains_insert (s : FlagSet) (f g : Flag) :
    (s.insert f).contains g = (g == f || s.contains g) := rfl

@[simp] theorem contains_erase (s : FlagSet) (f g : Flag) :
    (s.erase f).contains g = (g != f && s.contains g) := rfl

@[simp] theorem contains_union (s t : FlagSet) (f : Flag) :
    (s.union t).contains f = (s.contains f || t.contains f) := rfl

@[simp] theorem mem_toList {s : FlagSet} {f : Flag} : f ∈ s.toList ↔ s.contains f = true := by
  simp [toList, Flag.mem_all]

/-- Flags that are put in one by one are those there were and those of the
list. -/
theorem contains_foldl_insert (fs : List Flag) (s : FlagSet) (f : Flag) :
    (fs.foldl insert s).contains f = (s.contains f || fs.contains f) := by
  induction fs generalizing s with
  | nil => simp
  | cons g fs ih =>
    rw [List.foldl_cons, ih, contains_insert, List.contains_cons]
    cases s.contains f <;> cases f == g <;> cases fs.contains f <;> rfl

@[simp] theorem contains_ofList (fs : List Flag) (f : Flag) :
    (ofList fs).contains f = fs.contains f := by
  rw [ofList, contains_foldl_insert, contains_empty, Bool.false_or]

/-- Sets with the same flags are equal. -/
theorem beq_iff {s t : FlagSet} : (s == t) = true ↔ s = t := by
  constructor
  · intro h
    ext f
    exact beq_iff_eq.1 (List.all_eq_true.1 h f (Flag.mem_all f))
  · rintro rfl
    exact List.all_eq_true.2 fun f _ => beq_self_eq_true _

instance : DecidableEq FlagSet := fun _ _ => decidable_of_iff _ beq_iff

/-- The names of the flags with bars between them, or the word `none`. -/
def toString (s : FlagSet) : String :=
  if s.isEmpty then "none" else "|".intercalate (s.toList.map Flag.name)

/-- The printed form of a set. -/
def printed (s : FlagSet) : String :=
  "\x7b" ++ ", ".intercalate (s.toList.map Flag.label) ++ "\x7d"

end FlagSet

end Multiscan
