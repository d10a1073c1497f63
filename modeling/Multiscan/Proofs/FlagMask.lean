import Mathlib.Data.List.Basic
import Mathlib.Data.Nat.Bitwise
import Multiscan.FlagSet
/-!
# Sets of flags as masks

A set of flags fits in sixteen bits: each flag has one bit, at the place that it has
among all flags, and the other six stay clear. What is done to sets is done to masks
with a few operations on words, and nothing tells the two apart
(`masks_and_sets_correspond`). So whatever is said of sets is said of masks.
-/

namespace Multiscan

namespace Flag

/-- The place of a flag among all flags. -/
def place (f : Flag) : Nat := all.idxOf f

/-- The bit of a flag in a mask. -/
def mask (f : Flag) : UInt16 := 1 <<< UInt16.ofNat f.place

theorem toNat_mask (f : Flag) : f.mask.toNat = 2 ^ f.place := by cases f <;> rfl

theorem place_lt (f : Flag) : f.place < 10 := by cases f <;> decide

theorem place_inj {f g : Flag} : f.place = g.place ↔ f = g :=
  List.idxOf_inj (mem_all f)

theorem exists_place {i : Nat} (h : i < 10) : ∃ f : Flag, f.place = i := by
  have hall : ∀ i : Fin 10, ∃ f ∈ all, f.place = i := by decide
  obtain ⟨f, -, hf⟩ := hall ⟨i, h⟩
  exact ⟨f, hf⟩

/-- All bits but that of a flag. -/
theorem testBit_not_mask (f g : Flag) : (~~~f.mask).toNat.testBit g.place = (g != f) := by
  cases f <;> cases g <;> rfl

end Flag

/-- A set of flags as a mask, with no bits but those of flags. -/
structure FlagMask where
  bits : UInt16
  room : bits.toNat < 2 ^ 10

namespace FlagMask

/-- The mask without flags. -/
def empty : FlagMask := ⟨0, by decide⟩

/-- The mask with one more flag. -/
def insert (m : FlagMask) (f : Flag) : FlagMask where
  bits := m.bits ||| f.mask
  room := by
    rw [UInt16.toNat_or, Flag.toNat_mask]
    exact Nat.or_lt_two_pow m.room (Nat.pow_lt_pow_right (by decide) f.place_lt)

/-- The mask without one flag. -/
def erase (m : FlagMask) (f : Flag) : FlagMask where
  bits := m.bits &&& ~~~f.mask
  room := by
    rw [UInt16.toNat_and]
    exact Nat.lt_of_le_of_lt Nat.and_le_left m.room

/-- The flags of either mask. -/
def union (m n : FlagMask) : FlagMask where
  bits := m.bits ||| n.bits
  room := by
    rw [UInt16.toNat_or]
    exact Nat.or_lt_two_pow m.room n.room

/-- Whether a mask has a flag. -/
def contains (m : FlagMask) (f : Flag) : Bool := m.bits &&& f.mask != 0

/-- Whether a mask has no flag. -/
def isEmpty (m : FlagMask) : Bool := m.bits == 0

/-- The flags of a mask, in their order. -/
def toList (m : FlagMask) : List Flag := Flag.all.filter m.contains

/-- The flags of a list. -/
def ofList (fs : List Flag) : FlagMask := fs.foldl insert empty

/-- The set of the flags of a mask. -/
def toSet (m : FlagMask) : FlagSet := ⟨m.contains⟩

variable {m n : FlagMask} {f g : Flag}

/-! ## Bit by bit -/

/-- **A mask has a flag** if it has the bit at the place of the flag. -/
theorem contains_eq (m : FlagMask) (f : Flag) : m.contains f = m.bits.toNat.testBit f.place := by
  rw [contains, bne, Bool.eq_iff_iff, Bool.not_eq_true', beq_eq_false_iff_ne, Ne,
    ← UInt16.toNat_inj, UInt16.toNat_and, Flag.toNat_mask, Nat.and_two_pow]
  cases m.bits.toNat.testBit f.place <;> simp

/-- Masks with the same flags are equal. -/
theorem ext_contains (h : ∀ f, m.contains f = n.contains f) : m = n := by
  have hbits : m.bits = n.bits := by
    refine UInt16.toNat_inj.1 (Nat.eq_of_testBit_eq fun i => ?_)
    by_cases hi : i < 10
    · obtain ⟨f, rfl⟩ := Flag.exists_place hi
      rw [← contains_eq, ← contains_eq, h f]
    · have hle : 2 ^ 10 ≤ 2 ^ i := Nat.pow_le_pow_right (by decide) (Nat.not_lt.1 hi)
      rw [Nat.testBit_lt_two_pow (Nat.lt_of_lt_of_le m.room hle),
        Nat.testBit_lt_two_pow (Nat.lt_of_lt_of_le n.room hle)]
  cases m
  cases n
  cases hbits
  rfl

theorem contains_insert : (m.insert f).contains g = (g == f || m.contains g) := by
  rw [contains_eq, contains_eq, insert, UInt16.toNat_or, Nat.testBit_or, Flag.toNat_mask,
    Nat.testBit_two_pow, Bool.or_comm, Bool.eq_iff_iff]
  simp only [Bool.or_eq_true, decide_eq_true_eq, beq_iff_eq, Flag.place_inj, eq_comm (a := f)]

theorem contains_erase : (m.erase f).contains g = (g != f && m.contains g) := by
  rw [contains_eq, contains_eq, erase, UInt16.toNat_and, Nat.testBit_and, Flag.testBit_not_mask,
    Bool.and_comm]

theorem contains_union : (m.union n).contains f = (m.contains f || n.contains f) := by
  rw [contains_eq, contains_eq, contains_eq, union, UInt16.toNat_or, Nat.testBit_or]

/-! ## Masks and sets -/

theorem toSet_empty : empty.toSet = .empty := by
  ext f
  cases f <;> rfl

theorem toSet_insert : (m.insert f).toSet = m.toSet.insert f := by
  ext g
  exact contains_insert

theorem toSet_erase : (m.erase f).toSet = m.toSet.erase f := by
  ext g
  exact contains_erase

theorem toSet_union : (m.union n).toSet = m.toSet.union n.toSet := by
  ext f
  exact contains_union

theorem toSet_injective (h : m.toSet = n.toSet) : m = n :=
  ext_contains fun f => congrArg (FlagSet.contains · f) h

/-- Flags that are put in one by one come to the same in a mask and in a set. -/
theorem toSet_foldl_insert (fs : List Flag) (m : FlagMask) :
    (fs.foldl insert m).toSet = fs.foldl FlagSet.insert m.toSet := by
  induction fs generalizing m with
  | nil => rfl
  | cons f fs ih => rw [List.foldl_cons, List.foldl_cons, ih, toSet_insert]

theorem toSet_ofList (fs : List Flag) : (ofList fs).toSet = .ofList fs := by
  rw [ofList, toSet_foldl_insert, toSet_empty, FlagSet.ofList]

/-- Every set has a mask. -/
theorem toSet_ofList_toList (s : FlagSet) : (ofList s.toList).toSet = s := by
  rw [toSet_ofList]
  ext f
  rw [FlagSet.contains_ofList, Bool.eq_iff_iff, List.contains_iff_mem, FlagSet.mem_toList]

/-- A mask without flags is zero. -/
theorem isEmpty_eq (m : FlagMask) : m.isEmpty = m.toSet.isEmpty := by
  rw [Bool.eq_iff_iff, FlagSet.isEmpty, List.isEmpty_iff, isEmpty, beq_iff_eq]
  constructor
  · intro hzero
    refine List.eq_nil_iff_forall_not_mem.2 fun f hf => ?_
    have hmem : m.contains f = true := FlagSet.mem_toList.1 hf
    rw [contains_eq, hzero] at hmem
    exact absurd hmem (by simp)
  · intro hnil
    have hnone : m = empty := ext_contains fun f => by
      have hf : f ∉ m.toSet.toList := hnil ▸ List.not_mem_nil
      rw [FlagSet.mem_toList, Bool.not_eq_true] at hf
      exact hf.trans (congrArg (FlagSet.contains · f) toSet_empty).symm
    rw [hnone]
    rfl

/-- **Masks and sets of flags correspond.** Every set has one mask and every mask is that
of one set; the operations on masks are those on sets, the questions that are asked of
them have the same answers, and they list the same flags in the same order. -/
theorem masks_and_sets_correspond :
    Function.Bijective toSet ∧ empty.toSet = .empty ∧
      (∀ m f, (insert m f).toSet = m.toSet.insert f ∧ (erase m f).toSet = m.toSet.erase f ∧
        contains m f = m.toSet.contains f) ∧
      (∀ m n, (union m n).toSet = m.toSet.union n.toSet) ∧
      (∀ m, isEmpty m = m.toSet.isEmpty ∧ toList m = m.toSet.toList) ∧
      ∀ fs, (ofList fs).toSet = .ofList fs :=
  ⟨⟨fun _ _ => toSet_injective, fun s => ⟨_, toSet_ofList_toList s⟩⟩, toSet_empty,
    fun _ _ => ⟨toSet_insert, toSet_erase, rfl⟩, fun _ _ => toSet_union,
    fun m => ⟨isEmpty_eq m, rfl⟩, toSet_ofList⟩

end FlagMask

end Multiscan
