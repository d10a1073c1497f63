import Mathlib.Data.List.TakeWhile
/-!
# Text — decimal digits

A number is read back from its digits (`eq_of_repr_eq`), also where more text stands
behind them, as long as that does not begin with a digit (`eq_of_digits_append`).
-/

namespace Multiscan.Text

variable {a b : Nat}

theorem eq_of_repr_eq (h : Nat.repr a = Nat.repr b) : a = b := by
  have hdigits : Nat.toDigits 10 a = Nat.toDigits 10 b := by
    rw [← Nat.toList_repr, h, Nat.toList_repr]
  have hread := congrArg (Nat.ofDigitChars 10 · 0) hdigits
  rwa [Nat.ofDigitChars_ten_toDigits, Nat.ofDigitChars_ten_toDigits] at hread

/-- The digits of a number end where something else stands. -/
theorem takeWhile_digits (a : Nat) {x : Char} (hx : x.isDigit = false) (s : List Char) :
    ((Nat.repr a).toList ++ x :: s).takeWhile Char.isDigit = (Nat.repr a).toList := by
  have hdigits : ∀ y ∈ (Nat.repr a).toList, y.isDigit = true := fun y hy => by
    rw [Nat.toList_repr] at hy
    exact Nat.isDigit_of_mem_toDigits (by decide) (by decide) hy
  rw [List.takeWhile_append_of_pos hdigits, List.takeWhile_cons_of_neg (by simp [hx]),
    List.append_nil]

theorem eq_of_digits_append {x : Char} (hx : x.isDigit = false) {s t : List Char}
    (h : (Nat.repr a).toList ++ x :: s = (Nat.repr b).toList ++ x :: t) : a = b ∧ s = t := by
  have hdigits := congrArg (List.takeWhile Char.isDigit) h
  rw [takeWhile_digits a hx, takeWhile_digits b hx] at hdigits
  rw [hdigits] at h
  refine ⟨eq_of_repr_eq (String.toList_inj.1 hdigits), ?_⟩
  exact List.tail_eq_of_cons_eq (List.append_cancel_left h)

end Multiscan.Text
