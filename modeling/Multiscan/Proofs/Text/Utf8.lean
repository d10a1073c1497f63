import Multiscan.Text.Utf8
/-!
# UTF-8 — where characters start

The first byte of a character never continues another one, so the offsets
at which the characters of a text start are boundaries of its encoding, and
so is its end. `isBoundary_byteLength_take` is what others use.
-/

namespace Multiscan.Text

variable {c : Char} {cs : List Char}

/-! ## Lengths in bytes -/

@[simp] theorem byteLength_nil : byteLength [] = 0 := rfl

@[simp] theorem byteLength_cons : byteLength (c :: cs) = width c + byteLength cs := rfl

theorem byteLength_append (cs ds : List Char) :
    byteLength (cs ++ ds) = byteLength cs + byteLength ds := by
  induction cs with
  | nil => simp
  | cons c cs ih => rw [List.cons_append, byteLength_cons, byteLength_cons, ih, Nat.add_assoc]

/-- The bytes of a text are those of its first characters and those of the
rest. -/
theorem byteLength_take_add_drop (k : Nat) (cs : List Char) :
    byteLength (cs.take k) + byteLength (cs.drop k) = byteLength cs := by
  rw [← byteLength_append, List.take_append_drop]

/-- More characters take at least as many bytes. -/
theorem byteLength_take_mono {k l : Nat} (h : k ≤ l) (cs : List Char) :
    byteLength (cs.take k) ≤ byteLength (cs.take l) := by
  have hsplit := byteLength_take_add_drop k (cs.take l)
  rw [List.take_take, Nat.min_eq_left h] at hsplit
  omega

@[simp] theorem size_bytesOf (s : String) : (bytesOf s).size = byteLength s.toList := by
  rw [bytesOf, List.size_toArray, length_encode]

/-! ## Numbers of characters -/

theorem toNat_charOfNat {n : Nat} (h : n.isValidChar) : (Char.ofNat n).toNat = n := by
  rw [Char.ofNat, dif_pos h]
  rfl

/-- Every byte is the number of a character. -/
theorem isValidChar_toNat (b : UInt8) : b.toNat.isValidChar :=
  .inl (Nat.lt_trans b.toNat_lt (by decide))

/-! ## Boundaries -/

/-- A byte that stands for itself continues nothing. -/
theorem isContinuation_of_lt {b : UInt8} (h : b.toNat < 0x80) : isContinuation b = false := by
  have hb : ¬ (0x80 : UInt8) ≤ b := by
    rw [UInt8.le_iff_toNat_le]
    exact Nat.not_le.2 h
  rw [isContinuation, decide_eq_false hb, Bool.false_and]

/-- And neither does one that opens a longer character. -/
theorem isContinuation_of_ge {b : UInt8} (h : 0xC0 ≤ b.toNat) : isContinuation b = false := by
  have hb : ¬ b < 0xC0 := by
    rw [UInt8.lt_iff_toNat_lt]
    exact Nat.not_lt.2 h
  rw [isContinuation, decide_eq_false hb, Bool.and_false]

/-- **The first byte of a character continues nothing.** -/
theorem exists_cons_encodeChar (c : Char) :
    ∃ b bs, encodeChar c = b :: bs ∧ isContinuation b = false := by
  -- One case for each width; the first byte is below 0x80 or 0xC0 at least.
  unfold encodeChar String.utf8EncodeChar
  simp only
  split
  · next h =>
    refine ⟨_, _, rfl, isContinuation_of_lt ?_⟩
    rw [UInt8.toNat_ofNat']
    omega
  · split
    · refine ⟨_, _, rfl, isContinuation_of_ge ?_⟩
      rw [UInt8.toNat_ofNat']
      omega
    · split
      · refine ⟨_, _, rfl, isContinuation_of_ge ?_⟩
        rw [UInt8.toNat_ofNat']
        omega
      · refine ⟨_, _, rfl, isContinuation_of_ge ?_⟩
        rw [UInt8.toNat_ofNat']
        omega

/-- What stands behind the first characters of a text is the encoding of the
next one. -/
theorem getElem?_encode_byteLength_take {k : Nat} {d : Char} {ds : List Char}
    (h : cs.drop k = d :: ds) :
    (encode cs)[byteLength (cs.take k)]? = (encodeChar d ++ encode ds)[0]? := by
  have hsplit : encode cs = encode (cs.take k) ++ encode (cs.drop k) := by
    rw [← encode_append, List.take_append_drop]
  rw [hsplit, List.getElem?_append_right (Nat.le_of_eq (length_encode _)), length_encode, Nat.sub_self, h,
    encode_cons]

/-- **Characters start, and a text ends, at a boundary.** -/
theorem isBoundary_byteLength_take (k : Nat) (cs : List Char) :
    isBoundary (encode cs).toArray (byteLength (cs.take k)) = true := by
  unfold isBoundary
  rw [List.getElem?_toArray]
  -- Either the text ends there, or the next character starts there.
  rcases hrest : cs.drop k with _ | ⟨d, ds⟩
  · have hlen : byteLength (cs.take k) = (encode cs).length := by
      have hsplit := byteLength_take_add_drop k cs
      rw [hrest, byteLength_nil] at hsplit
      rw [length_encode]
      omega
    rw [hlen, List.getElem?_eq_none (Nat.le_refl _)]
    simp
  · obtain ⟨b, bs, hd, hb⟩ := exists_cons_encodeChar d
    rw [getElem?_encode_byteLength_take hrest, hd]
    simp [hb]

end Multiscan.Text
