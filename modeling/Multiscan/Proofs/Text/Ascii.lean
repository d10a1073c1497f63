import Multiscan.Proofs.Text.Characters
/-!
# Text — bytes in ASCII

Where all bytes are in ASCII, a byte and a character are the same: each byte is
read as the character with its number (`decodeAt_of_ascii`, `decodeBefore_of_ascii`),
and every offset is a boundary.
-/

namespace Multiscan.Text

variable {bs : Bytes} {cs : List Char} {b : UInt8} {i stop : Nat}

/-- All bytes are in ASCII. -/
def AllAscii (bs : Bytes) : Prop := ∀ (i : Nat) (b : UInt8), bs[i]? = some b → b.toNat < 128

/-- Whether a text is in ASCII can be computed. -/
theorem ascii_of_all (h : cs.all (·.toNat < 128) = true) : ∀ c ∈ cs, c.toNat < 128 :=
  fun c hc => of_decide_eq_true (List.all_eq_true.1 h c hc)

/-- The encoding of a character in ASCII is one byte, its number. -/
theorem encodeChar_of_ascii {c : Char} (h : c.toNat < 128) :
    encodeChar c = [UInt8.ofNat c.toNat] := by
  rcases encodeChar_cases c with ⟨-, henc⟩ | hwide | hwide | hwide
  · exact henc
  all_goals omega

/-- That of any other starts with a byte that is not in ASCII. -/
theorem encodeChar_of_not_ascii {c : Char} (h : ¬ c.toNat < 128) :
    ∃ b rest, encodeChar c = b :: rest ∧ 128 ≤ b.toNat := by
  obtain ⟨b, rest, henc, -⟩ := exists_cons_encodeChar c
  exact ⟨b, rest, henc, high_of_mem_encodeChar h b (henc ▸ List.mem_cons_self)⟩

/-- **A text in ASCII** has bytes in ASCII. -/
theorem allAscii_encode (h : ∀ c ∈ cs, c.toNat < 128) : AllAscii (encode cs).toArray := by
  intro i b hb
  rw [List.getElem?_toArray] at hb
  obtain ⟨c, hc, hmem⟩ := List.mem_flatMap.1 (List.mem_of_getElem? hb)
  have hascii := h c hc
  rw [encodeChar_of_ascii hascii, List.mem_singleton] at hmem
  rw [hmem, toNat_ofNat_byte (by omega)]
  exact hascii

/-- A byte in ASCII is read as the character with its number. -/
theorem decodeWithin_of_ascii (hb : bs[i]? = some b) (hascii : b.toNat < 128) (hi : i < stop) :
    decodeWithin bs stop i = some (Char.ofNat b.toNat) := by
  have hvalid := isValidChar_toNat b
  have htoNat := toNat_charOfNat hvalid
  have hwidth : width (Char.ofNat b.toNat) = 1 := by
    rw [width, if_pos (by omega)]
  have hlt : b < 0x80 := UInt8.lt_iff_toNat_lt.2 hascii
  rw [decodeWithin]
  simp only [if_pos hi, hb, if_pos hlt, charOfWidth, if_pos hvalid, if_pos hwidth]

theorem decodeAt_of_byte (hb : bs[i]? = some b) (hascii : b.toNat < 128) :
    decodeAt bs i = some (Char.ofNat b.toNat) :=
  decodeWithin_of_ascii hb hascii (Array.getElem?_eq_some_iff.1 hb).1

theorem decodeAt_of_ascii (h : AllAscii bs) (hb : bs[i]? = some b) :
    decodeAt bs i = some (Char.ofNat b.toNat) := decodeAt_of_byte hb (h i b hb)

/-- A byte outside ASCII does not start a character in ASCII. -/
theorem le_toNat_of_decodeAt {c : Char} (h : decodeAt bs i = some c) (hb : bs[i]? = some b)
    (hhigh : 128 ≤ b.toNat) : 128 ≤ c.toNat := by
  have hwide : ∀ {n code : Nat}, charOfWidth n code = some c → n ≠ 1 → 128 ≤ c.toNat := by
    intro n code hc hn
    have hwidth := width_of_charOfWidth hc
    rw [width] at hwidth
    split at hwidth
    · exact absurd hwidth.symm hn
    · omega
  have hlt : ¬ b < 0x80 := fun hlt => Nat.not_lt.2 hhigh (UInt8.lt_iff_toNat_lt.1 hlt)
  have hfirst : (if i < bs.size then bs[i]? else none) = some b := by
    rw [if_pos (Array.getElem?_eq_some_iff.1 hb).1, hb]
  rw [decodeAt, decodeWithin] at h
  simp only [hfirst, if_neg hlt] at h
  repeat' split at h
  all_goals first | cases h | exact hwide h (by decide)

theorem decodeAt_eq_none (h : bs.size ≤ i) : decodeAt bs i = none := by
  rcases hc : decodeAt bs i with _ | c
  · rfl
  · have hle := decodeWithin_le hc
    have hpos := width_pos c
    omega

/-- The character before an offset is that of the byte before it. -/
theorem decodeBefore_of_ascii (h : AllAscii bs) (hb : bs[i]? = some b) :
    decodeBefore bs (i + 1) = some (Char.ofNat b.toNat) := by
  have hascii := h i b hb
  have hlead : leadBefore bs i 3 = i := by
    rcases i with _ | j
    · rfl
    · simp [leadBefore, hb, isContinuation_of_lt hascii]
  rw [decodeBefore, if_neg (Nat.succ_ne_zero i), Nat.add_sub_cancel, hlead]
  exact decodeWithin_of_ascii hb hascii (Nat.lt_succ_self i)

/-- **Every offset** is a boundary. -/
theorem isBoundary_of_ascii (h : AllAscii bs) (hi : i ≤ bs.size) : isBoundary bs i = true := by
  unfold isBoundary
  split
  · next b hb => rw [isContinuation_of_lt (h i b hb), Bool.not_false]
  · next hnone =>
    have hge := Array.getElem?_eq_none_iff.1 hnone
    exact beq_iff_eq.2 (Nat.le_antisymm hi hge)

end Multiscan.Text
