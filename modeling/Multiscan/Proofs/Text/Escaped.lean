import Multiscan.Proofs.Text.Ascii
import Multiscan.Text.Escaped
/-!
# Text — escaped text is read back

What escaping writes is on one line and holds no blank (`shows_of_mem_escape`), so it can
stand in an argument or in a field of a line; and it stands for the bytes of the text it
was written for (`unescape_escape`), whatever characters that has.
-/

namespace Multiscan.Text

variable {c : Char} {cs : List Char}

/-! ## One character -/

/-- A character that shows: no blank and no control character in ASCII. -/
def shows (c : Char) : Bool := !(decide (c.toNat ≤ 0x20) || decide (c.toNat = 0x7F))

/-- A character is written as it is, or as an escape that stands for it. -/
inductive EscapedAs (c : Char) : List Char → Prop
  /-- A character that shows, other than the backslash. -/
  | self (hshows : shows c = true) (hslash : c ≠ '\\') : EscapedAs c [c]
  /-- A short escape. -/
  | short (x : Char) (hshows : shows x = true)
      (hread : ∀ rest, unescape ('\\' :: x :: rest) = encodeChar c ++ unescape rest) :
      EscapedAs c ['\\', x]
  /-- The number of a byte. -/
  | number (hascii : c.toNat < 128) :
      EscapedAs c ('\\' :: 'x' :: byteDigits (UInt8.ofNat c.toNat))

theorem escapedAs_escapeChar (c : Char) : EscapedAs c (escapeChar c) := by
  unfold escapeChar
  split
  · exact .short '0' (by decide) fun _ => rfl
  · exact .short 'r' (by decide) fun _ => rfl
  · exact .short 'n' (by decide) fun _ => rfl
  · exact .short 't' (by decide) fun _ => rfl
  · exact .short '\\' (by decide) fun _ => rfl
  · next hslash =>
    split
    · next hhidden =>
      refine .number ?_
      simp only [Bool.or_eq_true, decide_eq_true_eq] at hhidden
      omega
    · next hshows => exact .self (by simpa [shows] using hshows) hslash

/-- A capital digit shows. -/
theorem shows_capitalDigit {n : Nat} (h : n < 16) : shows (capitalDigit n) = true := by
  have all_digits : ∀ m : Fin 16, shows (capitalDigit m.val) = true := by decide
  exact all_digits ⟨n, h⟩

theorem EscapedAs.shows {written : List Char} (h : EscapedAs c written) :
    ∀ x ∈ written, shows x = true := by
  cases h with
  | self hshows => exact List.forall_mem_singleton.2 hshows
  | short x hshows =>
    exact List.forall_mem_cons.2 ⟨rfl, List.forall_mem_singleton.2 hshows⟩
  | number =>
    have hbyte := (UInt8.ofNat c.toNat).toNat_lt
    refine List.forall_mem_cons.2 ⟨rfl, List.forall_mem_cons.2 ⟨rfl, List.forall_mem_cons.2
      ⟨shows_capitalDigit ?_, List.forall_mem_singleton.2 (shows_capitalDigit ?_)⟩⟩⟩
    · omega
    · omega

/-- What is no backslash stands for itself. -/
theorem unescape_cons (hslash : c ≠ '\\') (rest : List Char) :
    unescape (c :: rest) = encodeChar c ++ unescape rest := by
  rw [unescape]
  all_goals intros; contradiction

/-- The two digits of a byte are read back. -/
theorem hexByte?_capitalDigit (b : UInt8) :
    hexByte? (capitalDigit (b.toNat / 16)) (capitalDigit (b.toNat % 16)) = some b := by
  have hbyte := b.toNat_lt
  have hhigh := hexDigit?_capitalDigit (n := b.toNat / 16) (by omega)
  have hlow := hexDigit?_capitalDigit (n := b.toNat % 16) (by omega)
  have hnumber : UInt8.ofNat (16 * (b.toNat / 16) + b.toNat % 16) = b := by
    rw [Nat.div_add_mod, UInt8.ofNat_toNat]
  simp only [hexByte?, hhigh, hlow, hnumber]

/-- A number of two digits stands for the byte of that number. -/
theorem unescape_byteDigits (b : UInt8) (rest : List Char) :
    unescape ('\\' :: 'x' :: (byteDigits b ++ rest)) = b :: unescape rest := by
  change unescape ('\\' :: 'x' :: capitalDigit (b.toNat / 16) :: capitalDigit (b.toNat % 16) ::
    rest) = _
  rw [unescape]
  simp only [hexByte?_capitalDigit]

/-- **A character that was escaped** is read back, whatever stands behind it. -/
theorem EscapedAs.read {written : List Char} (h : EscapedAs c written) (rest : List Char) :
    unescape (written ++ rest) = encodeChar c ++ unescape rest := by
  cases h with
  | self _ hslash => exact unescape_cons hslash rest
  | short x _ hread => exact hread rest
  | number hascii =>
    rw [encodeChar_of_ascii hascii]
    exact unescape_byteDigits _ rest

/-! ## Texts -/

/-- **Escaped text shows**, all of it. -/
theorem shows_of_mem_escape {x : Char} (h : x ∈ escape cs) : shows x = true := by
  obtain ⟨c, -, hx⟩ := List.mem_flatMap.1 h
  exact (escapedAs_escapeChar c).shows x hx

/-- **Escaped text is read back** as the bytes of the text. -/
theorem unescape_escape (cs : List Char) : unescape (escape cs) = encode cs := by
  induction cs with
  | nil => rfl
  | cons c cs ih =>
    rw [escape, List.flatMap_cons, (escapedAs_escapeChar c).read, encode_cons]
    exact congrArg (encodeChar c ++ ·) ih

end Multiscan.Text
