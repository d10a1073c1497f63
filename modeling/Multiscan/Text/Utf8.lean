/-!
# Text — UTF-8

A text is a sequence of characters, and what an engine scans is the bytes
of its UTF-8 encoding. This file says how many bytes a character takes,
reads characters back out of bytes at a given offset, and says which
offsets are boundaries between characters. Reading is strict: an overlong
form, a surrogate or a truncated sequence is no character.
-/

namespace Multiscan.Text

/-- A sequence of bytes. -/
abbrev Bytes := Array UInt8

/-- The number of bytes in the encoding of a character. -/
def width (c : Char) : Nat :=
  if c.toNat ≤ 0x7F then 1
  else if c.toNat ≤ 0x7FF then 2
  else if c.toNat ≤ 0xFFFF then 3
  else 4

theorem width_pos (c : Char) : 0 < width c := by
  unfold width
  split
  · omega
  · split
    · omega
    · split <;> omega

/-- The number of bytes in the encoding of a sequence of characters. -/
def byteLength (cs : List Char) : Nat := cs.foldr (fun c n => width c + n) 0

/-- The encoding of one character. -/
def encodeChar (c : Char) : List UInt8 := String.utf8EncodeChar c

/-- The encoding of a sequence of characters. -/
def encode (cs : List Char) : List UInt8 := cs.flatMap encodeChar

theorem length_encodeChar (c : Char) : (encodeChar c).length = width c := by
  rw [encodeChar, String.length_utf8EncodeChar, Char.utf8Size, width]
  rfl

@[simp] theorem encode_nil : encode [] = [] := rfl

@[simp] theorem encode_cons (c : Char) (cs : List Char) :
    encode (c :: cs) = encodeChar c ++ encode cs := rfl

@[simp] theorem encode_append (cs ds : List Char) : encode (cs ++ ds) = encode cs ++ encode ds :=
  List.flatMap_append

/-- An encoding is as long as its characters are wide. -/
theorem length_encode (cs : List Char) : (encode cs).length = byteLength cs := by
  induction cs with
  | nil => rfl
  | cons c cs ih =>
    rw [encode_cons, List.length_append, length_encodeChar, ih]
    rfl

/-- The bytes of a string. -/
def bytesOf (s : String) : Bytes := (encode s.toList).toArray

/-- A byte that continues a character begun before it. -/
def isContinuation (b : UInt8) : Bool := 0x80 ≤ b && b < 0xC0

/-- The character of the given code point, if it is one and its encoding
takes the given number of bytes. -/
def charOfWidth (n code : Nat) : Option Char :=
  if code.isValidChar then
    let c := Char.ofNat code
    if width c = n then some c else none
  else none

/-- The six bits a continuation byte carries. -/
def payload (b : UInt8) : Nat := b.toNat % 64

/-- The character whose encoding starts at an offset and ends by `stop`. -/
def decodeWithin (bs : Bytes) (stop i : Nat) : Option Char :=
  let byte (j : Nat) : Option UInt8 := if j < stop then bs[j]? else none
  match byte i with
  | none => none
  | some b0 =>
    if b0 < 0x80 then charOfWidth 1 b0.toNat
    else if b0 < 0xC0 then none
    else if b0 < 0xE0 then
      match byte (i + 1) with
      | some b1 =>
        if isContinuation b1 then charOfWidth 2 (b0.toNat % 32 * 64 + payload b1) else none
      | none => none
    else if b0 < 0xF0 then
      match byte (i + 1), byte (i + 2) with
      | some b1, some b2 =>
        if isContinuation b1 && isContinuation b2 then
          charOfWidth 3 ((b0.toNat % 16 * 64 + payload b1) * 64 + payload b2)
        else none
      | _, _ => none
    else if b0 < 0xF8 then
      match byte (i + 1), byte (i + 2), byte (i + 3) with
      | some b1, some b2, some b3 =>
        if isContinuation b1 && isContinuation b2 && isContinuation b3 then
          charOfWidth 4 (((b0.toNat % 8 * 64 + payload b1) * 64 + payload b2) * 64 + payload b3)
        else none
      | _, _, _ => none
    else none

theorem width_of_charOfWidth {n code : Nat} {c : Char} (h : charOfWidth n code = some c) :
    width c = n := by
  unfold charOfWidth at h
  split at h
  · simp only at h
    split at h
    · next hw => cases h; exact hw
    · cases h
  · cases h

/-- A character that is read ends within the bytes. -/
theorem decodeWithin_le {bs : Bytes} {stop i : Nat} {c : Char}
    (h : decodeWithin bs stop i = some c) : i + width c ≤ bs.size := by
  have lt_of_byte {j : Nat} {b : UInt8} (h : (if j < stop then bs[j]? else none) = some b) :
      j < bs.size := by
    split at h
    · exact (Array.getElem?_eq_some_iff.1 h).1
    · cases h
  unfold decodeWithin at h
  simp only at h
  split at h
  · cases h
  · next b0 h0 =>
    have h0 := lt_of_byte h0
    split at h
    · have := width_of_charOfWidth h; omega
    · split at h
      · cases h
      · split at h
        · split at h
          · next b1 h1 =>
            have h1 := lt_of_byte h1
            split at h
            · have := width_of_charOfWidth h; omega
            · cases h
          · cases h
        · split at h
          · split at h
            · next b1 b2 h1 h2 =>
              have h2 := lt_of_byte h2
              split at h
              · have := width_of_charOfWidth h; omega
              · cases h
            · cases h
          · split at h
            · split at h
              · next b1 b2 b3 h1 h2 h3 =>
                have h3 := lt_of_byte h3
                split at h
                · have := width_of_charOfWidth h; omega
                · cases h
              · cases h
            · cases h

/-- The character whose encoding starts at an offset. -/
def decodeAt (bs : Bytes) (i : Nat) : Option Char := decodeWithin bs bs.size i

/-- The offset, at most `back` bytes before `i`, of the last byte up to `i`
that does not continue a character. -/
def leadBefore (bs : Bytes) (i : Nat) : Nat → Nat
  | 0 => i
  | back + 1 =>
    match i, bs[i]? with
    | j + 1, some b => if isContinuation b then leadBefore bs j back else i
    | _, _ => i

/-- The character that starts at the last leading byte before an offset and
ends by the offset. -/
def decodeBefore (bs : Bytes) (i : Nat) : Option Char :=
  if i = 0 then none else decodeWithin bs i (leadBefore bs (i - 1) 3)

/-- An offset at which no character is cut: the end, or a byte that does
not continue a character. -/
def isBoundary (bs : Bytes) (i : Nat) : Bool :=
  match bs[i]? with
  | some b => !isContinuation b
  | none => i == bs.size

/-- The characters of a byte sequence from an offset on, if it is valid
throughout; `fuel` bounds their number. -/
def decodeFrom (bs : Bytes) (i : Nat) : Nat → Option (List Char)
  | 0 => if i = bs.size then some [] else none
  | fuel + 1 =>
    if i = bs.size then some []
    else match decodeAt bs i with
      | some c => (decodeFrom bs (i + width c) fuel).map (c :: ·)
      | none => none

/-- The characters of a byte sequence, if it is valid. -/
def decode? (bs : Bytes) : Option (List Char) := decodeFrom bs 0 bs.size

end Multiscan.Text
