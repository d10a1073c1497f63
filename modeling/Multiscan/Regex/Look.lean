import Multiscan.Text.Utf8
import Multiscan.Unicode.Word
/-!
# Regex — assertions about a position

An assertion holds or fails at an offset of a byte sequence and takes no
bytes. Assertions about words come in two readings: over bytes, where the
word characters are those of ASCII, and over characters, where a neighbour
is a word character if it can be read and is one. Those among the latter
that hold next to something that is no word character ask that the
neighbour can be read, so that they never hold inside a character.
-/

namespace Multiscan.Regex

open Text (Bytes decodeAt decodeBefore)

/-- The assertions about a position. -/
inductive Look
  | start
  | stop
  | startLine
  | stopLine
  | startLineCrlf
  | stopLineCrlf
  | wordAscii
  | wordAsciiNegate
  | wordUnicode
  | wordUnicodeNegate
  | wordStartAscii
  | wordEndAscii
  | wordStartUnicode
  | wordEndUnicode
  | wordStartHalfAscii
  | wordEndHalfAscii
  | wordStartHalfUnicode
  | wordEndHalfUnicode
  deriving DecidableEq, Repr

/-- Word characters of ASCII. -/
def isWordByte (b : UInt8) : Bool :=
  (0x30 ≤ b && b ≤ 0x39) || (0x41 ≤ b && b ≤ 0x5A) || b == 0x5F || (0x61 ≤ b && b ≤ 0x7A)

/-- Whether the byte before an offset is a word character. -/
def wordByteBefore (bs : Bytes) (i : Nat) : Bool :=
  if i = 0 then false else (bs[i - 1]?.map isWordByte).getD false

/-- Whether the byte at an offset is a word character. -/
def wordByteAt (bs : Bytes) (i : Nat) : Bool := (bs[i]?.map isWordByte).getD false

/-- Whether the character before an offset is a word character, if one can
be read there. -/
def wordCharBefore? (bs : Bytes) (i : Nat) : Option Bool :=
  (decodeBefore bs i).map Unicode.isWordCharacter

/-- Whether the character at an offset is a word character, if one can be
read there. -/
def wordCharAt? (bs : Bytes) (i : Nat) : Option Bool :=
  (decodeAt bs i).map Unicode.isWordCharacter

/-- As `wordCharBefore?`, with the start of the bytes counting as no word
character. -/
def sideBefore? (bs : Bytes) (i : Nat) : Option Bool :=
  if i = 0 then some false else wordCharBefore? bs i

/-- As `wordCharAt?`, with the end of the bytes counting as no word
character. -/
def sideAt? (bs : Bytes) (i : Nat) : Option Bool :=
  if bs.size ≤ i then some false else wordCharAt? bs i

/-- Whether an assertion holds at an offset. -/
def Look.holds (l : Look) (bs : Bytes) (i : Nat) : Bool :=
  match l with
  | .start => i == 0
  | .stop => i == bs.size
  | .startLine => i == 0 || bs[i - 1]? == some 0x0A
  | .stopLine => i == bs.size || bs[i]? == some 0x0A
  | .startLineCrlf =>
    i == 0 || bs[i - 1]? == some 0x0A ||
      (bs[i - 1]? == some 0x0D && (decide (bs.size ≤ i) || bs[i]? != some 0x0A))
  | .stopLineCrlf =>
    i == bs.size || bs[i]? == some 0x0D ||
      (bs[i]? == some 0x0A && (i == 0 || bs[i - 1]? != some 0x0D))
  | .wordAscii => wordByteBefore bs i != wordByteAt bs i
  | .wordAsciiNegate => wordByteBefore bs i == wordByteAt bs i
  | .wordStartAscii => !wordByteBefore bs i && wordByteAt bs i
  | .wordEndAscii => wordByteBefore bs i && !wordByteAt bs i
  | .wordStartHalfAscii => !wordByteBefore bs i
  | .wordEndHalfAscii => !wordByteAt bs i
  | .wordUnicode =>
    (wordCharBefore? bs i).getD false != (wordCharAt? bs i).getD false
  | .wordUnicodeNegate =>
    match sideBefore? bs i, sideAt? bs i with
    | some before, some behind => before == behind
    | _, _ => false
  | .wordStartUnicode =>
    !(wordCharBefore? bs i).getD false && (wordCharAt? bs i).getD false
  | .wordEndUnicode =>
    (wordCharBefore? bs i).getD false && !(wordCharAt? bs i).getD false
  | .wordStartHalfUnicode => sideBefore? bs i == some false
  | .wordEndHalfUnicode => sideAt? bs i == some false

end Multiscan.Regex
