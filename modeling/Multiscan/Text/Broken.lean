import Multiscan.Text.Quoted
import Multiscan.Text.Utf8
/-!
# Text — bytes that are almost text

Bytes that should be UTF-8 but need not be. They fall into characters and
broken parts: the longest beginning of a character that goes wrong, or one
byte that begins none. A broken part shows as one replacement character, or
as the numbers of its bytes.
-/

namespace Multiscan.Text

/-- A part of bytes that are almost text. -/
inductive Piece
  | char (c : Char)
  | broken (bytes : List UInt8)
  deriving DecidableEq

/-- Whether a byte can be the second of a character with this first byte. -/
def isSecond (first b : UInt8) : Bool :=
  if first = 0xE0 then 0xA0 ≤ b && b ≤ 0xBF
  else if first = 0xED then 0x80 ≤ b && b ≤ 0x9F
  else if first = 0xF0 then 0x90 ≤ b && b ≤ 0xBF
  else if first = 0xF4 then 0x80 ≤ b && b ≤ 0x8F
  else isContinuation b

/-- The number of bytes that begin a character and go no further, where no
character is complete. -/
def brokenLength : List UInt8 → Nat
  | b₀ :: b₁ :: b₂ :: _ =>
    if 0xE0 ≤ b₀ && b₀ ≤ 0xF4 && isSecond b₀ b₁ then
      if 0xF0 ≤ b₀ && isContinuation b₂ then 3 else 2
    else 1
  | [b₀, b₁] => if 0xE0 ≤ b₀ && b₀ ≤ 0xF4 && isSecond b₀ b₁ then 2 else 1
  | _ => 1

/-- The pieces of bytes from an offset on; `fuel` bounds their number. -/
def piecesFrom (bs : Bytes) (i : Nat) : Nat → List Piece
  | 0 => []
  | fuel + 1 =>
    if bs.size ≤ i then []
    else match decodeAt bs i with
      | some c => .char c :: piecesFrom bs (i + width c) fuel
      | none =>
        let n := brokenLength (bs.extract i (i + 3)).toList
        .broken (bs.extract i (i + n)).toList :: piecesFrom bs (i + n) fuel

/-- The pieces of bytes. -/
def pieces (bs : Bytes) : List Piece := piecesFrom bs 0 bs.size

/-- The text of bytes, every broken part replaced. -/
def lossy (bs : Bytes) : String :=
  String.ofList ((pieces bs).map fun
    | .char c => c
    | .broken _ => '\uFFFD')

/-- The number of bytes before the first broken part. -/
def validLength : List Piece → Nat
  | .char c :: rest => width c + validLength rest
  | _ => 0

/-- What is wrong with bytes that are not text. -/
def invalidMessage (bs : Bytes) : String :=
  "invalid UTF-8 found at byte offset " ++ Nat.repr (validLength (pieces bs))

/-- A byte by its number. -/
def numberedByte (b : UInt8) : String := String.ofList ('\\' :: 'x' :: byteDigits b)

/-- A piece inside quotes. Unlike in text, single quotes are escaped. -/
def quotedPiece : Piece → String
  | .char '\'' => "\\'"
  | .char c => quotedChar c
  | .broken bytes => String.join (bytes.map numberedByte)

/-- Bytes in quotes. -/
def quotedBytes (bs : Bytes) : String :=
  "\"" ++ String.join ((pieces bs).map quotedPiece) ++ "\""

end Multiscan.Text
