import Multiscan.Text.Broken
/-!
# Text — escaped text

A way to write any bytes on one line of printable text: `\0`, `\r`, `\n`,
`\t` and `\\` have short escapes, and `\x` before two hexadecimal digits
stands for the byte of that number. What is no escape stands for itself,
backslash included. Escaping writes every ASCII character that is a blank or
does not print as an escape and keeps everything else.
-/

namespace Multiscan.Text

/-- The byte of two hexadecimal digits. -/
def hexByte? (a b : Char) : Option UInt8 :=
  match hexDigit? a, hexDigit? b with
  | some hi, some lo => some (UInt8.ofNat (16 * hi + lo))
  | _, _ => none

/-- The bytes that escaped text stands for. A number that breaks off after
one digit stands for itself, the character that breaks it off included. -/
def unescape : List Char → List UInt8
  | [] => []
  | ['\\'] => encode ['\\']
  | '\\' :: '0' :: rest => 0 :: unescape rest
  | '\\' :: '\\' :: rest => 92 :: unescape rest
  | '\\' :: 'r' :: rest => 13 :: unescape rest
  | '\\' :: 'n' :: rest => 10 :: unescape rest
  | '\\' :: 't' :: rest => 9 :: unescape rest
  | ['\\', 'x'] => encode ['\\', 'x']
  | ['\\', 'x', a] => encode ['\\', 'x', a]
  | '\\' :: 'x' :: a :: b :: rest =>
    match hexByte? a b with
    | some byte => byte :: unescape rest
    | none =>
      if (hexDigit? a).isSome then encode ['\\', 'x', a, b] ++ unescape rest
      else encode ['\\', 'x', a] ++ unescape (b :: rest)
  | '\\' :: c :: rest => encode ['\\', c] ++ unescape rest
  | c :: rest => encodeChar c ++ unescape rest

/-- A character in escaped text. -/
def escapeChar (c : Char) : List Char :=
  match c with
  | '\x00' => ['\\', '0']
  | '\r' => ['\\', 'r']
  | '\n' => ['\\', 'n']
  | '\t' => ['\\', 't']
  | '\\' => ['\\', '\\']
  | c =>
    if c.toNat ≤ 0x20 || c.toNat = 0x7F then '\\' :: 'x' :: byteDigits (UInt8.ofNat c.toNat)
    else [c]

/-- A text in escaped form. -/
def escape (cs : List Char) : List Char := cs.flatMap escapeChar

end Multiscan.Text
