import Multiscan.Text.Hexadecimal
import Multiscan.Unicode.BinaryProperty
import Multiscan.Unicode.GeneralCategory
import Multiscan.Unicode.Word
/-!
# Text — quoted strings

A string in double quotes, on one line and with nothing in it that cannot
be seen: quotes, backslashes and the common control characters have short
escapes; characters that attach to the one before them, and those that do
not print, are written as their code point.
-/

namespace Multiscan.Text

/-- The characters that extend the grapheme before them. -/
def graphemeExtenders : List (Nat × Nat) := (Unicode.binaryRanges "Grapheme_Extend").getD []

/-- The characters that do not print: controls, formats, private and
unassigned ones, and separators; the blank, which does, is among them. -/
def unprintable : List (Nat × Nat) :=
  Unicode.rangesWith (Unicode.runsOfText Unicode.categoryRuns)
    ["Cc", "Cf", "Cs", "Co", "Cn", "Zl", "Zp", "Zs"]

/-- Characters that extend the grapheme before them. -/
def isGraphemeExtend (c : Char) : Bool :=
  if c.toNat < 0x300 then false else Unicode.inRanges graphemeExtenders c.toNat

/-- Characters that print as themselves. -/
def isPrintable (c : Char) : Bool :=
  if c.toNat < 0x7F then decide (0x20 ≤ c.toNat) else !Unicode.inRanges unprintable c.toNat

/-- A character inside quotes. -/
def quotedChar (c : Char) : String :=
  match c with
  | '\x00' => "\\0"
  | '\t' => "\\t"
  | '\r' => "\\r"
  | '\n' => "\\n"
  | '\\' => "\\\\"
  | '"' => "\\\""
  | c =>
    if isGraphemeExtend c || !isPrintable c then
      "\\u\x7b" ++ smallHex c.toNat ++ "\x7d"
    else String.singleton c

/-- A string in quotes. -/
def quoted (s : String) : String :=
  "\"" ++ String.join (s.toList.map quotedChar) ++ "\""

end Multiscan.Text
