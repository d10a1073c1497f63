import Multiscan.Syntax.Escape
/-!
# Syntax — respelling a pattern

Two ways of rewriting the text of a pattern before it is read. Quoting puts
a backslash before every character that could have a meaning, so that the
pattern stands for its own text. Spelling in bytes writes every non-ASCII
character as the escapes of the bytes of its encoding, so that the pattern
means those bytes; a backslash before such a character goes with it.
-/

namespace Multiscan.Syntax

/-- The pattern that stands for a text. -/
def quote (text : List Char) : List Char :=
  text.flatMap fun c => if isMeta c then ['\\', c] else [c]

/-- The escape of a byte. -/
def byteEscape (b : UInt8) : List Char := '\\' :: 'x' :: Text.byteDigits b

/-- The escapes of the bytes of a character. -/
def charInBytes (c : Char) : List Char := (Text.encodeChar c).flatMap byteEscape

/-- A pattern spelled in bytes. -/
def spellInBytes : List Char → List Char
  | [] => []
  | '\\' :: c :: cs =>
    if c.toNat < 128 then '\\' :: c :: spellInBytes cs else charInBytes c ++ spellInBytes cs
  | c :: cs => if c.toNat < 128 then c :: spellInBytes cs else charInBytes c ++ spellInBytes cs

end Multiscan.Syntax
