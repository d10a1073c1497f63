import Multiscan.FlagWord
import Multiscan.Regex.OfTree
import Multiscan.Regex.Search
import Multiscan.Syntax.Spelling
/-!
# Patterns for the built-in engine

What the built-in engine makes of a pattern and a word of flags. Without
the UTF-8 flag the pattern is first spelled in bytes and means bytes. With
it the pattern means characters; its shorthand classes and word boundaries
stay ASCII unless the flag for Unicode classes is set too.
-/

namespace Multiscan

open Syntax Regex

namespace FlagWord

/-- Whether the bit of a flag is set in a word. -/
def has (word : UInt32) (f : Flag) : Bool := word &&& f.bit != 0

end FlagWord

namespace Pattern

/-- The setting that a word of flags makes for a pattern. -/
def setting (word : UInt32) : Setting where
  caseless := FlagWord.has word .caseless
  multiLine := FlagWord.has word .multiLine
  dotAll := FlagWord.has word .dotAll
  swapGreed := false
  unicode := FlagWord.has word .utf8
  crlf := false

/-- The text of a pattern as it is read under a word of flags. -/
def spelled (pattern : List Char) (word : UInt32) : List Char :=
  if FlagWord.has word .utf8 then pattern else spellInBytes pattern

/-- The tree whose meaning counts under a word of flags. -/
def adapted (tree : Tree) (word : UInt32) : Tree :=
  if FlagWord.has word .utf8 && !FlagWord.has word .ucp then tree.toAscii else tree

/-- The expression that a pattern means under a word of flags. -/
def parse (pattern : List Char) (word : UInt32) : Except SyntaxError Regex := do
  let tree ← Tree.ofPattern? (spelled pattern word)
  let (r, _) ← ofTree (setting word) (adapted tree word)
  return r

/-- What is known about the matches of an expression: their least and
greatest length in bytes, whether an end of data is asked for anywhere, and
whether every match ends there. -/
structure Extent where
  least : Nat
  greatest : Option Nat
  atEnd : Bool
  onlyAtEnd : Bool
  deriving DecidableEq, Repr

/-- The extent of an expression, unless it is thought never to match. -/
def extent? (r : Regex) : Option Extent :=
  r.minLen?.map fun least => ⟨least, r.maxLen?, r.mentions .stop, r.endsWith .stop⟩

end Pattern

end Multiscan
