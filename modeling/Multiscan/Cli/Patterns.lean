import Multiscan.Cli.Files
import Multiscan.Cli.Settings
import Multiscan.Syntax.Spelling
/-!
# Command line — expressions

The patterns that settings name become expressions: in the order in which
they were named, all with the same flags, and all read literally if that is
asked for.
-/

namespace Multiscan.Cli

/-- The lines of a text without their ends. A carriage return before the
end of a line belongs to the end. -/
def textLines (text : String) : List String :=
  let parts := text.toList.splitOn '\n'
  let ended := parts.dropLast.map fun l => if l.getLast? = some '\r' then l.dropLast else l
  match parts.getLast? with
  | some l => (if l.isEmpty then ended else ended ++ [l]).map String.ofList
  | none => ended.map String.ofList

/-- The patterns of a file: its lines, but for those that are empty. -/
def patternsOfText (text : String) : List String := (textLines text).filter fun l => !l.isEmpty

/-- The patterns of a source. -/
def PatternSource.patterns (files : Files) : PatternSource → Except String (List String)
  | .given p => .ok [p]
  | .file path =>
    (about ("failed to read " ++ Text.lossy path) (files path).readText).map patternsOfText

/-- The patterns of all sources, in their order. -/
def allPatterns (files : Files) (sources : List PatternSource) : Except String (List String) :=
  (sources.mapM (PatternSource.patterns files)).map List.flatten

/-- The pattern that is compiled for one that was named. -/
def literalPattern (fixed : Bool) (p : String) : String :=
  if fixed then String.ofList (Syntax.quote p.toList) else p

/-- The expression for a pattern. -/
def Settings.expression (s : Settings) (p : String) : Expression :=
  .ofPattern (literalPattern s.fixedStrings p) s.flags

/-- The expressions for patterns, of which there must be some. -/
def Settings.expressions (s : Settings) (patterns : List String) :
    Except String (List Expression) :=
  if patterns.isEmpty then .error "no patterns were given"
  else .ok (patterns.map s.expression)

end Multiscan.Cli
