/-!
# Flags and the variants that know them

A flag changes how an expression is compiled or how its matches are
reported. Most flags are one bit of the word that an engine takes; the one
that asks for the matched text never reaches an engine. An engine has two
variants: the base variant answers questions about single expressions, the
extended variant compiles databases and scans with them. Each knows its own
selection of bits.
-/

namespace Multiscan

/-- The two halves of an engine. -/
inductive Variant
  /-- Answers questions about single expressions. -/
  | base
  /-- Compiles databases and scans with them. -/
  | extended
  deriving DecidableEq, Repr

/-- A variant's name in messages. -/
def Variant.name : Variant → String
  | .base => "Base"
  | .extended => "Extended"

/-- A single option of an expression. -/
inductive Flag
  /-- Match without regard to case. -/
  | caseless
  /-- Let `.` match line ends. -/
  | dotAll
  /-- Let `^` and `$` match at lines. -/
  | multiLine
  /-- Report at most one match in a scan. -/
  | singleMatch
  /-- Allow the expression to match the empty text; base variant only. -/
  | allowEmpty
  /-- Read expression and text as characters in UTF-8. -/
  | utf8
  /-- Let classes be those of Unicode. -/
  | ucp
  /-- Compile as a filter; base variant only. -/
  | prefilter
  /-- Track where matches start; base variant only. -/
  | somLeftmost
  /-- Put the matched text into each match. -/
  | extractMatched
  deriving DecidableEq, Repr

namespace Flag

/-- Every flag, in the order in which sets list them. -/
def all : List Flag :=
  [caseless, dotAll, multiLine, singleMatch, allowEmpty, utf8, ucp, prefilter, somLeftmost,
    extractMatched]

theorem mem_all (f : Flag) : f ∈ all := by cases f <;> decide

/-- The name by which a flag is asked for. -/
def name : Flag → String
  | caseless => "caseless"
  | dotAll => "dotall"
  | multiLine => "multiline"
  | singleMatch => "single-match"
  | allowEmpty => "allow-empty"
  | utf8 => "utf8"
  | ucp => "ucp"
  | prefilter => "prefilter"
  | somLeftmost => "som-leftmost"
  | extractMatched => "extract-matched"

/-- The name of a flag in the printed form of a set. -/
def label : Flag → String
  | caseless => "Caseless"
  | dotAll => "DotAll"
  | multiLine => "MultiLine"
  | singleMatch => "SingleMatch"
  | allowEmpty => "AllowEmpty"
  | utf8 => "Utf8"
  | ucp => "Ucp"
  | prefilter => "Prefilter"
  | somLeftmost => "SomLeftmost"
  | extractMatched => "ExtractMatched"

/-- The bit of a flag in the word that an engine takes; none for the flag
that never reaches one. -/
def bit : Flag → UInt32
  | caseless => 1
  | dotAll => 2
  | multiLine => 4
  | singleMatch => 8
  | allowEmpty => 16
  | utf8 => 32
  | ucp => 64
  | prefilter => 128
  | somLeftmost => 256
  | extractMatched => 0

end Flag

/-- Every bit that a variant knows. -/
def Variant.knownBits : Variant → UInt32
  | .base => 0x1FF
  | .extended => 0x6F

/-- The bit that a flag sets in the word of a variant: nothing if the variant
does not know the flag, no bit if the flag does not reach engines. -/
def Flag.bits? (f : Flag) (v : Variant) : Option UInt32 :=
  if f = .extractMatched then some 0
  else if f.bit &&& v.knownBits = 0 then none
  else some f.bit

end Multiscan
