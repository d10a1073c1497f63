import Multiscan.Unicode.Age
import Multiscan.Unicode.BinaryProperty
import Multiscan.Unicode.GeneralCategory
import Multiscan.Unicode.PropertyName
import Multiscan.Unicode.Script
import Multiscan.Unicode.Segmentation
import Multiscan.Unicode.Word
/-!
# Unicode — asking for a set by property

A set of characters is asked for by one name (a binary property, a general
category or a script) or by a property and one of its values. Either the
property or the value can be unknown.
-/

namespace Multiscan.Unicode

/-- Why a property query has no answer. -/
inductive QueryFault
  /-- No property has the name. -/
  | propertyNotFound
  /-- The property has no value of the name. -/
  | valueNotFound
  deriving DecidableEq, Repr

/-- Every code point a character can have. -/
def everything : List (Nat × Nat) := [(0, 0x10FFFF)]

/-- The code points outside the given ascending ranges, `next` being the
first not yet accounted for. Surrogates are no characters. -/
def outside (next : Nat) : List (Nat × Nat) → List (Nat × Nat)
  | [] => if next ≤ 0x10FFFF then [(next, 0x10FFFF)] else []
  | (lo, hi) :: rest =>
    if next < lo then (next, lo - 1) :: outside (hi + 1) rest else outside (hi + 1) rest

/-- The set of a general category, by its short name. -/
def categorySet (value : String) : Except QueryFault (List (Nat × Nat)) :=
  if value == "Nd" then .ok decimalDigits
  else if value == "Cs" then .error .valueNotFound
  else .ok (categoryRanges value)

/-- The general category that a name stands for, or one of three sets that
are asked for in the same way. -/
def category? (name : String) : Option (Except QueryFault (List (Nat × Nat))) :=
  match normalizeName name with
  | "any" => some (.ok everything)
  | "ascii" => some (.ok [(0, 0x7F)])
  | "assigned" => some (.ok (outside 0 (rangesWith (runsOfText categoryRuns) ["Cn", "Cs"])))
  | _ => (canonicalName categoryNames name).map categorySet

/-- The set of a script that has members, by its short name. -/
def scriptSet (value : String) : Except QueryFault (List (Nat × Nat)) :=
  match scriptRanges value with
  | [] => .error .valueNotFound
  | ranges => if value == "Zzzz" then .error .valueNotFound else .ok ranges

/-- The set of a binary property, by its long name. -/
def binarySet (name : String) : Except QueryFault (List (Nat × Nat)) :=
  if name == "White_Space" then .ok whiteSpace
  else match binaryRanges name with
    | some ranges => .ok ranges
    | none => .error .propertyNotFound

/-- The set a single name asks for. Three names are short for a general
category and for a property whose sets are not listed here; they mean the
category. -/
def setNamed (name : String) : Except QueryFault (List (Nat × Nat)) :=
  let wanted := normalizeName name
  let property :=
    if wanted == "cf" || wanted == "sc" || wanted == "lc" then none
    else canonicalName propertyNames name
  match property with
  | some long => binarySet long
  | none =>
    match category? name with
    | some answer => answer
    | none =>
      match canonicalName scriptNames name with
      | some short => scriptSet short
      | none => .error .propertyNotFound

/-- The set of a value of one of the segmentation properties. -/
def breakSet (names : List (String × String)) (runs : String) (value : String) :
    Except QueryFault (List (Nat × Nat)) :=
  match canonicalName (names.map fun n => (n.1, [n.2])) value with
  | none => .error .valueNotFound
  | some short =>
    match rangesWith (runsOfText runs) [short] with
    | [] => .error .valueNotFound
    | ranges => if short == "XX" then .error .valueNotFound else .ok ranges

/-- The set asked for by a property and a value. -/
def setWithValue (property value : String) : Except QueryFault (List (Nat × Nat)) :=
  match canonicalName propertyNames property with
  | none => .error .propertyNotFound
  | some "General_Category" => (category? value).getD (.error .valueNotFound)
  | some "Script" =>
    match canonicalName scriptNames value with
    | none => .error .valueNotFound
    | some short => scriptSet short
  | some "Script_Extensions" =>
    match canonicalName scriptNames value with
    | none => .error .valueNotFound
    | some short => if short == "Zzzz" || short == "Hrkt" then .error .valueNotFound
      else .ok (scriptExtensionRanges short)
  | some "Age" =>
    match ages.find? fun v => (ageNames v).any (normalizeName · == normalizeName value) with
    | none => .error .valueNotFound
    | some version => .ok (ageRanges version)
  | some "Grapheme_Cluster_Break" => breakSet graphemeBreakNames graphemeBreakRuns value
  | some "Word_Break" => breakSet wordBreakNames wordBreakRuns value
  | some "Sentence_Break" => breakSet sentenceBreakNames sentenceBreakRuns value
  | some _ => .error .valueNotFound

end Multiscan.Unicode
