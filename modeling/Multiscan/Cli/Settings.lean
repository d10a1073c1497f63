import Multiscan.Cli.Help
import Multiscan.FlagWord
import Multiscan.Text.Escaped
/-!
# Command line — settings

What the parts of a command line set. They are taken one by one; the first
that makes no sense ends the reading, and so does a request for help. Files
are not read here: settings only say where patterns and haystack come from.
-/

namespace Multiscan.Cli

open Text (Bytes)

/-- Where patterns come from. -/
inductive PatternSource
  | given (pattern : String)
  | file (path : Bytes)
  deriving DecidableEq

/-- Where the text to scan comes from. -/
inductive HaystackSource
  | given (text : String)
  | file (path : Bytes)
  deriving DecidableEq

/-- What the options and arguments of a command have set so far. -/
structure Settings where
  quiet : Bool
  noTable : Bool
  patterns : List PatternSource
  fixedStrings : Bool
  flags : FlagSet
  sizeLimit : Option (Option Nat)
  noGroups : Bool
  haystack : Option HaystackSource
  count : Bool
  repetitions : Option Nat

namespace Settings

/-- What holds without options. -/
def default : Settings :=
  ⟨false, false, [], false, .empty, none, false, none, false, none⟩

/-- Whether the table is to be printed. -/
def table (s : Settings) : Bool := !s.noTable && !s.quiet

/-- The same flags and one more. -/
def setFlag (s : Settings) (f : Flag) : Settings := { s with flags := s.flags.insert f }

/-- One more source of patterns, behind the others. -/
def addPatterns (s : Settings) (p : PatternSource) : Settings :=
  { s with patterns := s.patterns ++ [p] }

end Settings

/-! ## Values of options -/

/-- The digits of a number up to `most`, those before them having come to
`n`. -/
def parseDigits (most : Nat) (n : Nat) : List Char → Except String Nat
  | [] => .ok n
  | c :: cs =>
    if !c.isDigit then .error "invalid digit found in string"
    else if most < 10 * n + (c.toNat - 48) then
      .error "number too large to fit in target type"
    else parseDigits most (10 * n + (c.toNat - 48)) cs

/-- A number up to `most`, which may have a plus sign. -/
def parseNumber (most : Nat) (s : String) : Except String Nat :=
  match s.toList with
  | [] => .error "cannot parse integer from empty string"
  | '+' :: c :: cs => parseDigits most 0 (c :: cs)
  | cs => parseDigits most 0 cs

/-- The number that a limit or `none` stands for. -/
def parseLimit (s : String) : Except String (Option Nat) :=
  if s = "none" then .ok none else (parseNumber (UInt64.size - 1) s).map some

/-- A value that has to be text. -/
def textOf (value : Bytes) : Except String String :=
  match Text.decode? value with
  | some cs => .ok (String.ofList cs)
  | none => .error ("argument is invalid unicode: " ++ Text.quotedBytes value)

/-- Something that can fail, with what it was about before the reason. -/
def about {α : Type} (what : String) (x : Except String α) : Except String α :=
  x.mapError fun reason => what ++ ": " ++ reason

/-- A value that is text and stands for something. -/
def parsed {α : Type} (what : String) (value : Bytes) (parse : String → Except String α) :
    Except String α :=
  about what (textOf value >>= parse)

/-! ## Reading a command line -/

/-- What an option is called when its value is missing. -/
def Setting.missing : Setting → String
  | .pattern => "-p/--pattern needs a value"
  | .patternFile => "-f/--pattern-file"
  | .namedFlag => "--flag"
  | .sizeLimit => "--size-limit"
  | .haystack => "-y/--haystack needs a value"
  | .repetitions => "--repeat"
  | _ => ""

/-- Settings without a haystack so far. -/
def needNoHaystack (s : Settings) : Except String Unit :=
  if s.haystack.isSome then .error "only one haystack is allowed" else .ok ()

/-- The haystack that escaped text stands for. -/
def unescapeHaystack (s : String) : Except String String :=
  let bytes := (Text.unescape s.toList).toArray
  match Text.decode? bytes with
  | some cs => .ok (String.ofList cs)
  | none =>
    .error ("-y/--haystack must unescape to valid UTF-8: " ++ Text.invalidMessage bytes)

/-- What an option without a value sets. -/
def setFlagOption (s : Settings) : Setting → Settings
  | .quiet => { s with quiet := true }
  | .noTable => { s with noTable := true }
  | .fixedStrings => { s with fixedStrings := true }
  | .flag f => s.setFlag f
  | .noGroups => { s with noGroups := true }
  | .count => { s with count := true }
  | _ => s

/-- What an option sets to its value. -/
def setValueOption (s : Settings) (value : Bytes) : Setting → Except String Settings
  | .pattern => do
    return s.addPatterns (.given (← about "-p/--pattern must be valid UTF-8" (textOf value)))
  | .patternFile => return s.addPatterns (.file value)
  | .namedFlag => do
    let f ← parsed "--flag" value fun name => (Flag.ofName? name).mapError Error.message
    return s.setFlag f
  | .sizeLimit => return { s with sizeLimit := some (← parsed "--size-limit" value parseLimit) }
  | .haystack => do
    needNoHaystack s
    let text ← about "-y/--haystack must be valid UTF-8" (textOf value)
    return { s with haystack := some (.given (← unescapeHaystack text)) }
  | .repetitions => do
    return { s with repetitions := some (← parsed "--repeat" value (parseNumber (UInt32.size - 1))) }
  | _ => return s

/-- What a positional argument sets. -/
def setPositional (c : Command) (s : Settings) (value : Bytes) : Except String Settings :=
  match c with
  | .scan => do
    needNoHaystack s
    return { s with haystack := some (.file value) }
  | .info | .validate => do
    return s.addPatterns (.given (← about "patterns must be valid UTF-8" (textOf value)))
  | .version => .error ("unexpected argument " ++ Text.quotedBytes value)

/-- Whether a name asks for help and, if so, for the long one. -/
def helpAsked : Name → Option Bool
  | .short 'h' => some false
  | .long "help" => some true
  | _ => none

/-- The option of a name, unless help is asked for or there is none. -/
def entryFor (c : Command) (name : Name) : Except String OptionEntry :=
  match helpAsked name with
  | some long => .error (c.help long)
  | none =>
    match c.option? name with
    | some o => .ok o
    | none => .error ("invalid option '" ++ name.written ++ "'")

/-- What a part of a command line sets. -/
def setToken (c : Command) (s : Settings) : Token → Except String Settings
  | .flag name => do return setFlagOption s (← entryFor c name).setting
  | .option name value => do setValueOption s value (← entryFor c name).setting
  | .missing name => do
    let o ← entryFor c name
    -- A second haystack is one too many, whatever its value would have been.
    if o.setting = .haystack then needNoHaystack s
    .error (o.setting.missing ++ ": missing argument for option '" ++ name.written ++ "'")
  | .surplus name value =>
    .error ("unexpected argument for option '" ++ name.written ++ "': " ++ Text.quotedBytes value)
  | .positional value => setPositional c s value

/-- What a command line sets, and why its reading ended before its end, if
it did. -/
structure Reading where
  settings : Settings
  stop : Option String

/-- A command line read on. -/
def readTokens (c : Command) (s : Settings) : List Token → Reading
  | [] => ⟨s, none⟩
  | t :: rest =>
    match setToken c s t with
    | .ok s' => readTokens c s' rest
    | .error message => ⟨s, some message⟩

/-- The arguments of a command read. -/
def readArguments (c : Command) (arguments : List Bytes) (allPositional : Bool) : Reading :=
  readTokens c .default
    (if allPositional then arguments.map .positional else tokens c.takesValue arguments)

end Multiscan.Cli
