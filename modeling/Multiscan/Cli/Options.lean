import Multiscan.Cli.Arguments
import Multiscan.Flag
import Multiscan.Text.Layout
/-!
# Command line — options

Every option has one entry: what it sets, how it is written, whether it
takes a value, and its documentation. Recognising options and printing help
both go by these entries.
-/

namespace Multiscan.Cli

/-- The commands. -/
inductive Command
  | info
  | scan
  | validate
  | version
  deriving DecidableEq, Repr

/-- What an option sets. -/
inductive Setting
  | quiet
  | noTable
  /-- One more pattern. -/
  | pattern
  /-- The patterns of a file. -/
  | patternFile
  | fixedStrings
  | flag (f : Flag)
  /-- The flag that the value names. -/
  | namedFlag
  | sizeLimit
  | noGroups
  | haystack
  | count
  | repetitions
  deriving DecidableEq, Repr

/-- An option and its documentation: `value?` is what help calls its value,
`brief` fits behind it on one line, `full` is a list of paragraphs. -/
structure OptionEntry where
  setting : Setting
  short? : Option Char
  long : String
  value? : Option String
  brief : String
  full : List String

namespace OptionEntry

/-- The long form of an option with its value, as help writes it. -/
def longForm (o : OptionEntry) : String :=
  "--" ++ o.long ++ (match o.value? with
    | some v => " <" ++ v ++ ">"
    | none => "")

/-- An option as help writes it. -/
def form (o : OptionEntry) : String :=
  match o.short? with
  | some c => String.ofList ['-', c] ++ ", " ++ o.longForm
  | none => o.longForm

/-- Whether a name is one of an option. -/
def hasName (o : OptionEntry) : Name → Bool
  | .short c => o.short? == some c
  | .long name => o.long == name

end OptionEntry

/-! ## The options -/

/-- Options on output, for every command but `version`. -/
def commonOptions : List OptionEntry :=
  [ ⟨.quiet, some 'q', "quiet", none, "Suppress the table and per-item output.",
      [ "Suppresses everything but the essential result of a command. For 'scan' this " ++
        "means only the total number of matches is printed. For 'validate' nothing is " ++
        "printed and the exit status says whether every pattern was valid." ]⟩,
    ⟨.noTable, none, "no-table", none, "Omit the table of timings and sizes.",
      [ "Most commands print a table of timings and sizes after their main output. " ++
        "Passing this flag suppresses it." ]⟩ ]

/-- Options that name patterns. -/
def patternOptions : List OptionEntry :=
  [ ⟨.pattern, some 'p', "pattern", some "pattern", "Add a pattern to this command.",
      [ "Adds a pattern. Its id is its position among all the patterns given, counting " ++
        "from zero, whether they come from this flag, from -f/--pattern-file or from " ++
        "positional arguments (where supported).",
        "All patterns must be valid UTF-8." ]⟩,
    ⟨.patternFile, some 'f', "pattern-file", some "path",
      "Read patterns from a file, one per line.",
      [ "Reads patterns from the file given, one per line. Empty lines are skipped." ]⟩,
    ⟨.fixedStrings, some 'F', "fixed-strings", none, "Interpret all patterns literally.",
      [ "Escapes every pattern so that meta characters like '+' match themselves." ]⟩ ]

/-- Options that set flags of all patterns. -/
def flagOptions : List OptionEntry :=
  [ ⟨.flag .caseless, some 'i', "caseless", none, "Match case insensitively.",
      [ "Sets the caseless flag on every pattern." ]⟩,
    ⟨.flag .dotAll, some 's', "dotall", none, "Let '.' match a line terminator.",
      [ "Sets the dotall flag on every pattern, so that '.' also matches '\\n'." ]⟩,
    ⟨.flag .multiLine, some 'm', "multiline", none, "Let '^' and '$' match at line boundaries.",
      [ "Sets the multiline flag on every pattern, so that '^' and '$' match at the " ++
        "start and end of every line instead of only at the start and end of the haystack." ]⟩,
    ⟨.flag .utf8, some 'u', "utf8", none, "Treat patterns and haystacks as UTF-8.",
      [ "Sets the utf8 flag on every pattern." ]⟩,
    ⟨.flag .singleMatch, none, "single-match", none, "Report at most one match per pattern.",
      [ "Sets the single-match flag on every pattern. Each pattern then reports only " ++
        "its first match in the haystack." ]⟩,
    ⟨.flag .extractMatched, some 'x', "extract", none, "Print the text of each match.",
      [ "Extracts the matched text of every match and prints it after the offsets." ]⟩,
    ⟨.namedFlag, none, "flag", some "name", "Set a flag by name.",
      [ "Sets any flag by its name. The names are: caseless, dotall, multiline, " ++
        "single-match, allow-empty, utf8, ucp, prefilter, som-leftmost and extract-matched.",
        "The allow-empty, prefilter and som-leftmost flags are only understood by the " ++
        "base engine variant, so they only make sense with the 'validate' and 'info' " ++
        "commands." ]⟩ ]

/-- Options on the engine and on compiling. -/
def engineOptions : List OptionEntry :=
  [ ⟨.sizeLimit, none, "size-limit", some "bytes", "Bound the compiled size of each pattern.",
      [ "Sets the maximum size in bytes of each pattern's compiled automaton. Patterns " ++
        "that exceed it fail to compile. The default is 10485760 (10 MiB). The special " ++
        "value 'none' removes the limit.",
        "Only the portable engine supports this." ]⟩,
    ⟨.noGroups, none, "no-groups", none, "Compile without capture group support.",
      [ "Compiles the database in a mode that doesn't track capture groups. Match " ++
        "offsets are unaffected." ]⟩ ]

/-- The option that gives the text to scan. -/
def haystackOptions : List OptionEntry :=
  [ ⟨.haystack, some 'y', "haystack", some "haystack",
      "Provide an inline haystack on the command line.",
      [ "Scans the value of this flag instead of a file. Escape sequences are " ++
        "supported, so \"-y 'a\\tb'\" contains a tab. The result must be valid UTF-8, " ++
        "since match offsets are reported in characters.",
        "Exactly one haystack is permitted: either this flag or a file path given as a " ++
        "positional argument. Files are memory mapped." ]⟩ ]

/-- Options on scanning. -/
def scanOptions : List OptionEntry :=
  [ ⟨.count, some 'c', "count", none, "Print a count of matches per pattern.",
      [ "Prints 'id:count' for every pattern instead of the matches themselves." ]⟩,
    ⟨.repetitions, none, "repeat", some "n", "Scan the haystack n times.",
      [ "Scans the haystack this many times with the same scratch space, which is " ++
        "useful for ad hoc timing. Only the matches of the last scan are printed. The " ++
        "default is 1." ]⟩ ]

namespace Command

/-- The options of a command. -/
def options : Command → List OptionEntry
  | info | validate => commonOptions ++ patternOptions ++ flagOptions ++ engineOptions
  | scan =>
    commonOptions ++ patternOptions ++ flagOptions ++ engineOptions ++ haystackOptions ++ scanOptions
  | version => []

/-- The option of a command that has a name. -/
def option? (c : Command) (name : Name) : Option OptionEntry :=
  c.options.find? (·.hasName name)

/-- Whether an option of a command takes a value. -/
def takesValue (c : Command) (name : Name) : Bool :=
  (c.option? name).any (·.value?.isSome)

end Command

end Multiscan.Cli
