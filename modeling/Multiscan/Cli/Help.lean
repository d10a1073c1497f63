import Multiscan.Cli.Options
/-!
# Command line — help

What the commands do and how they are called, in their own words. The short
help lists the options on one line each, the long one with paragraphs.
-/

namespace Multiscan.Cli

/-- The options in the order of their long forms. -/
def sortOptions (os : List OptionEntry) : List OptionEntry :=
  os.mergeSort fun a b => decide (a.longForm ≤ b.longForm)

/-- Lines, each with its end. -/
def joinLines (ls : List String) : String := String.join (ls.map (· ++ "\n"))

/-- The options with one line for each. -/
def briefOptions (os : List OptionEntry) : String :=
  let width := Text.maxLength (os.map (·.form))
  joinLines (os.map fun o => "    " ++ Text.padRight width o.form ++ "  " ++ o.brief)

/-- A paragraph of the long help. -/
def fullParagraph (p : String) : String :=
  joinLines ((Text.wrap 71 p).map ("        " ++ ·))

/-- An option with its paragraphs. -/
def fullOption (o : OptionEntry) : String :=
  "    " ++ o.form ++ "\n" ++ "\n".intercalate (o.full.map fullParagraph)

/-- The options with their paragraphs. -/
def fullOptions (os : List OptionEntry) : String := "\n".intercalate (os.map fullOption)

/-- The help for calls without a command. -/
def generalHelp : String := "\n".intercalate
    [ "A tool for compiling, validating and scanning with hsmatch databases.",
      "",
      "USAGE:",
      "    hsmatch-cli <command> ...",
      "",
      "COMMANDS:",
      "    info      Print metadata about patterns and the database they compile to.",
      "    scan      Compile patterns into a database and scan a haystack with it.",
      "    validate  Check patterns against both engine variants.",
      "    version   Print the engine version and whether this CPU can run it." ]

namespace Command

/-- What a command does and how it is called. -/
def description : Command → String
  | info => "\n".intercalate
    [ "Prints what the base engine variant knows about each pattern, then compiles",
      "all of them into one database and prints its size and the size of scratch",
      "space allocated for it.",
      "",
      "USAGE:",
      "    hsmatch-cli info <pattern> ..." ]
  | scan => "\n".intercalate
    [ "Compiles every pattern into one database and scans a haystack with it.",
      "",
      "Each match is printed as 'id:start:end', where offsets are counted in",
      "characters. With -x/--extract the matched text follows as a fourth field.",
      "",
      "USAGE:",
      "    hsmatch-cli scan [-p <pattern> ...] <haystack-path>",
      "    hsmatch-cli scan [-p <pattern> ...] -y <haystack>" ]
  | validate => "\n".intercalate
    [ "Checks every pattern against both engine variants and prints the verdicts.",
      "",
      "For each pattern, one line is printed per variant, either 'ok' or the reason",
      "the variant rejected the pattern. A pattern is usable if at least one variant",
      "accepts it. The command fails if any pattern is unusable.",
      "",
      "USAGE:",
      "    hsmatch-cli validate <pattern> ..." ]
  | version => "\n".intercalate
    [ "Prints the version of the default engine and whether this CPU can run it.",
      "",
      "USAGE:",
      "    hsmatch-cli version" ]

/-- What stands between the description of a command and its options. -/
def optionsHeading : String := "\n".intercalate
    [ "",
      "",
      "TIP:",
      "    use -h for short docs and --help for long docs",
      "",
      "OPTIONS:",
      "" ]

/-- The help for a command, without the end of its last line. -/
def help (c : Command) (long : Bool) : String :=
  let os := sortOptions c.options
  if os.isEmpty then c.description
  else
    let listed := if long then fullOptions os else briefOptions os
    c.description ++ optionsHeading ++ (listed.dropEndWhile (· == '\n')).toString

end Command

end Multiscan.Cli
