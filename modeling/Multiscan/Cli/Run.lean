import Multiscan.Builtin.Engine
import Multiscan.Builtin.Estimate
import Multiscan.Cli.Patterns
import Multiscan.Cli.Report
import Multiscan.Scanner
import Multiscan.Validation
/-!
# Command line — commands

A command line is carried out: arguments and files go in, a report comes
out.
-/

namespace Multiscan.Cli

open Builtin (Builder Setup)
open Text (Bytes)

/-- Something that works with the built-in engine and can fail for a reason
in words. -/
abbrev Try (α : Type) := ExceptT String (StateM (World Builtin.Heap)) α

/-- The words for an error: the error itself, then what caused it. -/
def chain (e : Error) : String :=
  match e.compileError? with
  | some c => e.message ++ ": " ++ c.toString
  | none => e.message

/-- Something that cannot fail. -/
def always {α : Type} (step : Step Builtin.Heap α) : Try α := ExceptT.lift step

/-- An operation of the library; its error becomes words. -/
def orChain {α : Type} (act : Act Builtin.Heap α) : Try α := do
  match ← always act.attempt with
  | .ok a => return a
  | .error e => throw (chain e)

/-- What is reported by something that can fail. -/
def reported (t : Try Report) : Report :=
  match (t.run Builtin.world).1 with
  | .ok r => r
  | .error message => .failed message

/-- How the engine is set up that settings ask for. -/
def Settings.setup (s : Settings) (builder : Builder) : Setup :=
  ⟨builder, s.sizeLimit.getD (some Builtin.defaultLimit)⟩

/-- The engine that settings ask for. -/
def Settings.engine (s : Settings) (builder : Builder) : Engine Builtin.Heap :=
  Builtin.engine (s.setup builder)

/-- The database that settings ask for. -/
def Settings.compile (s : Settings) (builder : Builder) (es : List Expression) : Try Database :=
  orChain (Database.compile (s.engine builder) (!s.noGroups) es)

/-! ## Facts about patterns -/

/-- A yes or a no. -/
def yesNo (b : Bool) : String := if b then "true" else "false"

/-- The lines on one expression. -/
def infoLines (E : Engine Builtin.Heap) (id : Nat) (e : Expression) :
    Step Builtin.Heap (List String) := do
  let heading := Nat.repr id ++ ": " ++ e.pattern
  match ← (e.info E).attempt with
  | .error err => return [heading, "    error: " ++ err.message]
  | .ok i =>
    return [ heading,
      "    min width: " ++ Nat.repr i.least,
      "    max width: " ++ (match i.greatest with
        | some n => Nat.repr n
        | none => "unbounded"),
      "    unordered matches: " ++ yesNo i.unordered,
      "    matches at end: " ++ yesNo i.atEnd,
      "    matches only at end: " ++ yesNo i.onlyAtEnd ]

/-- The lines on all expressions from a position on. -/
def allInfoLines (E : Engine Builtin.Heap) (id : Nat) :
    List Expression → Step Builtin.Heap (List String)
  | [] => return []
  | e :: es => do
    let here ← infoLines E id e
    let rest ← allInfoLines E (id + 1) es
    return here ++ rest

/-- The table on a database of the expressions. -/
def databaseRows (builder : Builder) (s : Settings) (es : List Expression) : Try (List Row) := do
  let E := s.engine builder
  let d ← s.compile builder es
  let size ← orChain (d.size E)
  let scanner ← orChain (Scanner.ofDatabase E d)
  let scratch ← orChain (scanner.scratchSize E)
  let base ← always (scanner.baseScratchSize E).attempt
  let baseRow : List Row := match base with
    | .ok n => [⟨"base scratch size", .number n⟩]
    | .error _ => []
  return [⟨"compile time", .time .compile⟩, ⟨"database size", .number size⟩,
    ⟨"scratch size", .number scratch⟩] ++ baseRow ++ [⟨"engine", .text E.version⟩]

/-- The report on facts about patterns. What is known about each is said
even if they do not compile together. -/
def runInfo (builder : Builder) (s : Settings) (es : List Expression) : Try Report := do
  let lines ← if s.quiet then pure [] else always (allInfoLines (s.engine builder) 0 es)
  match ← always (databaseRows builder s es).run with
  | .error message => return ⟨lines, [], some message⟩
  | .ok rows => return ⟨lines, if s.table then rows else [], none⟩

/-! ## Scanning -/

/-- The text that settings ask to scan. -/
def Settings.haystackText (s : Settings) (files : Files) : Except String String :=
  match s.haystack with
  | some (.given text) => .ok text
  | some (.file path) => (files path).haystack (Text.lossy path)
  | none =>
    .error "haystack is required via the -y/--haystack flag or via a positional argument"

/-- How often settings ask to scan: once at least. -/
def Settings.rounds (s : Settings) : Nat := max (s.repetitions.getD 1) 1

/-- The matches of the last of several scans. -/
def scanRounds (E : Engine Builtin.Heap) (scanner : Scanner) (d : Database) (text : String) :
    Nat → List Match → Act Builtin.Heap (List Match)
  | 0, last => return last
  | n + 1, _ => do
    let (r, scanner) ← scanner.scanStep E d text
    scanRounds E scanner d text n (← Act.ofExcept r)

/-- The line of a match. -/
def matchLine (m : Match) : String :=
  Nat.repr m.id ++ ":" ++ Nat.repr m.start ++ ":" ++ Nat.repr m.stop ++
    (match m.text with
      | some text => ":" ++ String.ofList (Text.escape text.toList)
      | none => "")

/-- The number of matches with an id. -/
def countOf (ms : List Match) (id : Nat) : Nat := (ms.filter (·.id == id)).length

/-- The line with the number of matches of one pattern. -/
def countLine (ms : List Match) (id : Nat) : String :=
  Nat.repr id ++ ":" ++ Nat.repr (countOf ms id)

/-- The lines on the matches of `n` patterns. -/
def scanLines (s : Settings) (n : Nat) (ms : List Match) : List String :=
  if s.quiet then [Nat.repr ms.length]
  else if s.count then (List.range n).map (countLine ms)
  else ms.map matchLine

/-- The report on the matches of patterns in a text. -/
def runScan (builder : Builder) (files : Files) (s : Settings) (es : List Expression) :
    Try Report := do
  let E := s.engine builder
  let d ← s.compile builder es
  let size ← orChain (d.size E)
  let scanner ← orChain (Scanner.ofDatabase E d)
  let scratch ← orChain (scanner.scratchSize E)
  let text ← ExceptT.mk (pure (s.haystackText files))
  match ← always (scanRounds E scanner d text s.rounds []).attempt with
  | .error e => throw ("scan failed: " ++ chain e)
  | .ok ms =>
    let rows : List Row :=
      [⟨"compile time", .time .compile⟩, ⟨"patterns", .number d.length⟩,
        ⟨"database size", .number size⟩, ⟨"scratch alloc time", .time .allocation⟩,
        ⟨"scratch size", .number scratch⟩, ⟨"haystack characters", .number text.length⟩,
        ⟨"scan time", .time .scan⟩, ⟨"total matches", .number ms.length⟩]
    return ⟨scanLines s d.length ms, if s.table then rows else [], none⟩

/-! ## Validating -/

/-- The line of a verdict. -/
def verdictLine (variant : String) (verdict : Option String) : String :=
  "    " ++ variant ++ ": " ++ verdict.getD "ok"

/-- The lines on one expression. -/
def verdictLines (id : Nat) (e : Expression) (v : Verdicts) : List String :=
  [Nat.repr id ++ ": " ++ e.pattern, verdictLine "base" v.base,
    verdictLine "extended" v.extended]

/-- The verdicts on several expressions. -/
def judgeAll (E : Engine Builtin.Heap) : List Expression → Step Builtin.Heap (List Verdicts)
  | [] => return []
  | e :: es => do
    let v ← e.validate E
    return v :: (← judgeAll E es)

/-- The report on whether patterns are valid. -/
def runValidate (builder : Builder) (s : Settings) (es : List Expression) : Try Report := do
  let vs ← always (judgeAll (s.engine builder) es)
  let lines := (es.zip vs).zipIdx.flatMap fun ((e, v), id) => verdictLines id e v
  let unusable := (vs.filter (!·.isValid)).length
  let rows : List Row :=
    [⟨"validation time", .time .validation⟩, ⟨"unusable patterns", .number unusable⟩]
  return ⟨if s.quiet then [] else lines, if s.table then rows else [],
    if unusable = 0 then none else some (Nat.repr unusable ++ " pattern(s) are unusable")⟩

/-! ## Command lines -/

/-- The report on the version. -/
def versionReport (builder : Builder) : Report :=
  let E := Builtin.engine ⟨builder, some Builtin.defaultLimit⟩
  ⟨["hsmatch-cli 0.1.0", "engine: " ++ E.version, "valid platform: " ++ yesNo E.runsHere], [],
    none⟩

/-- A command carried out with settings and the patterns they name. -/
def runCommand (builder : Builder) (files : Files) (c : Command) (s : Settings)
    (patterns : List String) : Try Report :=
  match c with
  | .version => return versionReport builder
  | .info => do runInfo builder s (← ExceptT.mk (pure (s.expressions patterns)))
  | .scan => do runScan builder files s (← ExceptT.mk (pure (s.expressions patterns)))
  | .validate => do runValidate builder s (← ExceptT.mk (pure (s.expressions patterns)))

/-- A command carried out after its arguments were read. A file of patterns
that cannot be read counts before whatever ended the reading behind it. -/
def runReading (builder : Builder) (files : Files) (c : Command) (r : Reading) : Report :=
  match allPatterns files r.settings.patterns, r.stop with
  | .error message, _ => .failed message
  | .ok _, some message => .failed message
  | .ok patterns, none => reported (runCommand builder files c r.settings patterns)

/-- The command of a name. -/
def commandOf (name : Bytes) : Except String Command := do
  match ← textOf name with
  | "info" => return .info
  | "scan" => return .scan
  | "validate" => return .validate
  | "version" => return .version
  | unknown => .error ("unrecognized command '" ++ unknown ++ "'")

/-- The command of a command line and what its arguments set. -/
def readLine (arguments : List Bytes) : Except String (Command × Reading) :=
  match first arguments with
  | .nothing => .error generalHelp
  | .option name =>
    if (helpAsked name).isSome then .error generalHelp
    else .error ("invalid option '" ++ name.written ++ "'")
  | .command name rest allPositional => do
    let c ← commandOf name
    return (c, readArguments c rest allPositional)

/-- A command line carried out with files. -/
def run (files : Files) (arguments : List Bytes) (builder : Builder := .estimate) : Report :=
  match readLine arguments with
  | .error message => .failed message
  | .ok (c, r) => runReading builder files c r

/-- The paths of the files that settings name. -/
def Settings.paths (s : Settings) : List Bytes :=
  s.patterns.filterMap (fun
    | .file path => some path
    | .given _ => none) ++
  (match s.haystack with
    | some (.file path) => [path]
    | _ => [])

/-- The paths of the files that a command line names. -/
def paths (arguments : List Bytes) : List Bytes :=
  match readLine arguments with
  | .error _ => []
  | .ok (_, r) => r.settings.paths

end Multiscan.Cli
