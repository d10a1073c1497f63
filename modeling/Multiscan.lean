import Multiscan.Main
import Multiscan.Session.Calls
import Multiscan.Session.Run
import Multiscan.Proofs.Text.Offsets
import Multiscan.Proofs.Text.Spans
import Multiscan.Proofs.Translation
import Multiscan.Proofs.Ledger.Contract
import Multiscan.Proofs.Builtin.Heap
import Multiscan.Proofs.Builtin.Scan
import Multiscan.Proofs.Ledger.Builtin
import Multiscan.Proofs.Builtin.Scratch
import Multiscan.Proofs.Ledger.Release
import Multiscan.Proofs.Builtin.Merge
import Multiscan.Proofs.Builtin.Compile
import Multiscan.Proofs.Custody.Operations
import Multiscan.Proofs.Custody.Workspace
import Multiscan.Proofs.Session.Probe
import Multiscan.Proofs.Session.Keeping
import Multiscan.Proofs.Session.Sparing
import Multiscan.Proofs.Session.Tidy
import Multiscan.Proofs.Session.Serving
import Multiscan.Proofs.Session.History
import Multiscan.Proofs.Builtin.Reentry
import Multiscan.Proofs.Regex.SymbolSet
import Multiscan.Proofs.Regex.SetOperations
import Multiscan.Proofs.Regex.Shorthand
import Multiscan.Proofs.Regex.Reading
import Multiscan.Proofs.Regex.Matches
import Multiscan.Proofs.Regex.Extent
import Multiscan.Proofs.Regex.Building
import Multiscan.Proofs.Regex.OfTree
import Multiscan.Proofs.FlagWord
import Multiscan.Proofs.Builtin.Info
import Multiscan.Proofs.Builtin.Refusals
import Multiscan.Proofs.Builtin.Once
import Multiscan.Proofs.Text.Characters
import Multiscan.Proofs.Regex.Characters
import Multiscan.Proofs.Regex.TextOnly
import Multiscan.Proofs.Builtin.WholeCharacters
import Multiscan.Proofs.Regex.Literal
import Multiscan.Proofs.Regex.Quoted
import Multiscan.Proofs.Builtin.FixedStrings
import Multiscan.Proofs.Regex.AsciiMembers
import Multiscan.Proofs.Text.Ascii
import Multiscan.Proofs.Regex.AsciiItems
import Multiscan.Proofs.Regex.Written
import Multiscan.Proofs.Regex.Ends
import Multiscan.Proofs.Regex.StackEnds
import Multiscan.Proofs.Regex.Standing
import Multiscan.Proofs.Regex.Backtracking
import Multiscan.Proofs.Regex.SameEnds
import Multiscan.Proofs.Regex.Simplifying
import Multiscan.Proofs.Regex.DefiniteFronts
import Multiscan.Proofs.Regex.EmptyMatches
import Multiscan.Proofs.Regex.SimpleForm
import Multiscan.Proofs.Builtin.Encodings
import Multiscan.Proofs.Regex.Fronts
import Multiscan.Proofs.FlagCodec
import Multiscan.Proofs.FlagMask
import Multiscan.Proofs.Provenance
import Multiscan.Proofs.Batch
import Multiscan.Proofs.Attribution
import Multiscan.Proofs.Builtin.Outcome
import Multiscan.Proofs.Session.Effect
import Multiscan.Proofs.Session.LifeCycle
import Multiscan.Proofs.Custody.Frame
import Multiscan.Proofs.Session.Growth
import Multiscan.Proofs.Builtin.Cells
import Multiscan.Proofs.Builtin.Stakes
import Multiscan.Proofs.Builtin.Growth
import Multiscan.Proofs.Builtin.Order
import Multiscan.Proofs.Builtin.Verdicts
import Multiscan.Proofs.Builtin.NeverMatching
import Multiscan.Proofs.Syntax.Places
import Multiscan.Proofs.Syntax.Elsewhere
import Multiscan.Proofs.Syntax.ClassesElsewhere
import Multiscan.Proofs.Syntax.BehindFlags
import Multiscan.Proofs.Syntax.SpelledPatterns
import Multiscan.Proofs.Regex.Places
import Multiscan.Proofs.Regex.Flat
import Multiscan.Proofs.Regex.LeadingFlags
import Multiscan.Proofs.Builtin.InlineFlags
import Multiscan.Proofs.Builtin.SyntaxErrors
import Multiscan.Proofs.Cli.Scanning
import Multiscan.Proofs.Cli.Haystacks
import Multiscan.Proofs.Text.Tables
import Multiscan.Proofs.Syntax.SpelledTokens
import Multiscan.Proofs.Syntax.AsciiNodes
