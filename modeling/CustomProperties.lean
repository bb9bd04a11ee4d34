import CustomProperties.Collect
import CustomProperties.CommandLine.Reach
import CustomProperties.Config
import CustomProperties.Main
import CustomProperties.Pipeline
import CustomProperties.Proofs.Resolution.Basic
import CustomProperties.Update
import CustomProperties.Proofs.Resolution.ReferenceGraph
import CustomProperties.Proofs.Resolution.Remaining
import CustomProperties.Proofs.Resolution.Expansion
import CustomProperties.Proofs.Resolution.Restart
import CustomProperties.Proofs.Resolution.Machine
import CustomProperties.Proofs.Resolution.Termination
import CustomProperties.Proofs.RoundTrip.OpenEnd
import CustomProperties.Proofs.RoundTrip.Grammar
import CustomProperties.Proofs.RoundTrip.RuleBlocks
import CustomProperties.Proofs.Sheet.Induction
import CustomProperties.Proofs.RoundTrip.Items
import CustomProperties.Proofs.RoundTrip.Sheet
import CustomProperties.Proofs.Editing.Modes
import CustomProperties.Proofs.Passes.Basic
import CustomProperties.Proofs.Merging.Tabulation
import CustomProperties.Proofs.Editing.Frame
import CustomProperties.Proofs.Merging.Sources
import CustomProperties.Proofs.Passes.Imports
import CustomProperties.Proofs.Passes.Agreement
import CustomProperties.Proofs.Lexing.Lexemes
import CustomProperties.Proofs.Sheet.Numbers
import CustomProperties.Proofs.Lexing.Locality
import CustomProperties.Proofs.Directives.Matching
import CustomProperties.Proofs.Sheet.Ends
import CustomProperties.Proofs.Directives.Marks
import CustomProperties.Proofs.Passes.Again
import CustomProperties.Proofs.Lexing.Nesting
import CustomProperties.Proofs.Lexing.Joins
import CustomProperties.Proofs.Reprint.Items
import CustomProperties.Proofs.Reprint.Alike
import CustomProperties.Proofs.Reprint.Printable
import CustomProperties.Proofs.Reprint.Parsed
import CustomProperties.Proofs.Reprint.Rewrites
import CustomProperties.Proofs.Reprint.Passes
import CustomProperties.Proofs.Reprint.Values
import CustomProperties.Proofs.Reprint.Idempotence
import CustomProperties.Proofs.Exporting.Repeated
import CustomProperties.Proofs.Passes.Runs
import CustomProperties.Proofs.Passes.Recovery
import CustomProperties.Proofs.Modules.Tokens
import CustomProperties.Proofs.Modules.Productions
import CustomProperties.Proofs.Modules.Written
import CustomProperties.Proofs.Modules.Exports
import CustomProperties.Proofs.Exporting.Lines
import CustomProperties.Proofs.Exporting.Stylesheets
import CustomProperties.Proofs.Json.Tokens
import CustomProperties.Proofs.Json.Written
import CustomProperties.Proofs.Json.Exports
import CustomProperties.Proofs.Lexing.OpenBrackets
import CustomProperties.Proofs.RoundTrip.Values
import CustomProperties.Proofs.Files.Writing
import CustomProperties.Proofs.Files.Names
import CustomProperties.Proofs.CommandLine.Files
import CustomProperties.Proofs.CommandLine.Printing
import CustomProperties.Proofs.CommandLine.OutDir
import CustomProperties.Proofs.Lexing.Remarks
import CustomProperties.Proofs.Resolution.Staying
import CustomProperties.Proofs.Updating.TrailingComment
import CustomProperties.Proofs.Updating.Untouched
import CustomProperties.Proofs.Lexing.Neighbours
import CustomProperties.Proofs.Updating.Calls
import CustomProperties.Proofs.Sheet.Assembly
import CustomProperties.Proofs.Directives.Positions
import CustomProperties.Proofs.Editing.Endings
import CustomProperties.Proofs.Lexing.Adjoining
import CustomProperties.Proofs.Sheet.Joining
import CustomProperties.Proofs.Resolution.Spacing
import CustomProperties.Proofs.Resolution.Comments
import CustomProperties.Proofs.Exporting.Objects
import CustomProperties.Proofs.Resolution.Reachability
import CustomProperties.Proofs.Json.Limits
import CustomProperties.Proofs.Configs.Written
