import RouterShell.Main
import RouterShell.Proofs.Abbreviation
import RouterShell.Proofs.Line.Grammar
import RouterShell.Proofs.Line.RoundTrip
import RouterShell.Proofs.Line.Segments
import RouterShell.Proofs.Line.Continuation
import RouterShell.Proofs.Line.Typing
import RouterShell.Proofs.Command.Paths
import RouterShell.Proofs.Command.Resolution
import RouterShell.Proofs.Command.Entries
import RouterShell.Proofs.Command.InPlace
import RouterShell.Proofs.Command.Listing
import RouterShell.Proofs.Command.Builtin
import RouterShell.Proofs.Command.Acceptance
import RouterShell.Proofs.Command.Offering
import RouterShell.Proofs.Command.Welcome
import RouterShell.Proofs.Command.Refusal
import RouterShell.Proofs.Command.Pairs
import RouterShell.Proofs.Command.Run
import RouterShell.Proofs.Command.Deed
import RouterShell.Proofs.Command.Streams
import RouterShell.Proofs.Shell.Descent
import RouterShell.Proofs.Shell.Judgement
import RouterShell.Proofs.Shell.Outcome
import RouterShell.Proofs.Shell.Splicing
import RouterShell.Proofs.Shell.Approval
import RouterShell.Proofs.Shell.Written
import RouterShell.Proofs.Shell.Monitoring
import RouterShell.Proofs.Shell.Switching
import RouterShell.Proofs.Shell.Confinement
import RouterShell.Proofs.Shell.Finality
import RouterShell.Proofs.Shell.Unfinished
import RouterShell.Proofs.Shell.Success
import RouterShell.Proofs.Shell.RouteSelection
import RouterShell.Proofs.Shell.Layout
import RouterShell.Proofs.Command.Filtering
import RouterShell.Proofs.Command.NextPair
import RouterShell.Proofs.Shell.RouteTable
import RouterShell.Proofs.Command.PairFaults
import RouterShell.Proofs.Line.Cutting
import RouterShell.Proofs.Command.Stepping
import RouterShell.Proofs.Command.Meaning
import RouterShell.Proofs.Shell.Replacement
import RouterShell.Proofs.Shell.WordPlace
import RouterShell.Proofs.Command.Lengthening
import RouterShell.Proofs.Lookup.Loading
import RouterShell.Proofs.Net.Truncation
import RouterShell.Proofs.Net.AddressText
import RouterShell.Proofs.Net.PrefixText
import RouterShell.Proofs.Output.Alignment
import RouterShell.Proofs.Host.Streaming
import RouterShell.Proofs.Toml.Texts
import RouterShell.Proofs.Toml.Statements
import RouterShell.Proofs.Toml.Tables
import RouterShell.Proofs.Config.RoundTrip
