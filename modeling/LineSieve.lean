import LineSieve.Main
import LineSieve.Proofs.Session.History
import LineSieve.Proofs.Markup.Passage
import LineSieve.Proofs.Markup.Scan
import LineSieve.Proofs.Markup.Reading
import LineSieve.Proofs.Markup.Writing
import LineSieve.Proofs.Rule.Compiling
import LineSieve.Proofs.Stream.Lines
import LineSieve.Proofs.Stream.Passing
import LineSieve.Proofs.Stream.Halting
import LineSieve.Proofs.Stream.Completion
import LineSieve.Proofs.FileSystem.Temporary
import LineSieve.Proofs.FileSystem.Moving
import LineSieve.Proofs.Job.Failure
import LineSieve.Proofs.Job.Publishing
import LineSieve.Proofs.Stream.Refiltering
import LineSieve.Proofs.Settings.Planning
import LineSieve.Proofs.Job.Overwriting
import LineSieve.Proofs.Regex.Layout
import LineSieve.Proofs.Regex.Threads
import LineSieve.Proofs.Regex.Remainder
import LineSieve.Proofs.Regex.Reading
import LineSieve.Proofs.Regex.Groups
import LineSieve.Proofs.Regex.Ending
import LineSieve.Proofs.Rule.Prefix
import LineSieve.Proofs.Session.Dropping
import LineSieve.Proofs.Text.LineBytes
import LineSieve.Proofs.Text.Decoding
import LineSieve.Proofs.Record.Streams
import LineSieve.Proofs.Settings.Loading
import LineSieve.Proofs.Markup.Shape
import LineSieve.Proofs.Text.OneLine
import LineSieve.Proofs.Rule.Labels
import LineSieve.Proofs.Session.OneLine
import LineSieve.Proofs.Stream.Counting
import LineSieve.Proofs.Record.Reloading
import LineSieve.Proofs.Cli.Dumping
import LineSieve.Proofs.Json.Scalars
import LineSieve.Proofs.Json.Strings
import LineSieve.Proofs.Decimal.Rounding
import LineSieve.Proofs.Decimal.Shortest
import LineSieve.Proofs.Json.Doubles
import LineSieve.Proofs.Stream.Feeding
import LineSieve.Proofs.FileSystem.Writing
import LineSieve.Proofs.Job.Feeding
import LineSieve.Proofs.Markup.Holding
import LineSieve.Proofs.Session.Validity
import LineSieve.Proofs.Session.Appending
import LineSieve.Proofs.Stream.Joining
import LineSieve.Proofs.Text.Validity
import LineSieve.Proofs.Stream.Undecodable
import LineSieve.Proofs.Stream.Twins
import LineSieve.Proofs.Record.Places
import LineSieve.Proofs.Record.Documents
import LineSieve.Proofs.Rule.Fields
import LineSieve.Proofs.Text.Folding
import LineSieve.Proofs.Session.Selection
import LineSieve.Proofs.Session.Stateless
import LineSieve.Proofs.Stream.Sessions
import LineSieve.Proofs.Stream.Selecting
