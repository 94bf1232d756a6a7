import EchoInjector.Wire.Checksum
import EchoInjector.Text.Json
import EchoInjector.Text.Quoted
import EchoInjector.Text.Terminal
import EchoInjector.Text.Duration
import EchoInjector.Address.Mac
import EchoInjector.Address.IPv4
import EchoInjector.Packet.ProtocolName
import EchoInjector.Packet.Ethernet
import EchoInjector.Packet.Datagram
import EchoInjector.Packet.Echo
import EchoInjector.Failure.Report
import EchoInjector.Probe.Encoding
import EchoInjector.Summary.Decoding
import EchoInjector.HexDump
import EchoInjector.Log.Filter
import EchoInjector.Action
import EchoInjector.Link
import EchoInjector.Channel
import EchoInjector.Run
import EchoInjector.CommandLine
import EchoInjector.Main
import EchoInjector.Proofs.Wire.Balance
import EchoInjector.Proofs.Text.Numerals
import EchoInjector.Proofs.Text.Denotation
import EchoInjector.Proofs.Text.JsonReading
import EchoInjector.Proofs.Text.Lines
import EchoInjector.Proofs.Address.MacText
import EchoInjector.Proofs.Address.IPv4Text
import EchoInjector.Proofs.HexDump.Layout
import EchoInjector.Proofs.Probe.Layout
import EchoInjector.Proofs.Summary.Acceptance
import EchoInjector.Proofs.Summary.Line
import EchoInjector.Proofs.Summary.Classification
import EchoInjector.Proofs.Summary.RoundTrip
import EchoInjector.Proofs.Probe.Receiver
import EchoInjector.Proofs.Probe.Concatenation
import EchoInjector.Proofs.Summary.Verdicts
import EchoInjector.Proofs.Summary.Agreement
import EchoInjector.Proofs.Summary.Padding
import EchoInjector.Proofs.Summary.Truncation
import EchoInjector.Proofs.Summary.Corruption
import EchoInjector.Proofs.Summary.Image
import EchoInjector.Proofs.Transmission.Progress
import EchoInjector.Proofs.Transmission.Course
import EchoInjector.Proofs.Transmission.Account
import EchoInjector.Proofs.Transmission.Medium
import EchoInjector.Proofs.Run.Crafting
import EchoInjector.Proofs.Run.Delivery
import EchoInjector.Proofs.Run.Exactness
import EchoInjector.Proofs.Run.Report
import EchoInjector.Proofs.Run.Failures
import EchoInjector.Proofs.Run.Preview
import EchoInjector.Proofs.Run.LinkSettings
import EchoInjector.Proofs.HexDump.Rereading
import EchoInjector.Proofs.HexDump.Columns
import EchoInjector.Proofs.Run.Session
import EchoInjector.Proofs.CommandLine.Spelling
import EchoInjector.Proofs.CommandLine.Taking
import EchoInjector.Proofs.CommandLine.Sources
import EchoInjector.Proofs.CommandLine.Precedence
import EchoInjector.Proofs.CommandLine.Rivals
import EchoInjector.Proofs.CommandLine.Conflicts
import EchoInjector.Proofs.CommandLine.Order
import EchoInjector.Proofs.CommandLine.Insertion
import EchoInjector.Proofs.CommandLine.Replay
import EchoInjector.Proofs.CommandLine.Values
import EchoInjector.Proofs.CommandLine.PayloadLimit
import EchoInjector.Proofs.CommandLine.Interchange
import EchoInjector.Proofs.CommandLine.Numbers
import EchoInjector.Proofs.CommandLine.LinkAddress
import EchoInjector.Proofs.Program.Documents
import EchoInjector.Proofs.Program.Output
import EchoInjector.Proofs.Log.Deciding
import EchoInjector.Proofs.Program.Logging
import EchoInjector.Proofs.Packet.CheckedRuns
import EchoInjector.Proofs.Summary.Identification
import EchoInjector.Proofs.CommandLine.Verbosity
