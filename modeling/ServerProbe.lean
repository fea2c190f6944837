import ServerProbe.Attempt
import ServerProbe.Bytes.Base64
import ServerProbe.Bytes.Hex
import ServerProbe.Bytes.Pem
import ServerProbe.Bytes.Sha256
import ServerProbe.Check
import ServerProbe.CommandLine.Command
import ServerProbe.CommandLine.Reader
import ServerProbe.CommandLine.Value
import ServerProbe.Failure
import ServerProbe.Http.Client
import ServerProbe.Http.ClientProblem
import ServerProbe.Http.Exchange
import ServerProbe.Http.Proxy
import ServerProbe.Http.Request
import ServerProbe.Http.Response
import ServerProbe.Http.Status
import ServerProbe.Json.Basic
import ServerProbe.Json.Printer
import ServerProbe.Json.Reader
import ServerProbe.Json.Sorted
import ServerProbe.Log
import ServerProbe.Main
import ServerProbe.Network
import ServerProbe.Number.Binary64
import ServerProbe.Number.Notation
import ServerProbe.Number.Shortest
import ServerProbe.Peer
import ServerProbe.Probe.Disconnect
import ServerProbe.Probe.Expect
import ServerProbe.Probe.Request
import ServerProbe.Probe.Stall
import ServerProbe.Probe.Stress
import ServerProbe.Proofs.Http.Framing
import ServerProbe.Proofs.Text.Cutting
import ServerProbe.Proofs.Text.Numerals
import ServerProbe.Proofs.Wire.Lines
import ServerProbe.Report
import ServerProbe.Session
import ServerProbe.Settings.Disconnect
import ServerProbe.Settings.Stall
import ServerProbe.Settings.Stress
import ServerProbe.Suite.Execution
import ServerProbe.Suite.Plan
import ServerProbe.Suite.Run
import ServerProbe.Suite.Variables
import ServerProbe.Text.AsciiCase
import ServerProbe.Text.Blank
import ServerProbe.Text.Composition
import ServerProbe.Text.Direction
import ServerProbe.Text.Joining
import ServerProbe.Text.Lowercase
import ServerProbe.Text.Mark
import ServerProbe.Text.Numeral
import ServerProbe.Text.Ranges
import ServerProbe.Text.Shown
import ServerProbe.Text.Utf8
import ServerProbe.Time.Calendar
import ServerProbe.Time.Duration
import ServerProbe.Toml.Bare
import ServerProbe.Toml.Document
import ServerProbe.Toml.Quoted
import ServerProbe.Toml.Table
import ServerProbe.Url.Basic
import ServerProbe.Url.DomainName
import ServerProbe.Url.DomainName.Label
import ServerProbe.Url.DomainName.Mapping
import ServerProbe.Url.Host
import ServerProbe.Url.Ipv4
import ServerProbe.Url.Ipv6
import ServerProbe.Url.Path
import ServerProbe.Url.Percent
import ServerProbe.Url.Problem
import ServerProbe.Url.Punycode
import ServerProbe.Url.Reader
import ServerProbe.Wire.Fault
import ServerProbe.Wire.Stream
import ServerProbe.Xml.Call
import ServerProbe.Xml.Escape
import ServerProbe.Xml.Token
import ServerProbe.Proofs.Http.ReadBack
import ServerProbe.Proofs.Http.Exchange
import ServerProbe.Proofs.Wire.Interruption
import ServerProbe.Proofs.Http.Interruption
import ServerProbe.Proofs.Probe.Expect
import ServerProbe.Proofs.Probe.LateAnswer
import ServerProbe.Proofs.Xml.Document
import ServerProbe.Proofs.Xml.Leaves
import ServerProbe.Proofs.Xml.Tags
import ServerProbe.Proofs.Xml.RoundTrip
import ServerProbe.Proofs.Suite.Execution
import ServerProbe.Proofs.Http.Oversized
import ServerProbe.Proofs.Http.Building
import ServerProbe.Proofs.Http.HeadLines
import ServerProbe.Proofs.Http.RequestFraming
import ServerProbe.Proofs.Probe.Disconnect
import ServerProbe.Proofs.Xml.Layouts
import ServerProbe.Proofs.Probe.Stress
import ServerProbe.Proofs.Probe.HeldBody
import ServerProbe.Proofs.Probe.HangUp
import ServerProbe.Proofs.Wire.Break
import ServerProbe.Proofs.Http.Break
import ServerProbe.Proofs.Settings.Keys
import ServerProbe.Proofs.Suite.Keys
import ServerProbe.Proofs.Check
import ServerProbe.Proofs.Suite.Selection
import ServerProbe.Proofs.Suite.ExitStatus
import ServerProbe.Proofs.Suite.Substitution
import ServerProbe.Proofs.Http.ChunkGrammar
import ServerProbe.Proofs.Http.CutChunks
import ServerProbe.Proofs.Probe.Interims
import ServerProbe.Proofs.Probe.Request
import ServerProbe.Proofs.Url.Reading
import ServerProbe.Proofs.Suite.Summary
import ServerProbe.Proofs.Fingerprint
import ServerProbe.Proofs.Probe.Readiness
import ServerProbe.Proofs.Xml.Escaped
import ServerProbe.Proofs.Wire.Progress
import ServerProbe.Proofs.Http.Progress
import ServerProbe.Proofs.Json.Members
import ServerProbe.Proofs.Settings.RoundTrip
import ServerProbe.Proofs.Suite.RoundTrip
import ServerProbe.Proofs.CommandLine.Spelling
import ServerProbe.Proofs.CommandLine.Agreement
import ServerProbe.Proofs.CommandLine.Written
import ServerProbe.Proofs.Probe.Payload
