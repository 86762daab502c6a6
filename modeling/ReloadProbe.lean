import ReloadProbe.Broker.Arguments
import ReloadProbe.Broker.Child
import ReloadProbe.Broker.ConfigFile
import ReloadProbe.Broker.Exit
import ReloadProbe.Broker.Ports
import ReloadProbe.Broker.Signal
import ReloadProbe.Broker.Subprocess
import ReloadProbe.Bytes
import ReloadProbe.CommandLine.Options
import ReloadProbe.CommandLine.Program
import ReloadProbe.CommandLine.Setup
import ReloadProbe.Config.Fields
import ReloadProbe.Config.Load
import ReloadProbe.Config.Settings
import ReloadProbe.Document.Json
import ReloadProbe.Document.Toml.Document
import ReloadProbe.Document.Toml.Gap
import ReloadProbe.Document.Toml.Quoted
import ReloadProbe.Document.Toml.Scalar
import ReloadProbe.Document.Toml.Tree
import ReloadProbe.Document.Value
import ReloadProbe.Failure
import ReloadProbe.Interaction
import ReloadProbe.Main
import ReloadProbe.Net.Address
import ReloadProbe.Net.Client
import ReloadProbe.Net.Link
import ReloadProbe.Net.Storage
import ReloadProbe.Path
import ReloadProbe.Proofs.Broker.Allocation
import ReloadProbe.Proofs.Broker.Arguments
import ReloadProbe.Proofs.Broker.Calls
import ReloadProbe.Proofs.Broker.ConfigFile
import ReloadProbe.Proofs.Broker.Disk
import ReloadProbe.Proofs.Broker.Ports
import ReloadProbe.Proofs.Broker.Reaping
import ReloadProbe.Proofs.Broker.Subprocess
import ReloadProbe.Proofs.Document.Json
import ReloadProbe.Proofs.Fallible
import ReloadProbe.Proofs.Net.Calls
import ReloadProbe.Proofs.Net.Conservation
import ReloadProbe.Proofs.Net.Delivery
import ReloadProbe.Proofs.Net.Overdue
import ReloadProbe.Proofs.Net.Schedule
import ReloadProbe.Proofs.Net.Success
import ReloadProbe.Proofs.Net.Traffic
import ReloadProbe.Proofs.Net.Wait
import ReloadProbe.Proofs.Run.Account
import ReloadProbe.Proofs.Run.Bench
import ReloadProbe.Proofs.Run.Consistency
import ReloadProbe.Proofs.Run.Course
import ReloadProbe.Proofs.Run.Custody
import ReloadProbe.Proofs.Run.Delivery
import ReloadProbe.Proofs.Run.Diagnosis
import ReloadProbe.Proofs.Run.Exit
import ReloadProbe.Proofs.Run.Failures
import ReloadProbe.Proofs.Run.Indifference
import ReloadProbe.Proofs.Run.Overdue
import ReloadProbe.Proofs.Run.Packets
import ReloadProbe.Proofs.Run.Passing
import ReloadProbe.Proofs.Run.Record
import ReloadProbe.Proofs.Run.Rehearsed
import ReloadProbe.Proofs.Run.Retry
import ReloadProbe.Proofs.Run.Session
import ReloadProbe.Proofs.Run.Silence
import ReloadProbe.Proofs.Run.Suite
import ReloadProbe.Proofs.Run.Teardown
import ReloadProbe.Proofs.Run.Trail
import ReloadProbe.Proofs.Run.Verdict
import ReloadProbe.Proofs.Runs
import ReloadProbe.Proofs.Text.Hex
import ReloadProbe.Proofs.Text.Line
import ReloadProbe.Proofs.Text.Utf8
import ReloadProbe.Proofs.Time.Backoff
import ReloadProbe.Proofs.Wire.Append
import ReloadProbe.Proofs.Wire.Block
import ReloadProbe.Proofs.Wire.Canonical
import ReloadProbe.Proofs.Wire.ConnAck
import ReloadProbe.Proofs.Wire.Connect
import ReloadProbe.Proofs.Wire.Cursor
import ReloadProbe.Proofs.Wire.Diff
import ReloadProbe.Proofs.Wire.Frame
import ReloadProbe.Proofs.Wire.Framing
import ReloadProbe.Proofs.Wire.Leniency
import ReloadProbe.Proofs.Wire.Property
import ReloadProbe.Proofs.Wire.Publish
import ReloadProbe.Proofs.Wire.Read
import ReloadProbe.Proofs.Wire.RoundTrip
import ReloadProbe.Proofs.Wire.SevenBits
import ReloadProbe.Proofs.Wire.Summary
import ReloadProbe.Proofs.Wire.Truncation
import ReloadProbe.Proofs.Wire.VarInt
import ReloadProbe.Proofs.Wire.Write
import ReloadProbe.Rehearsal.Accounts
import ReloadProbe.Rehearsal.Bench
import ReloadProbe.Rehearsal.Call
import ReloadProbe.Rehearsal.Directive
import ReloadProbe.Rehearsal.Escape
import ReloadProbe.Rehearsal.Files
import ReloadProbe.Rehearsal.Floating
import ReloadProbe.Rehearsal.Line
import ReloadProbe.Rehearsal.Machine
import ReloadProbe.Rehearsal.Numeral
import ReloadProbe.Rehearsal.Parent
import ReloadProbe.Rehearsal.Peer
import ReloadProbe.Rehearsal.Place
import ReloadProbe.Rehearsal.Program
import ReloadProbe.Rehearsal.Refusal
import ReloadProbe.Rehearsal.Script
import ReloadProbe.Rehearsal.Search
import ReloadProbe.Rehearsal.Shell.Act
import ReloadProbe.Rehearsal.Shell.Arithmetic
import ReloadProbe.Rehearsal.Shell.Builtin.Names
import ReloadProbe.Rehearsal.Shell.Builtin.Options
import ReloadProbe.Rehearsal.Shell.Builtin.Output
import ReloadProbe.Rehearsal.Shell.Builtin.Places
import ReloadProbe.Rehearsal.Shell.Builtin.Processes
import ReloadProbe.Rehearsal.Shell.Builtin.Test
import ReloadProbe.Rehearsal.Shell.Builtin.Variables
import ReloadProbe.Rehearsal.Shell.Evaluate
import ReloadProbe.Rehearsal.Shell.Execute
import ReloadProbe.Rehearsal.Shell.Expansion
import ReloadProbe.Rehearsal.Shell.Fields
import ReloadProbe.Rehearsal.Shell.Grammar
import ReloadProbe.Rehearsal.Shell.Jobs
import ReloadProbe.Rehearsal.Shell.Pattern
import ReloadProbe.Rehearsal.Shell.Quotation
import ReloadProbe.Rehearsal.Shell.Reader
import ReloadProbe.Rehearsal.Shell.Redirect
import ReloadProbe.Rehearsal.Shell.Session
import ReloadProbe.Rehearsal.Shell.Start
import ReloadProbe.Rehearsal.Shell.Syntax
import ReloadProbe.Rehearsal.Shell.Token
import ReloadProbe.Rehearsal.Shell.Word
import ReloadProbe.Rehearsal.Signals
import ReloadProbe.Rehearsal.Site
import ReloadProbe.Rehearsal.Suite
import ReloadProbe.Rehearsal.Utility.Arranged
import ReloadProbe.Rehearsal.Utility.Choice
import ReloadProbe.Rehearsal.Utility.Condition
import ReloadProbe.Rehearsal.Utility.Contents
import ReloadProbe.Rehearsal.Utility.Copies
import ReloadProbe.Rehearsal.Utility.Dump
import ReloadProbe.Rehearsal.Utility.EditScript
import ReloadProbe.Rehearsal.Utility.Editing
import ReloadProbe.Rehearsal.Utility.Exchange
import ReloadProbe.Rehearsal.Utility.Expression
import ReloadProbe.Rehearsal.Utility.Launch
import ReloadProbe.Rehearsal.Utility.Lines
import ReloadProbe.Rehearsal.Utility.Links
import ReloadProbe.Rehearsal.Utility.Listing
import ReloadProbe.Rehearsal.Utility.Matching
import ReloadProbe.Rehearsal.Utility.Naming
import ReloadProbe.Rehearsal.Utility.Output
import ReloadProbe.Rehearsal.Utility.Places
import ReloadProbe.Rehearsal.Utility.Regex
import ReloadProbe.Rehearsal.Utility.Rights
import ReloadProbe.Rehearsal.Utility.Sequence
import ReloadProbe.Rehearsal.Utility.Surroundings
import ReloadProbe.Rehearsal.Utility.Table
import ReloadProbe.Rehearsal.Utility.Tool
import ReloadProbe.Run.Host
import ReloadProbe.Run.Packets
import ReloadProbe.Run.Plan
import ReloadProbe.Run.Report
import ReloadProbe.Run.Scenario
import ReloadProbe.Run.Stage
import ReloadProbe.Text.Blank
import ReloadProbe.Text.Hex
import ReloadProbe.Text.Octets
import ReloadProbe.Text.Printable
import ReloadProbe.Text.Quoted
import ReloadProbe.Text.Utf8
import ReloadProbe.Time.Duration
import ReloadProbe.Time.Seconds
import ReloadProbe.Time.Units
import ReloadProbe.Wire.ConnAck
import ReloadProbe.Wire.Connect
import ReloadProbe.Wire.Diff
import ReloadProbe.Wire.Error
import ReloadProbe.Wire.Frame
import ReloadProbe.Wire.PacketKind
import ReloadProbe.Wire.Ping
import ReloadProbe.Wire.Property
import ReloadProbe.Wire.Publish
import ReloadProbe.Wire.QoS
import ReloadProbe.Wire.Read
import ReloadProbe.Wire.Summary
import ReloadProbe.Wire.VarInt
import ReloadProbe.Wire.Version
import ReloadProbe.Wire.Write
