import Mooring.Action
import Mooring.Address.Gateway
import Mooring.Address.Ip
import Mooring.Address.Url
import Mooring.Agent
import Mooring.Agent.Reaper
import Mooring.Agent.Sidecar
import Mooring.Call
import Mooring.CommandLine
import Mooring.CommandLine.Arguments
import Mooring.CommandLine.Request
import Mooring.Complaint
import Mooring.Connection
import Mooring.Daemon
import Mooring.Deadline
import Mooring.DiskSpace
import Mooring.Fault
import Mooring.Fault.Draft
import Mooring.Fault.Message
import Mooring.Helper.Container
import Mooring.Helper.Spec
import Mooring.Journal
import Mooring.Log
import Mooring.Log.Line
import Mooring.Log.Severity
import Mooring.Log.Template
import Mooring.Main
import Mooring.Number.Binary64
import Mooring.Number.Decimal
import Mooring.Number.Rounded
import Mooring.Proofs.Address.Gateway
import Mooring.Proofs.Address.Host
import Mooring.Proofs.Address.Literal
import Mooring.Proofs.Address.Routes
import Mooring.Proofs.Agent.Acknowledged
import Mooring.Proofs.Agent.Holding
import Mooring.Proofs.Agent.Interrupt
import Mooring.Proofs.Agent.Patience
import Mooring.Proofs.Agent.Reaper
import Mooring.Proofs.Agent.Rounds
import Mooring.Proofs.Agent.SideEnvironment
import Mooring.Proofs.Agent.Takedown
import Mooring.Proofs.Agent.Trouble
import Mooring.Proofs.Agent.Upkeep
import Mooring.Proofs.Aside
import Mooring.Proofs.CommandLine.Command
import Mooring.Proofs.CommandLine.Console
import Mooring.Proofs.CommandLine.Release
import Mooring.Proofs.CommandLine.Requests
import Mooring.Proofs.CommandLine.Results
import Mooring.Proofs.CommandLine.Sheet
import Mooring.Proofs.CommandLine.Shown
import Mooring.Proofs.CommandLine.Values
import Mooring.Proofs.Connection.Attempt
import Mooring.Proofs.Connection.Availability
import Mooring.Proofs.Connection.Balance
import Mooring.Proofs.Connection.Course
import Mooring.Proofs.Connection.Creation
import Mooring.Proofs.Connection.Inside
import Mooring.Proofs.Connection.Interrupt
import Mooring.Proofs.Connection.Release
import Mooring.Proofs.Connection.Stages
import Mooring.Proofs.Connection.Tidy
import Mooring.Proofs.Connection.Use
import Mooring.Proofs.DiskSpace.Names
import Mooring.Proofs.DiskSpace.Table
import Mooring.Proofs.DiskSpace.Verdict
import Mooring.Proofs.Helper.Bracket
import Mooring.Proofs.Helper.Creation
import Mooring.Proofs.Helper.Image
import Mooring.Proofs.Helper.Removal
import Mooring.Proofs.Helper.Tidy
import Mooring.Proofs.Log.Thresholds
import Mooring.Proofs.Plain
import Mooring.Proofs.Route.Container
import Mooring.Proofs.Route.Endings
import Mooring.Proofs.Route.FirstWorking
import Mooring.Proofs.Route.Host
import Mooring.Proofs.Route.Interrupt
import Mooring.Proofs.Route.Machine
import Mooring.Proofs.Route.MachineLife
import Mooring.Proofs.Route.Ordinary
import Mooring.Proofs.Route.Overlay
import Mooring.Proofs.Route.Reach
import Mooring.Proofs.Route.Search
import Mooring.Proofs.Route.Turn
import Mooring.Proofs.Route.Usable
import Mooring.Proofs.Run
import Mooring.Proofs.Settings.DottedVersion
import Mooring.Proofs.Settings.Fields
import Mooring.Proofs.Settings.Groups
import Mooring.Proofs.Smooth
import Mooring.Proofs.Steps
import Mooring.Proofs.Stretch
import Mooring.Proofs.Sweep.Accounts
import Mooring.Proofs.Sweep.Course
import Mooring.Proofs.Sweep.Ending
import Mooring.Proofs.Text.Case
import Mooring.Proofs.Text.Columns
import Mooring.Proofs.Text.Cuts
import Mooring.Proofs.Text.File
import Mooring.Proofs.Text.Hexadecimal
import Mooring.Proofs.Text.Markup
import Mooring.Proofs.Text.Numeral
import Mooring.Proofs.Text.Pieces
import Mooring.Proofs.Text.Tags
import Mooring.Proofs.Text.Trim
import Mooring.Proofs.Text.Utf8
import Mooring.Proofs.Trace
import Mooring.Proofs.Version.Order
import Mooring.Proofs.Version.Sequence
import Mooring.Proofs.Version.Suffix
import Mooring.Proofs.Watch.Course
import Mooring.Proofs.Watch.Labels
import Mooring.Proofs.Watch.Repeated
import Mooring.Proofs.Watch.Restriction
import Mooring.Record
import Mooring.Route
import Mooring.Route.Choice
import Mooring.Session
import Mooring.Settings
import Mooring.Settings.File
import Mooring.Settings.Rule
import Mooring.Settings.Source
import Mooring.Sweep
import Mooring.Text.Blank
import Mooring.Text.Case
import Mooring.Text.Cut
import Mooring.Text.Digit
import Mooring.Text.Letter
import Mooring.Text.Line
import Mooring.Text.Markup
import Mooring.Text.Numeral
import Mooring.Text.Path
import Mooring.Text.Percent
import Mooring.Text.Place
import Mooring.Text.Printable
import Mooring.Text.Quoted
import Mooring.Text.Utf8
import Mooring.Value
import Mooring.Value.Json
import Mooring.Value.Parse
import Mooring.Value.Print
import Mooring.Value.Read
import Mooring.Version
import Mooring.Watch
