import MockSsh.Authentication
import MockSsh.Bytes
import MockSsh.Channel.Policy
import MockSsh.Channel.Table
import MockSsh.CommandLine
import MockSsh.Config
import MockSsh.Config.Choice
import MockSsh.Config.Document
import MockSsh.Dispatch
import MockSsh.Endpoint
import MockSsh.Endpoint.Address
import MockSsh.Endpoint.Fault
import MockSsh.Event
import MockSsh.Fault
import MockSsh.Identification
import MockSsh.KeyExchange
import MockSsh.Live
import MockSsh.Machine
import MockSsh.Main
import MockSsh.Message.Channel
import MockSsh.Message.Cursor
import MockSsh.Message.Kind
import MockSsh.Message.Service
import MockSsh.Message.Transport
import MockSsh.Packet
import MockSsh.Server
import MockSsh.Session
import MockSsh.Stream
import MockSsh.Text.Blank
import MockSsh.Text.Digits
import MockSsh.Text.Escape
import MockSsh.Text.Extending
import MockSsh.Text.Quoted
import MockSsh.Text.Ranges
import MockSsh.Text.Unprintable
import MockSsh.Text.Utf8
import MockSsh.Toml.Document
import MockSsh.Toml.Node
import MockSsh.Toml.Number
import MockSsh.Toml.Reader
import MockSsh.Toml.Value
import MockSsh.Transport
import MockSsh.Proofs.Channel.Table
import MockSsh.Proofs.Channel.OpeningOrder
import MockSsh.Proofs.Dispatch.History
import MockSsh.Proofs.Packet.Frame
import MockSsh.Proofs.Session.Cuts
import MockSsh.Proofs.Stream.Frames
import MockSsh.Proofs.Session.Transcript
import MockSsh.Proofs.Session.Refinement
import MockSsh.Proofs.Stream.Reading
import MockSsh.Proofs.Session.Causality
import MockSsh.Proofs.Stream.Faults
import MockSsh.Proofs.Stream.RoundTrip
import MockSsh.Proofs.Session.Faults
import MockSsh.Proofs.Session.Live
import MockSsh.Proofs.Dispatch.Policies
import MockSsh.Proofs.Session.Policies
import MockSsh.Proofs.Session.Padding
import MockSsh.Proofs.Text.Utf8
import MockSsh.Proofs.Message.Fields
import MockSsh.Proofs.Message.Grammar
import MockSsh.Proofs.Message.RoundTrip
import MockSsh.Proofs.Session.Echo
import MockSsh.Proofs.Dispatch.Bookkeeping
import MockSsh.Proofs.Dispatch.Ownership
import MockSsh.Proofs.Dispatch.ReplyLength
import MockSsh.Proofs.Session.Login
import MockSsh.Proofs.Session.Closed
import MockSsh.Proofs.Stream.Operations
import MockSsh.Proofs.Stream.Counters
import MockSsh.Proofs.Session.Stages
import MockSsh.Proofs.Session.Refusals
import MockSsh.Proofs.Stream.Blame
import MockSsh.Proofs.Session.Blame
import MockSsh.Proofs.Session.Log
import MockSsh.Proofs.Dispatch.Requests
import MockSsh.Proofs.Dispatch.Logins
import MockSsh.Proofs.Dispatch.Rounds
import MockSsh.Proofs.Stream.Line
import MockSsh.Proofs.Identification.RoundTrip
import MockSsh.Proofs.Text.Ascii
import MockSsh.Proofs.Identification.Wire
import MockSsh.Proofs.Access.Reader
import MockSsh.Proofs.Access.Parsers
import MockSsh.Proofs.Stream.Consumption
import MockSsh.Proofs.Session.Progress
import MockSsh.Proofs.Text.Plain
import MockSsh.Proofs.Dispatch.Display
import MockSsh.Proofs.Session.Display
import MockSsh.Proofs.Config.Keys
import MockSsh.Proofs.CommandLine.Settings
import MockSsh.Proofs.CommandLine.Arguments
import MockSsh.Proofs.Toml.Tables
