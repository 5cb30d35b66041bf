import Doip.Payload.Basic
import Doip.Frame.Stream
import Doip.Text.Utf8
import Doip.Text.Blank
import Doip.Text.Numeral
import Doip.IpAddress
import Doip.Document.Json
import Doip.Document.Toml
import Doip.Config.Load
import Doip.Timer.Trial
import Doip.Worker
import Doip.Connection.Basic
import Doip.Connection.Trial
import Doip.Discovery
import Doip.Conversation.Step
import Doip.Entity.Session
import Doip.Manager
import Doip.Bench.Scenario
import Doip.CommandLine.Run
import Doip.Main
import Doip.Proofs.Frame.Chunking
import Doip.Proofs.Connection.Replies
import Doip.Proofs.Conversation.Activation
import Doip.Proofs.Conversation.Request
import Doip.Proofs.Conversation.Loss
import Doip.Proofs.Conversation.Exclusive
import Doip.Proofs.Conversation.Pending
import Doip.Proofs.Conversation.Usage
import Doip.Proofs.Conversation.Account
import Doip.Proofs.Conversation.Answers
import Doip.Proofs.Conversation.Machine
import Doip.Proofs.Conversation.Stands
import Doip.Proofs.Conversation.Goes
import Doip.Proofs.Conversation.Sequential
import Doip.Proofs.Conversation.Stopped
import Doip.Proofs.Conversation.Agreement
import Doip.Proofs.Conversation.Cancelled
import Doip.Proofs.Entity.Session
import Doip.Proofs.Conversation.Transact
import Doip.Proofs.Bench.Rounds
import Doip.Proofs.Bench.Line
import Doip.Proofs.Bench.Time
import Doip.Proofs.Bench.Connected
import Doip.Proofs.Bench.ReplyTree
import Doip.Proofs.Bench.Sizes
import Doip.Proofs.Payload.RoundTrip
import Doip.Proofs.Manager.Isolation
import Doip.Proofs.Manager.Finality
import Doip.Proofs.Frame.Verdict
import Doip.Proofs.Entity.Welcome
import Doip.Proofs.Bench.Dialling
import Doip.Proofs.Bench.Welcome
import Doip.Proofs.Discovery
import Doip.Proofs.Bench.Discovery
import Doip.Proofs.IpAddress
import Doip.Proofs.Document.Layout
import Doip.Proofs.Document.Fields
import Doip.Proofs.Config.Abridged
import Doip.Proofs.Payload.Layout
import Doip.Proofs.Payload.Limit
import Doip.Proofs.Connection.Handshake
import Doip.Proofs.Conversation.Faults
import Doip.Proofs.Connection.Queue
import Doip.Proofs.Connection.Sessions
import Doip.Proofs.Timer.Earliest
import Doip.Proofs.Timer.Overlap
import Doip.Proofs.Connection.Ended
import Doip.Proofs.Discovery.Traffic
import Doip.Proofs.Config.Validation
import Doip.Proofs.Conversation.Refused
import Doip.Proofs.Text.Blank
import Doip.Proofs.Text.Utf8
import Doip.Proofs.Text.Hex
import Doip.Proofs.CommandLine.Request
import Doip.Proofs.CommandLine.Address
import Doip.Proofs.Discovery.Preselection
import Doip.Proofs.Discovery.Vin
import Doip.Proofs.Conversation.Endpoint
import Doip.Proofs.Manager.Lookup
