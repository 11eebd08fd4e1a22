import LanguageBridge.Agenda
import LanguageBridge.Backoff
import LanguageBridge.Binary64
import LanguageBridge.Binary64.Decimal
import LanguageBridge.Client.Attempt
import LanguageBridge.Client.Background
import LanguageBridge.Client.Connection
import LanguageBridge.Client.Options
import LanguageBridge.Client.Peer
import LanguageBridge.Client.Reconnect
import LanguageBridge.Client.Request
import LanguageBridge.Client.Run
import LanguageBridge.Client.System
import LanguageBridge.Client.Unreachable
import LanguageBridge.Client.Validity
import LanguageBridge.CommandLine
import LanguageBridge.Digits
import LanguageBridge.Duration
import LanguageBridge.Editor.Answer
import LanguageBridge.Editor.Document
import LanguageBridge.Editor.Feature
import LanguageBridge.Editor.Position
import LanguageBridge.Editor.Registry
import LanguageBridge.Editor.Result
import LanguageBridge.Editor.Shaping
import LanguageBridge.Endpoint
import LanguageBridge.Failure
import LanguageBridge.Host.Bridge
import LanguageBridge.Host.Header
import LanguageBridge.Host.Message
import LanguageBridge.Json.Decoder
import LanguageBridge.Json.Draft
import LanguageBridge.Json.Fault
import LanguageBridge.Json.Printer
import LanguageBridge.Json.Tagged
import LanguageBridge.Json.Value
import LanguageBridge.Link
import LanguageBridge.Main
import LanguageBridge.Message
import LanguageBridge.Monitor
import LanguageBridge.Preamble
import LanguageBridge.Proofs.Binary64.Rounding
import LanguageBridge.Proofs.Client.Abandoned
import LanguageBridge.Proofs.Client.Advance
import LanguageBridge.Proofs.Client.Advertised
import LanguageBridge.Proofs.Client.Attention
import LanguageBridge.Proofs.Client.Calm
import LanguageBridge.Proofs.Client.Destruction
import LanguageBridge.Proofs.Client.Endings
import LanguageBridge.Proofs.Client.Erasure
import LanguageBridge.Proofs.Client.FailedAttempts
import LanguageBridge.Proofs.Client.Failures
import LanguageBridge.Proofs.Client.Front
import LanguageBridge.Proofs.Client.Generations
import LanguageBridge.Proofs.Client.Greeting
import LanguageBridge.Proofs.Client.Handshake
import LanguageBridge.Proofs.Client.Leaks
import LanguageBridge.Proofs.Client.Live
import LanguageBridge.Proofs.Client.Move
import LanguageBridge.Proofs.Client.Operations
import LanguageBridge.Proofs.Client.Providers
import LanguageBridge.Proofs.Client.Queues
import LanguageBridge.Proofs.Client.Recovery
import LanguageBridge.Proofs.Client.Rest
import LanguageBridge.Proofs.Client.Retrying
import LanguageBridge.Proofs.Client.Routine
import LanguageBridge.Proofs.Client.Sending
import LanguageBridge.Proofs.Client.SettingsPush
import LanguageBridge.Proofs.Client.Slot
import LanguageBridge.Proofs.Client.Staleness
import LanguageBridge.Proofs.Client.Standing
import LanguageBridge.Proofs.Client.Step
import LanguageBridge.Proofs.Client.Supersession
import LanguageBridge.Proofs.Client.Talk
import LanguageBridge.Proofs.Client.Turns
import LanguageBridge.Proofs.Client.Undecodable
import LanguageBridge.Proofs.Client.Waiting
import LanguageBridge.Proofs.Client.Working
import LanguageBridge.Proofs.Editor.LastRegistration
import LanguageBridge.Proofs.Editor.Lines
import LanguageBridge.Proofs.Editor.Merging
import LanguageBridge.Proofs.Editor.Registry
import LanguageBridge.Proofs.Editor.Results
import LanguageBridge.Proofs.Editor.Snippets
import LanguageBridge.Proofs.Editor.Translation
import LanguageBridge.Proofs.Editor.Words
import LanguageBridge.Proofs.Host.Answers
import LanguageBridge.Proofs.Host.Documents
import LanguageBridge.Proofs.Host.Mirror
import LanguageBridge.Proofs.Host.Places
import LanguageBridge.Proofs.Host.Wire
import LanguageBridge.Proofs.Json.Faults
import LanguageBridge.Proofs.Json.Printing
import LanguageBridge.Proofs.Json.Reading
import LanguageBridge.Proofs.Json.Records
import LanguageBridge.Proofs.Json.RoundTrip
import LanguageBridge.Proofs.Json.Shapes
import LanguageBridge.Proofs.Link.Frames
import LanguageBridge.Proofs.Link.Order
import LanguageBridge.Proofs.Monitor.Schedule
import LanguageBridge.Proofs.Retry.Chronicle
import LanguageBridge.Proofs.Retry.Delays
import LanguageBridge.Proofs.Retry.Punctual
import LanguageBridge.Proofs.Retry.Sound
import LanguageBridge.Proofs.Server.Faults
import LanguageBridge.Proofs.Server.Frames
import LanguageBridge.Proofs.Server.HoverLists
import LanguageBridge.Proofs.Server.Suggestions
import LanguageBridge.Proofs.Session.Acknowledgements
import LanguageBridge.Proofs.Session.Conversation
import LanguageBridge.Proofs.Session.Faithful
import LanguageBridge.Proofs.Session.Multiplexing
import LanguageBridge.Proofs.Session.Replies
import LanguageBridge.Proofs.Session.Routing
import LanguageBridge.Proofs.Session.Stage
import LanguageBridge.Proofs.Settings.Partial
import LanguageBridge.Proofs.Settings.Periods
import LanguageBridge.Proofs.Settings.Stored
import LanguageBridge.Proofs.Text.Pieces
import LanguageBridge.Proofs.Text.Wording
import LanguageBridge.Rehearsal.Link
import LanguageBridge.Rehearsal.Monitor
import LanguageBridge.Rehearsal.Retry
import LanguageBridge.Rehearsal.Scenario
import LanguageBridge.Rehearsal.Script
import LanguageBridge.Rehearsal.Session
import LanguageBridge.Retry
import LanguageBridge.Server.Capabilities
import LanguageBridge.Server.Markup
import LanguageBridge.Server.Position
import LanguageBridge.Server.Reply
import LanguageBridge.Session
import LanguageBridge.Settings
import LanguageBridge.Settings.Location
import LanguageBridge.Text.Blank
import LanguageBridge.Text.LowerCase
import LanguageBridge.Text.Quoted
import LanguageBridge.Text.Ranges
import LanguageBridge.Text.Search
import LanguageBridge.Text.WordCharacter
import LanguageBridge.Word32
