import MachineBridge.Application
import MachineBridge.Bridge
import MachineBridge.Bridge.Background
import MachineBridge.Bridge.Callback
import MachineBridge.Bridge.Control
import MachineBridge.Bridge.Lifecycle
import MachineBridge.Bridge.MainThread
import MachineBridge.Bridge.Run
import MachineBridge.Bridge.Streams
import MachineBridge.Bridge.Tasks
import MachineBridge.Bridge.Window
import MachineBridge.Broadcast
import MachineBridge.Broadcast.Audience
import MachineBridge.Configuration
import MachineBridge.Decimal.Integer
import MachineBridge.Decimal.Positional
import MachineBridge.Decimal.Shortest
import MachineBridge.Error
import MachineBridge.ExecutionState
import MachineBridge.Handle
import MachineBridge.Json.Printer
import MachineBridge.Json.Reader
import MachineBridge.Json.Record
import MachineBridge.Json.Token
import MachineBridge.Json.Value
import MachineBridge.Logging
import MachineBridge.Logging.FileTree
import MachineBridge.Logging.Filter
import MachineBridge.Logging.Pattern
import MachineBridge.Logging.Pattern.Atom
import MachineBridge.Logging.Pattern.CharacterSet
import MachineBridge.Logging.Pattern.Flags
import MachineBridge.Machine
import MachineBridge.Machine.Disconnect
import MachineBridge.Machine.Operation
import MachineBridge.Machine.StateStream
import MachineBridge.Machine.WindowState
import MachineBridge.MainQueue
import MachineBridge.MainQueue.Host
import MachineBridge.MainQueue.Loop
import MachineBridge.MainQueue.Program
import MachineBridge.MainQueue.Run
import MachineBridge.MainQueue.Settle
import MachineBridge.Options
import MachineBridge.Platform
import MachineBridge.Proofs.Broadcast.Audience
import MachineBridge.Proofs.Broadcast.Delivery
import MachineBridge.Proofs.Broadcast.Holding
import MachineBridge.Proofs.Callbacks
import MachineBridge.Proofs.Changes
import MachineBridge.Proofs.Changes.Step
import MachineBridge.Proofs.Completion
import MachineBridge.Proofs.Edits
import MachineBridge.Proofs.Frame
import MachineBridge.Proofs.History
import MachineBridge.Proofs.Isolation.Others
import MachineBridge.Proofs.Isolation.Own
import MachineBridge.Proofs.Isolation.Run
import MachineBridge.Proofs.Isolation.Step
import MachineBridge.Proofs.Isolation.View
import MachineBridge.Proofs.Json.Fields
import MachineBridge.Proofs.Json.Reading
import MachineBridge.Proofs.Json.Spelling
import MachineBridge.Proofs.Lifecycle.Creation
import MachineBridge.Proofs.Lifecycle.Ending
import MachineBridge.Proofs.Lifecycle.Guards
import MachineBridge.Proofs.Lifecycle.Refusals
import MachineBridge.Proofs.Lifecycle.Release
import MachineBridge.Proofs.Lifecycle.Teardown
import MachineBridge.Proofs.Logging.Directories
import MachineBridge.Proofs.Logging.Install
import MachineBridge.Proofs.Machines
import MachineBridge.Proofs.MainQueue.Callers
import MachineBridge.Proofs.MainQueue.Completing
import MachineBridge.Proofs.MainQueue.InPlace
import MachineBridge.Proofs.MainQueue.Order
import MachineBridge.Proofs.MainQueue.Record
import MachineBridge.Proofs.MainQueue.Steps
import MachineBridge.Proofs.MainQueue.Value
import MachineBridge.Proofs.Registrations
import MachineBridge.Proofs.Registry.Lifetime
import MachineBridge.Proofs.Registry.Ownership
import MachineBridge.Proofs.Serialization.Forms
import MachineBridge.Proofs.Serialization.Texts
import MachineBridge.Proofs.Step
import MachineBridge.Proofs.Streams.Disconnects
import MachineBridge.Proofs.Streams.Frame
import MachineBridge.Proofs.Streams.Listening
import MachineBridge.Proofs.Streams.Pipeline
import MachineBridge.Proofs.Streams.References
import MachineBridge.Proofs.Streams.States
import MachineBridge.Proofs.Streams.Uses
import MachineBridge.Proofs.Text.Decoding
import MachineBridge.Proofs.Text.Encoding
import MachineBridge.Proofs.Tokens.Account
import MachineBridge.Proofs.Tokens.Change
import MachineBridge.Proofs.Tokens.Owner
import MachineBridge.Proofs.Tokens.Persistent
import MachineBridge.Proofs.Turns
import MachineBridge.Proofs.Validation
import MachineBridge.Proofs.Windows.Answering
import MachineBridge.Proofs.Windows.Asking
import MachineBridge.Proofs.Windows.BackgroundStop
import MachineBridge.Proofs.Windows.Borrowed
import MachineBridge.Proofs.Windows.Creations
import MachineBridge.Proofs.Windows.Descriptions
import MachineBridge.Proofs.Windows.Discipline
import MachineBridge.Proofs.Windows.Failure
import MachineBridge.Proofs.Windows.Following
import MachineBridge.Proofs.Windows.Inquiry
import MachineBridge.Proofs.Windows.Leaks
import MachineBridge.Proofs.Windows.Marks
import MachineBridge.Proofs.Windows.Presence
import MachineBridge.Proofs.Windows.Queue
import MachineBridge.Proofs.Windows.Raising
import MachineBridge.Proofs.Windows.Settling
import MachineBridge.Proofs.Windows.Showing
import MachineBridge.Proofs.Windows.Step
import MachineBridge.Proofs.Windows.Stopping
import MachineBridge.Proofs.Windows.Subscriptions
import MachineBridge.Proofs.Windows.Teardown
import MachineBridge.Proofs.Windows.UserClosing
import MachineBridge.Proofs.Windows.Views
import MachineBridge.Proofs.Windows.Watchers
import MachineBridge.Queue
import MachineBridge.RawError
import MachineBridge.Registry
import MachineBridge.Registry.Ledger
import MachineBridge.Scenario
import MachineBridge.Scenario.Name
import MachineBridge.Scenario.Screen
import MachineBridge.Scenario.Script
import MachineBridge.Scenario.Settle
import MachineBridge.Scenario.Step
import MachineBridge.Scenario.Task
import MachineBridge.Scenario.Thread
import MachineBridge.Serialization
import MachineBridge.Text.Alphanumeric
import MachineBridge.Text.Blank
import MachineBridge.Text.Ranges
import MachineBridge.Text.Utf8
