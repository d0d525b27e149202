import Telemetry.Base64Url
import Telemetry.Configuration
import Telemetry.Configuration.Reader
import Telemetry.Database
import Telemetry.Database.Catalog
import Telemetry.Database.Migration
import Telemetry.Decimal.Digits
import Telemetry.Decimal.Layout
import Telemetry.Decimal.Reading
import Telemetry.Decimal.Shortest
import Telemetry.Delivery.Address
import Telemetry.Delivery.Config
import Telemetry.Delivery.Emitter
import Telemetry.Delivery.Endpoint
import Telemetry.Delivery.Loop
import Telemetry.Delivery.Message
import Telemetry.Delivery.Request
import Telemetry.Delivery.Retry
import Telemetry.Delivery.Timeline
import Telemetry.Entity
import Telemetry.Entries
import Telemetry.Event
import Telemetry.Event.Message
import Telemetry.Flush
import Telemetry.Flush.Transcript
import Telemetry.Form.Delivery
import Telemetry.Form.Event
import Telemetry.Form.Signal
import Telemetry.Form.State
import Telemetry.Form.Tracker
import Telemetry.FormUrlEncoded
import Telemetry.Hexadecimal
import Telemetry.Json
import Telemetry.Json.Members
import Telemetry.Json.Parser
import Telemetry.Json.Printer
import Telemetry.Main
import Telemetry.Notification
import Telemetry.Payload
import Telemetry.Platform
import Telemetry.Queue
import Telemetry.Queue.File
import Telemetry.Queue.Memory
import Telemetry.Queue.Store
import Telemetry.Queue.Table
import Telemetry.Rehearsal.Bench
import Telemetry.Rehearsal.Collector
import Telemetry.Rehearsal.Files
import Telemetry.Rehearsal.Machine
import Telemetry.Rehearsal.Outage
import Telemetry.Rehearsal.Properties
import Telemetry.Rehearsal.Transport
import Telemetry.Report.Pseudonyms
import Telemetry.Resources
import Telemetry.Schemas
import Telemetry.Session
import Telemetry.Session.Record
import Telemetry.Session.State
import Telemetry.Settings
import Telemetry.Settings.Memory
import Telemetry.Settings.Store
import Telemetry.Settings.Table
import Telemetry.State.DeepLink
import Telemetry.State.Lifecycle
import Telemetry.State.Machine
import Telemetry.State.MachineState
import Telemetry.State.Manager
import Telemetry.State.Selector
import Telemetry.Text.Blank
import Telemetry.Text.Occurrence
import Telemetry.Text.Printable
import Telemetry.Text.Quoted
import Telemetry.Time.Calendar
import Telemetry.Time.Millis
import Telemetry.Toml
import Telemetry.Toml.Blank
import Telemetry.Toml.Document
import Telemetry.Toml.Moment
import Telemetry.Toml.Number
import Telemetry.Toml.Table
import Telemetry.Toml.Text
import Telemetry.Tracker
import Telemetry.Tracker.Build
import Telemetry.Tracker.Gdpr
import Telemetry.Tracker.Creation
import Telemetry.Tracker.Registry
import Telemetry.Tracker.Settings
import Telemetry.Tracker.Subject
import Telemetry.Tracker.World
import Telemetry.Uuid
import Telemetry.Proofs.Json.Written
import Telemetry.Proofs.Json.Size
import Telemetry.Proofs.Json.Values
import Telemetry.Proofs.Queue.Contents
import Telemetry.Proofs.Queue.Calls
import Telemetry.Proofs.Queue.Agreement
import Telemetry.Proofs.Queue.RoundTrip
import Telemetry.Proofs.Queue.Paging
import Telemetry.Proofs.Queue.EmptyValues
import Telemetry.Proofs.State.Registration
import Telemetry.Proofs.State.Versions
import Telemetry.Proofs.State.Lazy
import Telemetry.Proofs.State.Asking
import Telemetry.Proofs.State.Answers
import Telemetry.Proofs.State.Forcing
import Telemetry.Proofs.State.Merging
import Telemetry.Proofs.State.Uses
import Telemetry.Proofs.State.Steady
import Telemetry.Proofs.State.Links
import Telemetry.Proofs.State.Alike
import Telemetry.Proofs.State.Log
import Telemetry.Proofs.State.Order
import Telemetry.Proofs.Text.Base64
import Telemetry.Proofs.Tracker.Payload
import Telemetry.Proofs.Tracker.Messages
import Telemetry.Proofs.Tracker.Machines
import Telemetry.Proofs.Tracker.Outcome
import Telemetry.Proofs.Tracker.Contents
import Telemetry.Proofs.Tracker.OwnEntries
import Telemetry.Proofs.Tracker.Addresses
import Telemetry.Proofs.Tracker.Schemes
import Telemetry.Proofs.Tracker.Records
import Telemetry.Proofs.Tracker.Signals
import Telemetry.Proofs.Tracker.Install
import Telemetry.Proofs.Tracker.Launches
import Telemetry.Proofs.Tracker.Suppression
import Telemetry.Proofs.Tracker.Registry
import Telemetry.Proofs.Tracker.Likeness
import Telemetry.Proofs.Tracker.Sharing
import Telemetry.Proofs.Tracker.Scopes
import Telemetry.Proofs.Tracker.Isolation
import Telemetry.Proofs.Settings.Keeping
import Telemetry.Proofs.Settings.Records
import Telemetry.Proofs.Settings.Likeness
import Telemetry.Proofs.Settings.Transaction
import Telemetry.Proofs.Settings.Agreement
import Telemetry.Proofs.Session.Partition
import Telemetry.Proofs.Session.Codec
import Telemetry.Proofs.Session.Launch
import Telemetry.Proofs.Session.Restart
import Telemetry.Proofs.Delivery.Grouping
import Telemetry.Proofs.Delivery.Body
import Telemetry.Proofs.Delivery.Filling
import Telemetry.Proofs.Delivery.Phases
import Telemetry.Proofs.Delivery.Cycle
import Telemetry.Proofs.Delivery.Drain
import Telemetry.Proofs.Delivery.Clearing
import Telemetry.Proofs.Delivery.Activity
import Telemetry.Proofs.Delivery.Redelivery
import Telemetry.Proofs.Session.Identity
import Telemetry.Proofs.Session.Likeness
import Telemetry.Proofs.Delivery.Silence
import Telemetry.Proofs.Tracker.Anonymity
import Telemetry.Proofs.Tracker.SessionMachine
import Telemetry.Proofs.Tracker.SessionBook
import Telemetry.Proofs.Text.FormUrlEncoded
import Telemetry.Proofs.Text.QueryBytes
import Telemetry.Proofs.Delivery.Query
import Telemetry.Proofs.Delivery.Collection
import Telemetry.Proofs.Delivery.Wire
import Telemetry.Proofs.Delivery.Accounting
import Telemetry.Proofs.Delivery.Statements
import Telemetry.Proofs.Delivery.Flushing
import Telemetry.Proofs.Database.Record
import Telemetry.Proofs.Database.Migration
import Telemetry.Proofs.Configuration.RetryCodes
import Telemetry.Proofs.Platform.Caching
