import JmapClient.Base64
import JmapClient.Blob
import JmapClient.Calendar
import JmapClient.CharRanges
import JmapClient.Client
import JmapClient.Command.Discover
import JmapClient.Command.Echo
import JmapClient.Command.Errand
import JmapClient.Command.Overview
import JmapClient.Command.SettingsFile
import JmapClient.Command.Transfer
import JmapClient.CommandLine
import JmapClient.CommandLine.Grammar
import JmapClient.Comparator
import JmapClient.Core
import JmapClient.Credentials
import JmapClient.Decimal.Binary64
import JmapClient.Decimal.Scaling
import JmapClient.Decimal.Shortest
import JmapClient.Discovery
import JmapClient.Error
import JmapClient.Failure
import JmapClient.Files
import JmapClient.Filter
import JmapClient.Hex
import JmapClient.Http
import JmapClient.Id
import JmapClient.Idna
import JmapClient.Idna.Characters
import JmapClient.Idna.Composition
import JmapClient.Idna.Composition.Table
import JmapClient.Idna.Direction
import JmapClient.Idna.Mapping
import JmapClient.Idna.Mapping.Table
import JmapClient.Idna.Punycode
import JmapClient.Invocation
import JmapClient.Json.Draft
import JmapClient.Json.Number
import JmapClient.Json.Printer
import JmapClient.Json.Problem
import JmapClient.Json.Readable
import JmapClient.Json.Reader
import JmapClient.Json.Record
import JmapClient.Json.Tree
import JmapClient.Main
import JmapClient.MethodCall
import JmapClient.Notes
import JmapClient.Offline
import JmapClient.Outcome
import JmapClient.Percent
import JmapClient.Power
import JmapClient.Proofs.Acceptance
import JmapClient.Proofs.Batches
import JmapClient.Proofs.Building
import JmapClient.Proofs.Decoding
import JmapClient.Proofs.Echoes
import JmapClient.Proofs.Elements
import JmapClient.Proofs.ErrorAnswers
import JmapClient.Proofs.Except
import JmapClient.Proofs.Filters
import JmapClient.Proofs.Json.Additions
import JmapClient.Proofs.Json.Completed
import JmapClient.Proofs.Json.Drafts
import JmapClient.Proofs.Json.Faithful
import JmapClient.Proofs.Json.Members
import JmapClient.Proofs.Json.Orderless
import JmapClient.Proofs.Json.Records
import JmapClient.Proofs.Lifecycle
import JmapClient.Proofs.Maps
import JmapClient.Proofs.Operations
import JmapClient.Proofs.Payloads
import JmapClient.Proofs.References
import JmapClient.Proofs.Registrations
import JmapClient.Proofs.RoundTrip
import JmapClient.Proofs.Runs
import JmapClient.Proofs.Salvaging
import JmapClient.Proofs.SessionRoundTrip
import JmapClient.Proofs.Sharing
import JmapClient.Proofs.Strands
import JmapClient.Proofs.Strokes
import JmapClient.Proofs.Support
import JmapClient.Proofs.Taking
import JmapClient.Proofs.Templates
import JmapClient.Proofs.Turns
import JmapClient.Proofs.UnknownCapabilities
import JmapClient.Proofs.Utf8
import JmapClient.Proofs.World
import JmapClient.Quoted
import JmapClient.Quoted.Table
import JmapClient.RecordType
import JmapClient.Records.Changes
import JmapClient.Records.Get
import JmapClient.Records.Query
import JmapClient.Records.Set
import JmapClient.Reference
import JmapClient.Registry
import JmapClient.Request
import JmapClient.Response
import JmapClient.Schema
import JmapClient.ServerError
import JmapClient.Session
import JmapClient.Settings
import JmapClient.SortedMap
import JmapClient.Task
import JmapClient.Timestamp
import JmapClient.Toml.Document
import JmapClient.Toml.Scalar
import JmapClient.Toml.Text
import JmapClient.Toml.Value
import JmapClient.UriTemplate
import JmapClient.Url
import JmapClient.Url.Address
import JmapClient.Url.Authority
import JmapClient.Url.Encoding
import JmapClient.Url.Host
import JmapClient.Url.Kind
import JmapClient.Url.Path
import JmapClient.Utf8
import JmapClient.Proofs.CallIds
import JmapClient.Proofs.FirstAnswers
import JmapClient.Proofs.Queueing
import JmapClient.Proofs.ErrorMembers
import JmapClient.Proofs.HandingOut
import JmapClient.Proofs.Accounts
import JmapClient.Proofs.Executing
import JmapClient.Proofs.SingleElements
import JmapClient.Proofs.Percent
import JmapClient.Proofs.PlainTemplates
import JmapClient.Proofs.Transfers
import JmapClient.Proofs.Forms
import JmapClient.Proofs.StandardCalls
import JmapClient.Proofs.Overviews
import JmapClient.Proofs.Combining
import JmapClient.Proofs.OperatorNodes
import JmapClient.Proofs.Calendar
import JmapClient.Proofs.Digits
import JmapClient.Proofs.Instants
import JmapClient.Proofs.Timestamps
import JmapClient.Proofs.Dates
import JmapClient.Proofs.UtcDates
import JmapClient.Proofs.Endpoints
import JmapClient.Proofs.LastRegistrations
import JmapClient.Proofs.Refusals
import JmapClient.Proofs.Errands
import JmapClient.Proofs.Folders
import JmapClient.Proofs.Commands
import JmapClient.Proofs.Uploads
import JmapClient.Proofs.Downloads
import JmapClient.Proofs.Toml.Texts
import JmapClient.Proofs.Toml.Documents
import JmapClient.Proofs.SavedSettings
import JmapClient.Proofs.Pairs
import JmapClient.Proofs.TypedEchoes
