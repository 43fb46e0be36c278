import FieldAccess.Audit.Delivery
import FieldAccess.Audit.Entry
import FieldAccess.Audit.Event
import FieldAccess.CommandLine.Arguments
import FieldAccess.CommandLine.Command
import FieldAccess.CommandLine.Description
import FieldAccess.CommandLine.Ending
import FieldAccess.CommandLine.Log
import FieldAccess.CommandLine.Run
import FieldAccess.CommandLine.Sample
import FieldAccess.CommandLine.Style
import FieldAccess.CommandLine.Surroundings
import FieldAccess.CommandLine.Value
import FieldAccess.Decimal.Bounded
import FieldAccess.Decimal.Shortest
import FieldAccess.Files.Tree
import FieldAccess.Format.Codec
import FieldAccess.Format.Fault
import FieldAccess.Format.Source
import FieldAccess.Http.Body
import FieldAccess.Http.Client
import FieldAccess.Http.MediaType
import FieldAccess.Http.Message
import FieldAccess.Http.Plain
import FieldAccess.Http.Router
import FieldAccess.Http.Status
import FieldAccess.Http.Transport
import FieldAccess.Instance.Listening
import FieldAccess.Instance.Outgoing
import FieldAccess.Json.Reader
import FieldAccess.Json.Source
import FieldAccess.Json.Value
import FieldAccess.Json.Writer
import FieldAccess.Main
import FieldAccess.Manifest.Basic
import FieldAccess.Manifest.Check
import FieldAccess.Manifest.Connecting
import FieldAccess.Manifest.Database
import FieldAccess.Manifest.EnvFile
import FieldAccess.Manifest.Environment
import FieldAccess.Manifest.Loading
import FieldAccess.Net.DirectionTable
import FieldAccess.Net.Domain
import FieldAccess.Net.DomainTable
import FieldAccess.Net.Host
import FieldAccess.Net.JoiningTable
import FieldAccess.Net.Percent
import FieldAccess.Net.Punycode
import FieldAccess.Net.Query
import FieldAccess.Net.Url
import FieldAccess.Policy.AllowList
import FieldAccess.Policy.Decision
import FieldAccess.Policy.Error
import FieldAccess.Policy.FieldPolicy
import FieldAccess.Policy.FieldRecord
import FieldAccess.Policy.FieldRef
import FieldAccess.Policy.Pool
import FieldAccess.Policy.Replacement
import FieldAccess.Policy.Store
import FieldAccess.Policy.Uuid
import FieldAccess.Policy.Vocabulary
import FieldAccess.Proofs.Replacement
import FieldAccess.Proofs.Runs
import FieldAccess.Proofs.StoreUpdates
import FieldAccess.Schema.Cleanup
import FieldAccess.Schema.Conversion
import FieldAccess.Schema.Delimiter
import FieldAccess.Schema.Document
import FieldAccess.Schema.FieldLine
import FieldAccess.Schema.TypeBlock
import FieldAccess.Service.Call
import FieldAccess.Service.Measurement
import FieldAccess.Service.Request
import FieldAccess.Text.AlphanumericTable
import FieldAccess.Text.CaseTable
import FieldAccess.Text.Classes
import FieldAccess.Text.Composed
import FieldAccess.Text.CompositeTable
import FieldAccess.Text.Lowercase
import FieldAccess.Text.MarkTable
import FieldAccess.Text.PrintableTable
import FieldAccess.Text.Quoted
import FieldAccess.Text.Trim
import FieldAccess.Text.Utf8
import FieldAccess.Text.WordTable
import FieldAccess.Time.Date
import FieldAccess.Time.Instant
import FieldAccess.Time.Rfc3339
import FieldAccess.Wire.Event
import FieldAccess.Wire.Manifest
import FieldAccess.Wire.Policy
import FieldAccess.Wire.Schema
import FieldAccess.Wire.Service
import FieldAccess.Yaml.Cursor
import FieldAccess.Yaml.Document
import FieldAccess.Yaml.Event
import FieldAccess.Yaml.Fault
import FieldAccess.Yaml.Plain
import FieldAccess.Yaml.Scalar
import FieldAccess.Yaml.Source
import FieldAccess.Yaml.Tag
import FieldAccess.Yaml.Token
import FieldAccess.Yaml.Writer
import FieldAccess.Proofs.Accesses
import FieldAccess.Proofs.DecisionLog
import FieldAccess.Proofs.StoreInvariant
import FieldAccess.Proofs.InPlace
import FieldAccess.Proofs.FailedCalls
import FieldAccess.Proofs.SchemaDocuments
import FieldAccess.Proofs.Shielding
import FieldAccess.Proofs.FieldLines
import FieldAccess.Proofs.SchemaRoundTrip
import FieldAccess.Proofs.Identifiers
import FieldAccess.Proofs.Replay
import FieldAccess.Proofs.Independence
import FieldAccess.Proofs.GrantOrder
import FieldAccess.Proofs.KnownDirectives
import FieldAccess.Proofs.Codecs
import FieldAccess.Proofs.OfflineConversion
import FieldAccess.Proofs.PlanParts
import FieldAccess.Proofs.Endpoints
import FieldAccess.Proofs.InstantTexts
import FieldAccess.Proofs.IdentifierTexts
import FieldAccess.Proofs.WireCodecs
import FieldAccess.Proofs.ClientRequests
import FieldAccess.Proofs.RemoteCalls
import FieldAccess.Proofs.HiddenFaults
import FieldAccess.Proofs.Accounting
import FieldAccess.Proofs.BatchGrant
import FieldAccess.Proofs.PlanWrites
import FieldAccess.Proofs.OwnerResolution
import FieldAccess.Proofs.Cleaning
import FieldAccess.Proofs.Comments
import FieldAccess.Proofs.BlockStrings
import FieldAccess.Proofs.Nesting
import FieldAccess.Proofs.Lookahead
import FieldAccess.Proofs.WrittenTypes
import FieldAccess.Proofs.OwnLines
import FieldAccess.Proofs.Descriptions
import FieldAccess.Proofs.DocumentLines
import FieldAccess.Proofs.MalformedAnnotations
import FieldAccess.Proofs.CalendarMonths
import FieldAccess.Proofs.Renewal
import FieldAccess.Proofs.StringLiterals
import FieldAccess.Proofs.SettledTexts
import FieldAccess.Proofs.UnreadTypes
import FieldAccess.Proofs.TypeDirectives
import FieldAccess.Proofs.BatchFaults
import FieldAccess.Proofs.ReferencePositions
import FieldAccess.Proofs.ManifestChecks
import FieldAccess.Proofs.AuditDelivery
import FieldAccess.Proofs.Passwords
import FieldAccess.Proofs.FieldWords
import FieldAccess.Proofs.AuditEndpoint
import FieldAccess.Proofs.ClosingDelimiters
import FieldAccess.Proofs.ConfigurationCheck
import FieldAccess.Proofs.ManifestTexts
