import PluginKit.Attributes
import PluginKit.Binary64
import PluginKit.Capability
import PluginKit.Client
import PluginKit.CommandLine
import PluginKit.Config
import PluginKit.ConfigFile
import PluginKit.Connection
import PluginKit.Contract
import PluginKit.Decimal
import PluginKit.Descriptor
import PluginKit.Discovery
import PluginKit.Documents
import PluginKit.Duration
import PluginKit.Effect
import PluginKit.Fault
import PluginKit.Handshake
import PluginKit.Host.Basic
import PluginKit.Host.Process
import PluginKit.Host.Registry
import PluginKit.Host.Run
import PluginKit.Host.Step
import PluginKit.Http.Message
import PluginKit.Http.Uri
import PluginKit.Instance
import PluginKit.Json.Basic
import PluginKit.Json.Decode
import PluginKit.Json.Node
import PluginKit.Json.Printer
import PluginKit.Json.Reader
import PluginKit.Json.Value
import PluginKit.Launch
import PluginKit.Main
import PluginKit.Net.Address
import PluginKit.Network
import PluginKit.Operations
import PluginKit.Pagination
import PluginKit.Path
import PluginKit.Pattern.Basic
import PluginKit.Pattern.Extended.Basic
import PluginKit.Pattern.Extended.Machine
import PluginKit.Pattern.Extended.Reader
import PluginKit.Pattern.Matcher
import PluginKit.Pattern.Plain.Basic
import PluginKit.Pattern.Plain.Machine
import PluginKit.Pattern.Plain.Reader
import PluginKit.Pattern.Plain.Room
import PluginKit.Payload
import PluginKit.Proofs.Binary64
import PluginKit.Proofs.Decimal
import PluginKit.Proofs.Effect
import PluginKit.Proofs.Host.Cells
import PluginKit.Proofs.Host.History
import PluginKit.Proofs.Host.Launches
import PluginKit.Proofs.Host.Move
import PluginKit.Proofs.Host.Namesakes
import PluginKit.Proofs.Host.Places
import PluginKit.Proofs.Host.Script
import PluginKit.Proofs.Host.Shutdown
import PluginKit.Proofs.Json.Decoding
import PluginKit.Proofs.Json.Floats
import PluginKit.Proofs.Json.Magnitudes
import PluginKit.Proofs.Json.Numerals
import PluginKit.Proofs.Json.Reading
import PluginKit.Proofs.Payload
import PluginKit.Proofs.Rpc.Call
import PluginKit.Proofs.Rpc.Carried
import PluginKit.Proofs.Rpc.Mirror
import PluginKit.Proofs.Rpc.Transparency
import PluginKit.Proofs.Table
import PluginKit.Proofs.TypeId
import PluginKit.Proofs.Wire
import PluginKit.Resource
import PluginKit.Resource.Canonical
import PluginKit.Sample.Artifact
import PluginKit.Sample.Catalog
import PluginKit.Sample.Plugin
import PluginKit.Sample.Program
import PluginKit.Schema.Basic
import PluginKit.Schema.Dialect
import PluginKit.Schema.Draft
import PluginKit.Schema.Format
import PluginKit.Schema.Judge
import PluginKit.Schema.Library
import PluginKit.Schema.Metaschema
import PluginKit.Schema.Part
import PluginKit.Schema.Validator
import PluginKit.Schema.Violation
import PluginKit.Scheme.Basic
import PluginKit.Scheme.Fault
import PluginKit.Serve.Endpoints
import PluginKit.Serve.Router
import PluginKit.Serve.Server
import PluginKit.Sha256
import PluginKit.Startup
import PluginKit.System.Files
import PluginKit.System.IoError
import PluginKit.System.Program
import PluginKit.Table
import PluginKit.Telemetry.Directive
import PluginKit.Telemetry.LogConfig
import PluginKit.Telemetry.RequestId
import PluginKit.Testing.Bench
import PluginKit.Testing.Drill
import PluginKit.Testing.Echo
import PluginKit.Testing.Faults
import PluginKit.Testing.Prototypes
import PluginKit.Testing.Reading
import PluginKit.Testing.Rehearsal
import PluginKit.Testing.Script
import PluginKit.Testing.Setting
import PluginKit.Testing.Steps
import PluginKit.Text.Blank
import PluginKit.Text.Hex
import PluginKit.Text.Plain
import PluginKit.Text.Quoted
import PluginKit.Text.Utf8
import PluginKit.Timestamp
import PluginKit.Toml.Printer
import PluginKit.Toml.Reader
import PluginKit.Toml.Tree
import PluginKit.TypeId
import PluginKit.Unicode.Category
import PluginKit.Unicode.CharSet
import PluginKit.Unicode.Folding
import PluginKit.Unicode.Named
import PluginKit.Unicode.Property
import PluginKit.Unicode.Script
import PluginKit.Url.Basic
import PluginKit.Url.Host
import PluginKit.Url.Percent
import PluginKit.Url.Punycode
import PluginKit.Url.Reader
import PluginKit.Wire.Message
import PluginKit.Wire.Resource
import PluginKit.Proofs.Scheme.Edit
import PluginKit.Proofs.Scheme.Bindings
import PluginKit.Proofs.Rpc.Credentials
import PluginKit.Proofs.Rpc.Failures
import PluginKit.Proofs.Host.Flight
import PluginKit.Proofs.Time.Calendar
import PluginKit.Proofs.Time.Reading
import PluginKit.Proofs.Resource
import PluginKit.Proofs.Pinning
import PluginKit.Proofs.Host.Renewal
import PluginKit.Proofs.Registry.Edit
import PluginKit.Proofs.Registry.Bindings
import PluginKit.Proofs.Pagination
import PluginKit.Proofs.Sample.Listing
import PluginKit.Proofs.Scheme.Forms
import PluginKit.Proofs.Scheme.Coding
import PluginKit.Proofs.Serve.Endpoints
import PluginKit.Proofs.Registry.Introductions
import PluginKit.Proofs.Rpc.Resolved
import PluginKit.Proofs.Host.Events
import PluginKit.Proofs.Host.Reports
import PluginKit.Proofs.Host.Stopping
import PluginKit.Proofs.Rpc.Sending
import PluginKit.Proofs.Descriptor
import PluginKit.Proofs.Serve.Advertised
import PluginKit.Proofs.Scheme.Merging
import PluginKit.Proofs.Pagination.Rounds
import PluginKit.Proofs.Launch
import PluginKit.Proofs.Host.Pins
import PluginKit.Proofs.Pagination.Cycles
import PluginKit.Proofs.Registry.Kinds
import PluginKit.Proofs.Serve.Gate
import PluginKit.Proofs.Registry.Conflicts
import PluginKit.Proofs.Payload.Verbatim
import PluginKit.Proofs.Files
import PluginKit.Proofs.Sample.Uploads
import PluginKit.Proofs.Text
import PluginKit.Proofs.Digits
import PluginKit.Proofs.Net.Address
import PluginKit.Proofs.Net.Groups
import PluginKit.Proofs.Net.Line
import PluginKit.Proofs.Handshake
import PluginKit.Proofs.TypeId.Unversioned
import PluginKit.Proofs.Schema.Cache
import PluginKit.Proofs.Scheme.Dispatch
import PluginKit.Proofs.Serve.Refusals
