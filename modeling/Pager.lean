import Pager.Binding
import Pager.Bucket.Basic
import Pager.Bucket.Listing
import Pager.CommandLine.Arguments
import Pager.CommandLine.Assignment
import Pager.CommandLine.Basic
import Pager.CommandLine.Run
import Pager.Decimal.Double
import Pager.Decimal.Notation
import Pager.Decimal.Shortest
import Pager.Definition.Basic
import Pager.Definition.Defect
import Pager.Definition.Read
import Pager.Definition.Source
import Pager.Definition.Templates
import Pager.Endpoint
import Pager.Fault
import Pager.Fields
import Pager.Json.Basic
import Pager.Json.Path
import Pager.Json.Reader
import Pager.Json.Writer
import Pager.Main
import Pager.Page
import Pager.Paging.Control
import Pager.Paging.Walk
import Pager.Parameters
import Pager.Projection
import Pager.Selection
import Pager.Sink
import Pager.Sink.JsonLines
import Pager.Template
import Pager.Template.Render
import Pager.Text.Blank
import Pager.Text.Bytes
import Pager.Text.CodeTable
import Pager.Text.Digits
import Pager.Text.Letters
import Pager.Text.Pieces
import Pager.Transport.Backoff
import Pager.Transport.Delay
import Pager.Transport.Exchange
import Pager.Transport.Listing
import Pager.Transport.Message
import Pager.Transport.Script
import Pager.Transport.Settings
import Pager.Url.Basic
import Pager.Url.Domain.Basic
import Pager.Url.Domain.Composition
import Pager.Url.Domain.Direction
import Pager.Url.Domain.Joining
import Pager.Url.Domain.Mapping
import Pager.Url.Domain.Marks
import Pager.Url.Fault
import Pager.Url.Host
import Pager.Url.Path
import Pager.Url.Percent
import Pager.Url.Punycode
import Pager.Yaml.Cursor
import Pager.Yaml.Event
import Pager.Yaml.Node
import Pager.Yaml.Scalar
import Pager.Yaml.Token
import Pager.Yaml.Typed
import Pager.Proofs.Walk.Turn
import Pager.Proofs.Walk.Run
import Pager.Proofs.Walk.Chain
import Pager.Proofs.Walk.Resume
import Pager.Proofs.Walk.Continuation
import Pager.Proofs.Walk.Account
import Pager.Proofs.Walk.Outcome
import Pager.Proofs.Walk.Cap
import Pager.Proofs.Binding
import Pager.Proofs.Endpoint.Cursor
import Pager.Proofs.Url.Percent
import Pager.Proofs.Url.Path
import Pager.Proofs.Url.Basic
import Pager.Proofs.Endpoint.Address
import Pager.Proofs.Transport.Exchange
import Pager.Proofs.Transport.Listing
import Pager.Proofs.Template.Name
import Pager.Proofs.Template.Scan
import Pager.Proofs.Template.Substitution
import Pager.Proofs.Template.Variable
import Pager.Proofs.Parameters
import Pager.Proofs.Definition.Sound
import Pager.Proofs.Endpoint.Parts
import Pager.Proofs.Endpoint.Bindable
import Pager.Proofs.Endpoint.Header
import Pager.Proofs.Definition.Reference
import Pager.Proofs.Endpoint.Environment
import Pager.Proofs.Walk.Position
import Pager.Proofs.Walk.Likeness
import Pager.Proofs.Transport.Mending
import Pager.Proofs.Fault
import Pager.Proofs.CommandLine.Refused
import Pager.Proofs.Sink.JsonLines
import Pager.Proofs.Walk.Served
import Pager.Proofs.Transport.Records
import Pager.Proofs.Endpoint.Frame
import Pager.Proofs.Template.Reading
import Pager.Proofs.Walk.Delivery
import Pager.Proofs.Selection
import Pager.Proofs.Walk.Selected
import Pager.Proofs.Text
import Pager.Proofs.CommandLine.Reach
import Pager.Proofs.Template.Occurrence
import Pager.Proofs.Fields
import Pager.Proofs.Template.Value
import Pager.Proofs.Template.Pruning
import Pager.Proofs.Endpoint.Arguments
import Pager.Proofs.Parameters.History
import Pager.Proofs.Transport.Attempts
import Pager.Proofs.Transport.Retryable
import Pager.Proofs.Definition.Ordered
import Pager.Proofs.Endpoint.HeaderNames
import Pager.Proofs.Transport.Backoff
import Pager.Proofs.Text.Bytes
import Pager.Proofs.Text.Digits
import Pager.Proofs.Json.Writer
import Pager.Proofs.Sink.Framing
import Pager.Proofs.Sink.Limit
import Pager.Proofs.Walk.Showing
import Pager.Proofs.Transport.Explicit
import Pager.Proofs.Text.Letters
import Pager.Proofs.Json.Reader
import Pager.Proofs.Json.Descent
import Pager.Proofs.Json.Path
import Pager.Proofs.Template.Lookup
import Pager.Proofs.Fault.Lookup
import Pager.Proofs.Definition.Names
