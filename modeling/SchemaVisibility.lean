import SchemaVisibility.About
import SchemaVisibility.Access.Denial
import SchemaVisibility.Access.Rule
import SchemaVisibility.Access.Validation
import SchemaVisibility.Catalog
import SchemaVisibility.Endpoint.Address
import SchemaVisibility.Endpoint.Canned
import SchemaVisibility.Endpoint.ContentType
import SchemaVisibility.Endpoint.Extraction
import SchemaVisibility.Endpoint.Form
import SchemaVisibility.Endpoint.Request
import SchemaVisibility.Endpoint.Response
import SchemaVisibility.Endpoint.View
import SchemaVisibility.GraphQL.Collection
import SchemaVisibility.GraphQL.Document
import SchemaVisibility.GraphQL.Parser
import SchemaVisibility.GraphQL.Token
import SchemaVisibility.Introspection.Basic
import SchemaVisibility.Introspection.Redaction
import SchemaVisibility.Json.Basic
import SchemaVisibility.Json.Decimal
import SchemaVisibility.Json.Literal
import SchemaVisibility.Json.Printer
import SchemaVisibility.Json.Quoted
import SchemaVisibility.Json.Reader
import SchemaVisibility.Json.Whole
import SchemaVisibility.Marking.Basic
import SchemaVisibility.Marking.Declaration
import SchemaVisibility.Marking.Scan
import SchemaVisibility.Notice
import SchemaVisibility.Plugin.Base
import SchemaVisibility.Plugin.Basic
import SchemaVisibility.Plugin.Execution
import SchemaVisibility.Plugin.Host
import SchemaVisibility.Plugin.Store
import SchemaVisibility.Proofs.Access.Completeness
import SchemaVisibility.Proofs.Access.Direct
import SchemaVisibility.Proofs.Access.Refinement
import SchemaVisibility.Proofs.Access.Visit
import SchemaVisibility.Proofs.Fallible
import SchemaVisibility.Proofs.GraphQL.Collection
import SchemaVisibility.Proofs.Introspection.Agreement
import SchemaVisibility.Proofs.Introspection.Criterion
import SchemaVisibility.Proofs.Introspection.Depth
import SchemaVisibility.Proofs.Introspection.Filtering
import SchemaVisibility.Proofs.Introspection.Gate
import SchemaVisibility.Proofs.Introspection.Noninterference
import SchemaVisibility.Proofs.Introspection.Response
import SchemaVisibility.Proofs.Introspection.Walking
import SchemaVisibility.Proofs.Marking.Scan
import SchemaVisibility.Proofs.Schema.Built
import SchemaVisibility.Proofs.Tables
import SchemaVisibility.Proofs.Traversal.Static
import SchemaVisibility.Registry
import SchemaVisibility.Schema.Basic
import SchemaVisibility.Schema.Build
import SchemaVisibility.Schema.Coordinate
import SchemaVisibility.Schema.Defaults
import SchemaVisibility.Schema.Rules
import SchemaVisibility.Schema.Site
import SchemaVisibility.Schema.Standard
import SchemaVisibility.Schema.Validity
import SchemaVisibility.Settings.Basic
import SchemaVisibility.Settings.Placeholder
import SchemaVisibility.Table
import SchemaVisibility.Text.Blank
import SchemaVisibility.Text.Case
import SchemaVisibility.Text.Cased
import SchemaVisibility.Text.CharName
import SchemaVisibility.Text.Charset
import SchemaVisibility.Text.Chinese
import SchemaVisibility.Text.CodePage
import SchemaVisibility.Text.CodePage.Dos
import SchemaVisibility.Text.CodePage.Ebcdic
import SchemaVisibility.Text.CodePage.Iso8859
import SchemaVisibility.Text.CodePage.Macintosh
import SchemaVisibility.Text.CodePage.National
import SchemaVisibility.Text.CodePage.Windows
import SchemaVisibility.Text.Escaped
import SchemaVisibility.Text.Hangul
import SchemaVisibility.Text.Hex
import SchemaVisibility.Text.HostName
import SchemaVisibility.Text.Japanese
import SchemaVisibility.Text.Korean
import SchemaVisibility.Text.Name
import SchemaVisibility.Text.Percent
import SchemaVisibility.Text.Plane
import SchemaVisibility.Text.Plane.Big5
import SchemaVisibility.Text.Plane.Gb2312
import SchemaVisibility.Text.Plane.Gbk
import SchemaVisibility.Text.Plane.HongKong
import SchemaVisibility.Text.Plane.JisX0208
import SchemaVisibility.Text.Plane.JisX0212
import SchemaVisibility.Text.Plane.JisX0213
import SchemaVisibility.Text.Plane.KsX1001
import SchemaVisibility.Text.Plane.ShiftedExtra
import SchemaVisibility.Text.Printable
import SchemaVisibility.Text.Punycode
import SchemaVisibility.Text.Reading
import SchemaVisibility.Text.Switched
import SchemaVisibility.Text.Utf7
import SchemaVisibility.Text.Utf8
import SchemaVisibility.Traversal.Event
import SchemaVisibility.Traversal.Scope
import SchemaVisibility.Proofs.Introspection.Frame
import SchemaVisibility.Proofs.Introspection.Idempotence
import SchemaVisibility.Proofs.Endpoint.Operation
import SchemaVisibility.Proofs.Endpoint.Batch
import SchemaVisibility.Proofs.Endpoint.Overlap
import SchemaVisibility.Proofs.Plugin.History
import SchemaVisibility.Proofs.Plugin.Store
import SchemaVisibility.Proofs.Access.PrivateType
import SchemaVisibility.Proofs.Access.Enforcement
import SchemaVisibility.Proofs.Access.ObjectField
import SchemaVisibility.Proofs.Marking.Exactness
import SchemaVisibility.Proofs.Traversal.Nesting
import SchemaVisibility.Proofs.Endpoint.Transparency
import SchemaVisibility.Proofs.Introspection.Parallel
import SchemaVisibility.Proofs.Introspection.Splitting
import SchemaVisibility.Proofs.Introspection.Merging
import SchemaVisibility.Proofs.Marking.Isolation
import SchemaVisibility.Proofs.Introspection.Composition
import SchemaVisibility.Proofs.Introspection.Translation
import SchemaVisibility.Proofs.Introspection.Renaming
import SchemaVisibility.Proofs.Introspection.Unfolding
import SchemaVisibility.Proofs.GraphQL.Unfolding
import SchemaVisibility.Proofs.Introspection.Shape
import SchemaVisibility.Marking.Scanner
import SchemaVisibility.Proofs.Marking.Listing
import SchemaVisibility.Proofs.Schema.Distinct
import SchemaVisibility.Proofs.Schema.Coordinate
import SchemaVisibility.Proofs.GraphQL.Naming
import SchemaVisibility.Proofs.Schema.Spelled
import SchemaVisibility.Proofs.Marking.Resolution
import SchemaVisibility.Proofs.Marking.Effect
import SchemaVisibility.Proofs.Registry
import SchemaVisibility.Proofs.Endpoint.Form
import SchemaVisibility.Proofs.Endpoint.Methods
import SchemaVisibility.Proofs.Settings.Interpolation
