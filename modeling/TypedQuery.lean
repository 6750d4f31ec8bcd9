import TypedQuery.Archive.Checksum
import TypedQuery.Archive.Gzip
import TypedQuery.Archive.Inflate
import TypedQuery.Archive.Pack
import TypedQuery.Archive.RangeCode
import TypedQuery.Archive.SortedBlock
import TypedQuery.Archive.Tar
import TypedQuery.Archive.Unpacked
import TypedQuery.Archive.Zip
import TypedQuery.Archive.ZipFault
import TypedQuery.Cli.Command
import TypedQuery.Cli.Invocation
import TypedQuery.Cli.Options
import TypedQuery.Cli.Run
import TypedQuery.Cli.Usage
import TypedQuery.Client.Attribute
import TypedQuery.Client.ClassTrait
import TypedQuery.Client.Docstring
import TypedQuery.Client.Generate
import TypedQuery.Client.Layout
import TypedQuery.Client.Load
import TypedQuery.Client.Names
import TypedQuery.Client.Plan
import TypedQuery.Client.Source
import TypedQuery.Client.Template
import TypedQuery.Client.Write
import TypedQuery.Files.Error
import TypedQuery.Files.Extract
import TypedQuery.Files.Tree
import TypedQuery.Json.Basic
import TypedQuery.Json.Compact
import TypedQuery.Json.Equal
import TypedQuery.Json.Literal
import TypedQuery.Json.Reader
import TypedQuery.Main
import TypedQuery.Number.Binary64
import TypedQuery.Number.Integer
import TypedQuery.Number.Residue
import TypedQuery.Number.Shortest
import TypedQuery.Proofs.Basic
import TypedQuery.Proofs.Client.Answering
import TypedQuery.Proofs.Client.Calls
import TypedQuery.Proofs.Client.Coherent
import TypedQuery.Proofs.Client.Describing
import TypedQuery.Proofs.Client.Loading
import TypedQuery.Proofs.Client.Marking
import TypedQuery.Proofs.Client.Naming
import TypedQuery.Proofs.Client.Planning
import TypedQuery.Proofs.Number.Range
import TypedQuery.Proofs.Query.Selecting
import TypedQuery.Proofs.Query.Typing
import TypedQuery.Proofs.Response.Decoding
import TypedQuery.Proofs.Schema.Collecting
import TypedQuery.Proofs.Schema.Grammar
import TypedQuery.Proofs.Schema.Language
import TypedQuery.Proofs.Schema.Reading
import TypedQuery.Proofs.Schema.WellFormed
import TypedQuery.Proofs.Table
import TypedQuery.Query.Builder
import TypedQuery.Query.Operand
import TypedQuery.Query.Request
import TypedQuery.Query.Selection
import TypedQuery.Response.Decoder
import TypedQuery.Response.Value
import TypedQuery.Response.Wrapper
import TypedQuery.Schema.Collector
import TypedQuery.Schema.Definition
import TypedQuery.Schema.Error
import TypedQuery.Schema.Model
import TypedQuery.Schema.Position
import TypedQuery.Schema.Sources
import TypedQuery.Schema.Token
import TypedQuery.Schema.Token.Block
import TypedQuery.Schema.Token.Lexer
import TypedQuery.Schema.TypeRef
import TypedQuery.Script.Grammar
import TypedQuery.Script.Literal
import TypedQuery.Script.Recognizer
import TypedQuery.Script.Token
import TypedQuery.Sorting
import TypedQuery.Table
import TypedQuery.Text.Base64
import TypedQuery.Text.Capital
import TypedQuery.Text.CaseRun
import TypedQuery.Text.CharacterName
import TypedQuery.Text.CodePage437
import TypedQuery.Text.Composed
import TypedQuery.Text.Digit
import TypedQuery.Text.Direction
import TypedQuery.Text.Encoding
import TypedQuery.Text.Letter
import TypedQuery.Text.NameTableA
import TypedQuery.Text.NameTableD
import TypedQuery.Text.NameTableL
import TypedQuery.Text.NameTableS
import TypedQuery.Text.Printable
import TypedQuery.Text.Quoted
import TypedQuery.Text.Range
import TypedQuery.Text.Similar
import TypedQuery.Text.Small
import TypedQuery.Text.Split
import TypedQuery.Text.Unified
import TypedQuery.Text.Utf8
import TypedQuery.Text.Whitespace
import TypedQuery.Transport.Auth
import TypedQuery.Transport.Envelope
import TypedQuery.Transport.Http
import TypedQuery.Transport.Session
import TypedQuery.Transport.Status
import TypedQuery.Url
import TypedQuery.Url.Address
import TypedQuery.Url.Domain
import TypedQuery.Url.Label
import TypedQuery.Url.LabelTable
import TypedQuery.Url.Percent
import TypedQuery.Url.Punycode
import TypedQuery.Proofs.Client.Reaching
import TypedQuery.Proofs.Query.Rendering
import TypedQuery.Proofs.Client.Distinct
import TypedQuery.Proofs.Client.Binding
import TypedQuery.Proofs.Client.Determined
import TypedQuery.Proofs.Schema.Splitting
import TypedQuery.Proofs.Client.Docstring
import TypedQuery.Proofs.Client.Validity
import TypedQuery.Proofs.Client.Tracing
import TypedQuery.Proofs.Client.Overwriting
import TypedQuery.Proofs.Response.Annotating
import TypedQuery.Proofs.Json.RoundTrip
import TypedQuery.Proofs.Transport.Sending
import TypedQuery.Proofs.Files.Refusing
import TypedQuery.Proofs.Cli.Settling
import TypedQuery.Proofs.Schema.Draft
import TypedQuery.Proofs.Schema.Reporting
import TypedQuery.Proofs.Schema.Blaming
import TypedQuery.Proofs.Schema.Keeping
import TypedQuery.Proofs.Client.Adding
import TypedQuery.Proofs.Schema.Notation
import TypedQuery.Proofs.Cli.Listing
import TypedQuery.Proofs.Cli.Preserving
import TypedQuery.Proofs.Schema.Tracking
import TypedQuery.Proofs.Text.Utf8
import TypedQuery.Proofs.Schema.Locating
import TypedQuery.Archive.Untar
