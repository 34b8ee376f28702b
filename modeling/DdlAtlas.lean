import DdlAtlas.Api.Reply
import DdlAtlas.Chat.Exchange
import DdlAtlas.Chat.Prompt
import DdlAtlas.Command.Run
import DdlAtlas.Files.Source
import DdlAtlas.Json.Reader
import DdlAtlas.Json.Writer
import DdlAtlas.Main
import DdlAtlas.Proofs.Api.Address
import DdlAtlas.Proofs.Api.Agreement
import DdlAtlas.Proofs.Api.Opening
import DdlAtlas.Proofs.Api.Outcome
import DdlAtlas.Proofs.Api.Turn
import DdlAtlas.Proofs.Body.Composition
import DdlAtlas.Proofs.Body.Constraints
import DdlAtlas.Proofs.Body.Lines
import DdlAtlas.Proofs.Body.LiteralDefault
import DdlAtlas.Proofs.Body.Recovery
import DdlAtlas.Proofs.Body.Spacing
import DdlAtlas.Proofs.Chat.Delta
import DdlAtlas.Proofs.Chat.Deltas
import DdlAtlas.Proofs.Chat.Refusal
import DdlAtlas.Proofs.Chat.Sending
import DdlAtlas.Proofs.Chat.Shape
import DdlAtlas.Proofs.Chat.Stream
import DdlAtlas.Proofs.Column.Cut
import DdlAtlas.Proofs.Column.Flags
import DdlAtlas.Proofs.Column.Line
import DdlAtlas.Proofs.Column.Literal
import DdlAtlas.Proofs.Column.Type
import DdlAtlas.Proofs.Column.Values
import DdlAtlas.Proofs.Column.Written
import DdlAtlas.Proofs.Command.Target
import DdlAtlas.Proofs.Comment.Blocks
import DdlAtlas.Proofs.Comment.Idempotence
import DdlAtlas.Proofs.Comment.Lines
import DdlAtlas.Proofs.Comment.Markers
import DdlAtlas.Proofs.Comment.Misreading
import DdlAtlas.Proofs.Comment.Reading
import DdlAtlas.Proofs.Document.Basic
import DdlAtlas.Proofs.Document.Declarations
import DdlAtlas.Proofs.Document.Policies
import DdlAtlas.Proofs.Document.Recovery
import DdlAtlas.Proofs.Document.Switches
import DdlAtlas.Proofs.Files.Confined
import DdlAtlas.Proofs.Files.Listing
import DdlAtlas.Proofs.Files.Name
import DdlAtlas.Proofs.Files.Tree
import DdlAtlas.Proofs.Json.Encoding
import DdlAtlas.Proofs.Json.Line
import DdlAtlas.Proofs.Json.Object
import DdlAtlas.Proofs.Nesting.Agreement
import DdlAtlas.Proofs.Nesting.Pieces
import DdlAtlas.Proofs.Nesting.Splitting
import DdlAtlas.Proofs.Paren.Code
import DdlAtlas.Proofs.Pattern.Barrier
import DdlAtlas.Proofs.Pattern.Captures
import DdlAtlas.Proofs.Pattern.Coverage
import DdlAtlas.Proofs.Pattern.Harvest
import DdlAtlas.Proofs.Pattern.Language
import DdlAtlas.Proofs.Pattern.Opener
import DdlAtlas.Proofs.Pattern.Places
import DdlAtlas.Proofs.Pattern.Reads
import DdlAtlas.Proofs.Pattern.Search
import DdlAtlas.Proofs.Policy.Clause
import DdlAtlas.Proofs.Policy.Command
import DdlAtlas.Proofs.Policy.Head
import DdlAtlas.Proofs.Policy.Listing
import DdlAtlas.Proofs.Policy.Predicates
import DdlAtlas.Proofs.Policy.Trailing
import DdlAtlas.Proofs.Policy.Using
import DdlAtlas.Proofs.Prose.Catalogue
import DdlAtlas.Proofs.Prose.Comparison
import DdlAtlas.Proofs.Prose.Ownership
import DdlAtlas.Proofs.Prose.TwoSided
import DdlAtlas.Proofs.Schema.Attachment
import DdlAtlas.Proofs.Schema.Commands
import DdlAtlas.Proofs.Schema.KeyReport
import DdlAtlas.Proofs.Schema.Layout
import DdlAtlas.Proofs.Schema.Parsed
import DdlAtlas.Proofs.Schema.Security
import DdlAtlas.Proofs.Schema.Typed
import DdlAtlas.Proofs.Settings.Stable
import DdlAtlas.Proofs.Table.Declared
import DdlAtlas.Proofs.Table.Keys
import DdlAtlas.Proofs.Table.Location
import DdlAtlas.Proofs.Table.References
import DdlAtlas.Proofs.Text.Collapse
import DdlAtlas.Proofs.Text.Letters
import DdlAtlas.Proofs.Text.LineBuffer
import DdlAtlas.Proofs.Text.Phrase
import DdlAtlas.Proofs.Text.Words
import DdlAtlas.Schema.Assembly
import DdlAtlas.Schema.Context
import DdlAtlas.Schema.Record
import DdlAtlas.Settings.File
import DdlAtlas.Text.Quoted
import DdlAtlas.Text.Utf8
import DdlAtlas.Yaml.Node.Reader
