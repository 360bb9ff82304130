import ApiAtlas.Text.CharRange
import ApiAtlas.Text.Blank
import ApiAtlas.Text.Word
import ApiAtlas.Text.Digit
import ApiAtlas.Text.Casing
import ApiAtlas.Text.Lowercase
import ApiAtlas.Text.Lines
import ApiAtlas.Text.Find
import ApiAtlas.Text.Scan
import ApiAtlas.Text.Group
import ApiAtlas.Record
import ApiAtlas.Header.Block
import ApiAtlas.Header.Tag
import ApiAtlas.Header.Signature
import ApiAtlas.Header.Item
import ApiAtlas.Header.Reader
import ApiAtlas.Text.Quoted
import ApiAtlas.Json.Decimal
import ApiAtlas.Json.Basic
import ApiAtlas.Json.Writer
import ApiAtlas.Json.Reader
import ApiAtlas.Record.Codec
import ApiAtlas.Names
import ApiAtlas.Guide.Link
import ApiAtlas.Guide.Section
import ApiAtlas.Guide.ReadingOrder
import ApiAtlas.Guide.Category
import ApiAtlas.Guide.Reader
import ApiAtlas.StableSort
import ApiAtlas.Catalog.Slots
import ApiAtlas.Catalog.ReferenceGraph
import ApiAtlas.Catalog.Basic
import ApiAtlas.Search.Keyword
import ApiAtlas.Search.Score
import ApiAtlas.Search.Query
import ApiAtlas.Guide.Refine
import ApiAtlas.Lookup.Related
import ApiAtlas.Lookup.TypeUsage
import ApiAtlas.Lookup.MemberMatch
import ApiAtlas.Render.SourceLinks
import ApiAtlas.Render.Line
import ApiAtlas.Render.Detail
import ApiAtlas.Catalog.Report
import ApiAtlas.Request.Error
import ApiAtlas.Request.Form
import ApiAtlas.Request.Schema
import ApiAtlas.Tool.Basic
import ApiAtlas.Tool.Listing
import ApiAtlas.Tool.Answer
import ApiAtlas.Server.Reply
import ApiAtlas.Files.Path
import ApiAtlas.Files.Tree
import ApiAtlas.Files.Archive
import ApiAtlas.Ingest.Directory
import ApiAtlas.Ingest.Source
import ApiAtlas.CommandLine.Option
import ApiAtlas.CommandLine.Reader
import ApiAtlas.Server.Message
import ApiAtlas.Server.Session
import ApiAtlas.Program.Basic
import ApiAtlas.Main
import ApiAtlas.Proofs.Catalog.Slots
import ApiAtlas.Proofs.Catalog.Ledger
import ApiAtlas.Proofs.Names
import ApiAtlas.Proofs.Catalog.Graph
import ApiAtlas.Proofs.Catalog.Coherence
import ApiAtlas.Proofs.Text.ByteOrder
import ApiAtlas.Proofs.Catalog.Refinement
import ApiAtlas.Proofs.Catalog.References
import ApiAtlas.Proofs.Search.Ranking
import ApiAtlas.Proofs.Header.Writer
import ApiAtlas.Proofs.Text.Trim
import ApiAtlas.Proofs.Header.Comment
import ApiAtlas.Proofs.Header.Fields
import ApiAtlas.Proofs.Header.Signature
import ApiAtlas.Proofs.Text.Scan
import ApiAtlas.Proofs.Header.Item
import ApiAtlas.Proofs.Header.Block
import ApiAtlas.Proofs.Header.RoundTrip
import ApiAtlas.Proofs.Header.Seam
import ApiAtlas.Proofs.Files.Tree
import ApiAtlas.Proofs.Files.Path
import ApiAtlas.Proofs.Files.Extraction
import ApiAtlas.Proofs.Files.Confinement
import ApiAtlas.Proofs.Files.Interruption
import ApiAtlas.Proofs.Files.Listing
import ApiAtlas.Proofs.Ingest.Guides
import ApiAtlas.Proofs.Ingest.Contents
import ApiAtlas.Proofs.Search.Keywords
import ApiAtlas.Proofs.Search.Scoring
import ApiAtlas.Proofs.Ingest.Publication
import ApiAtlas.Proofs.Record.Codec
import ApiAtlas.Proofs.Search.CopiedText
import ApiAtlas.Proofs.Search.NameTier
import ApiAtlas.Proofs.Search.Coverage
import ApiAtlas.Proofs.Tool.CategoryListing
import ApiAtlas.Proofs.Lookup.Related
import ApiAtlas.Proofs.Ingest.Built
import ApiAtlas.Proofs.Guide.Links
import ApiAtlas.Proofs.Ingest.Classification
import ApiAtlas.Proofs.Guide.ReadingOrder
import ApiAtlas.Proofs.Tool.TopicListing
import ApiAtlas.Proofs.Guide.Sections
import ApiAtlas.Proofs.Guide.Brief
import ApiAtlas.Proofs.Text.Squeeze
import ApiAtlas.Proofs.Header.Macros
import ApiAtlas.Proofs.Header.NormalForm
import ApiAtlas.Proofs.Header.DeclarationEnd
import ApiAtlas.Proofs.Text.Parentheses
import ApiAtlas.Proofs.Lookup.TypeUsage
import ApiAtlas.Proofs.Header.EntryValue
import ApiAtlas.Proofs.Header.CommentSpan
import ApiAtlas.Proofs.Catalog.GraphHistory
import ApiAtlas.Proofs.Header.FieldLines
import ApiAtlas.Proofs.Header.LineEndings
import ApiAtlas.Proofs.Render.ShownLines
import ApiAtlas.Proofs.Render.Table
import ApiAtlas.Proofs.Tool.SummaryLines
