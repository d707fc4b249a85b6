import ScrollStory.Article.Basic
import ScrollStory.Article.CssLength
import ScrollStory.Article.Decode
import ScrollStory.Article.Encode
import ScrollStory.Article.Identifier
import ScrollStory.Article.Parse
import ScrollStory.Article.Validity
import ScrollStory.Artifact.Bundle
import ScrollStory.Artifact.Encode
import ScrollStory.Artifact.Kind
import ScrollStory.CommandLine.Arguments
import ScrollStory.CommandLine.Command
import ScrollStory.CommandLine.Report
import ScrollStory.CommandLine.Summary
import ScrollStory.Compiler
import ScrollStory.Css.Rule
import ScrollStory.Css.Stylesheet
import ScrollStory.Decimal.Basic
import ScrollStory.Decimal.Binary64
import ScrollStory.Decimal.Power
import ScrollStory.Decimal.Shortest
import ScrollStory.Error
import ScrollStory.Html.Document
import ScrollStory.Html.Escape
import ScrollStory.Html.Node
import ScrollStory.Json.Fault
import ScrollStory.Json.Number
import ScrollStory.Json.Reader
import ScrollStory.Json.Record
import ScrollStory.Json.Token
import ScrollStory.Json.Value
import ScrollStory.Json.Whole
import ScrollStory.Main
import ScrollStory.Note
import ScrollStory.Plan.Basic
import ScrollStory.Plan.Behavior
import ScrollStory.Plan.Compile
import ScrollStory.Plan.Encode
import ScrollStory.Plan.Grouping
import ScrollStory.Plan.Settings
import ScrollStory.Plan.Timing
import ScrollStory.Render.Settings
import ScrollStory.Script.Block
import ScrollStory.Script.Program
import ScrollStory.Storage.DirectoryStore
import ScrollStory.Storage.FileAccess
import ScrollStory.Storage.FileTree
import ScrollStory.Storage.MemoryStore
import ScrollStory.Storage.Path
import ScrollStory.Storage.Sink
import ScrollStory.Storage.Table
import ScrollStory.Text.Blank
import ScrollStory.Text.Digit
import ScrollStory.Text.Extending
import ScrollStory.Text.Invisible
import ScrollStory.Text.Pieces
import ScrollStory.Text.Quoted
import ScrollStory.Text.Utf8
import ScrollStory.Proofs.Decimal.Digits
import ScrollStory.Proofs.Decimal.Whole
import ScrollStory.Proofs.Decimal.Value
import ScrollStory.Proofs.Json.Lexemes
import ScrollStory.Proofs.Json.Scan
import ScrollStory.Proofs.Json.Reading
import ScrollStory.Proofs.Json.Whole
import ScrollStory.Proofs.Json.Skipped
import ScrollStory.Proofs.Json.Records
import ScrollStory.Proofs.Article.Decoded
import ScrollStory.Proofs.Article.Spelling
import ScrollStory.Proofs.Article.Valid
import ScrollStory.Proofs.Article.Stamp
import ScrollStory.Proofs.Article.WellFormed
import ScrollStory.Proofs.Article.RoundTrip
import ScrollStory.Proofs.Article.Convention
import ScrollStory.Proofs.Article.Spots
import ScrollStory.Proofs.Article.Warnings
import ScrollStory.Proofs.Article.Paths
import ScrollStory.Proofs.Plan.Steps
import ScrollStory.Proofs.Plan.Bindings
import ScrollStory.Proofs.Plan.Tiling
import ScrollStory.Proofs.Plan.Partition
import ScrollStory.Proofs.Plan.Elements
import ScrollStory.Proofs.Plan.Faults
import ScrollStory.Proofs.Plan.Lookup
import ScrollStory.Proofs.Plan.Distances
import ScrollStory.Proofs.Html.Ids
import ScrollStory.Proofs.Html.Tags
import ScrollStory.Proofs.Html.UniqueIds
import ScrollStory.Proofs.Html.Addresses
import ScrollStory.Proofs.Html.Classes
import ScrollStory.Proofs.Html.Markup
import ScrollStory.Proofs.Html.Entities
import ScrollStory.Proofs.Html.Untrusted
import ScrollStory.Proofs.Css.Lengths
import ScrollStory.Proofs.Css.FlatRules
import ScrollStory.Proofs.Css.Selectors
import ScrollStory.Proofs.Css.Coverage
import ScrollStory.Proofs.Css.Scroller
import ScrollStory.Proofs.Artifact.Stages
import ScrollStory.Proofs.Script.Balanced
import ScrollStory.Proofs.Script.WellFormed
import ScrollStory.Proofs.Storage.Operations
import ScrollStory.Proofs.Storage.Progress
import ScrollStory.Proofs.Storage.Swap
import ScrollStory.Proofs.Storage.Promotion
import ScrollStory.Proofs.Storage.Commit
import ScrollStory.Proofs.Storage.Orderly
import ScrollStory.Proofs.Storage.Storing
import ScrollStory.Proofs.Storage.Refinement
import ScrollStory.Proofs.Storage.Publication
import ScrollStory.Proofs.Storage.OneByOne
import ScrollStory.Proofs.Storage.Confined
import ScrollStory.Proofs.Storage.Images
import ScrollStory.Proofs.Article.FirstError
import ScrollStory.Proofs.Artifact.Membership
import ScrollStory.Proofs.Artifact.Reordered
import ScrollStory.Proofs.Script.Occurrences
import ScrollStory.Proofs.Script.Scroller
import ScrollStory.Proofs.Script.Quotations
import ScrollStory.Proofs.Artifact.Statistics
import ScrollStory.Proofs.Artifact.Scroller
import ScrollStory.Proofs.Artifact.Elements
import ScrollStory.Proofs.Artifact.Pictures
import ScrollStory.Proofs.Storage.References
import ScrollStory.Proofs.Html.Escaping
import ScrollStory.Proofs.Decimal.Rounding
import ScrollStory.Proofs.Decimal.Nearest
import ScrollStory.Proofs.Decimal.Texts
import ScrollStory.Proofs.Json.Decimals
import ScrollStory.Proofs.Json.RoundTrip
import ScrollStory.Proofs.Plan.Texts
import ScrollStory.Proofs.Script.Durations
