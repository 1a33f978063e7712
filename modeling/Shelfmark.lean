import Shelfmark.CallNumber.Dewey
import Shelfmark.CallNumber.Lc
import Shelfmark.CallNumber.Lc.Shape
import Shelfmark.CallNumber.Scheme
import Shelfmark.CallNumberSet
import Shelfmark.Character.Blank
import Shelfmark.Character.Case
import Shelfmark.Character.Latin
import Shelfmark.Character.Letter
import Shelfmark.Character.Range
import Shelfmark.Character.Visible
import Shelfmark.Cluster.Basic
import Shelfmark.Cluster.Best
import Shelfmark.Cluster.Summary
import Shelfmark.CommandLine.Arguments
import Shelfmark.CommandLine.Run
import Shelfmark.Document.Content
import Shelfmark.Document.Json.Reader
import Shelfmark.Document.Json.Writer
import Shelfmark.Document.Node
import Shelfmark.Document.Yaml.Reader
import Shelfmark.Document.Yaml.Scalar
import Shelfmark.Document.Yaml.Source
import Shelfmark.Document.Yaml.Token
import Shelfmark.Entry
import Shelfmark.Facet.Dewey
import Shelfmark.Label.Class
import Shelfmark.Label.Display
import Shelfmark.Main
import Shelfmark.NaturalOrder
import Shelfmark.Number.Binary64
import Shelfmark.Number.FixedPoint
import Shelfmark.Number.Numeral
import Shelfmark.Number.Rounding
import Shelfmark.Number.Shortest
import Shelfmark.Options
import Shelfmark.Proofs.CallNumber.ClassShape
import Shelfmark.Proofs.CallNumber.Dewey
import Shelfmark.Proofs.CallNumber.Dewey.Segments
import Shelfmark.Proofs.CallNumber.Dewey.Spacing
import Shelfmark.Proofs.CallNumber.Lc.Disjoint
import Shelfmark.Proofs.CallNumber.Lc.Ends
import Shelfmark.Proofs.CallNumber.Lc.FirstCutter
import Shelfmark.Proofs.CallNumber.Lc.Lossless
import Shelfmark.Proofs.CallNumber.Lc.Opening
import Shelfmark.Proofs.CallNumber.Lc.Printed
import Shelfmark.Proofs.CallNumber.Lc.Reading
import Shelfmark.Proofs.CallNumber.Lc.Shape
import Shelfmark.Proofs.CallNumber.Lc.Signs
import Shelfmark.Proofs.CallNumber.Lc.Spacing
import Shelfmark.Proofs.CallNumber.Lc.Spelled
import Shelfmark.Proofs.CallNumber.Lc.Written
import Shelfmark.Proofs.CallNumber.Scheme
import Shelfmark.Proofs.CallNumberSet.Best
import Shelfmark.Proofs.CallNumberSet.Gathering
import Shelfmark.Proofs.CallNumberSet.Holdings
import Shelfmark.Proofs.CallNumberSet.Listing
import Shelfmark.Proofs.CallNumberSet.NormalForm
import Shelfmark.Proofs.CallNumberSet.Recognition
import Shelfmark.Proofs.Character.Blank
import Shelfmark.Proofs.Character.Case
import Shelfmark.Proofs.Character.Letter
import Shelfmark.Proofs.Character.Upper
import Shelfmark.Proofs.Cluster.Alike
import Shelfmark.Proofs.Cluster.Best
import Shelfmark.Proofs.Cluster.CommonBeginning
import Shelfmark.Proofs.Cluster.Distinct
import Shelfmark.Proofs.Cluster.Grouping
import Shelfmark.Proofs.Cluster.Growth
import Shelfmark.Proofs.Cluster.Leaders
import Shelfmark.Proofs.Cluster.LongestBeginning
import Shelfmark.Proofs.Cluster.Optimal
import Shelfmark.Proofs.Cluster.Refinement
import Shelfmark.Proofs.Cluster.Reordering
import Shelfmark.Proofs.Cluster.Summary
import Shelfmark.Proofs.CommandLine.Arguments
import Shelfmark.Proofs.CommandLine.Output
import Shelfmark.Proofs.Entry.Cleaning
import Shelfmark.Proofs.Entry.NormalForm
import Shelfmark.Proofs.Entry.Recognition
import Shelfmark.Proofs.Entry.Respacing
import Shelfmark.Proofs.Entry.Spacing
import Shelfmark.Proofs.Entry.Spelling
import Shelfmark.Proofs.Entry.Written
import Shelfmark.Proofs.Facet.Dewey
import Shelfmark.Proofs.Facet.Multiples
import Shelfmark.Proofs.Label.Class
import Shelfmark.Proofs.NaturalOrder
import Shelfmark.Proofs.NaturalOrder.Context
import Shelfmark.Proofs.NaturalOrder.Sorting
import Shelfmark.Proofs.NaturalOrder.Value
import Shelfmark.Proofs.Number.Arithmetic
import Shelfmark.Proofs.Number.Binary64
import Shelfmark.Proofs.Number.Digits
import Shelfmark.Proofs.Number.Monotone
import Shelfmark.Proofs.Number.Nearest
import Shelfmark.Proofs.Number.Numeral
import Shelfmark.Proofs.Number.Rounding
import Shelfmark.Proofs.Number.Shortest
import Shelfmark.Proofs.Number.Whole
import Shelfmark.Proofs.Record.Once
import Shelfmark.Proofs.Record.Reading
import Shelfmark.Proofs.Record.Splitting
import Shelfmark.Proofs.Region.Brackets
import Shelfmark.Proofs.Region.Chain
import Shelfmark.Proofs.Region.Facet
import Shelfmark.Proofs.Region.Heading
import Shelfmark.Proofs.Region.Joining
import Shelfmark.Proofs.Region.Listed
import Shelfmark.Proofs.Region.Name
import Shelfmark.Proofs.Region.Qualifier
import Shelfmark.Proofs.ShelfKey.Browsing
import Shelfmark.Proofs.ShelfKey.Component
import Shelfmark.Proofs.ShelfKey.CutterOrder
import Shelfmark.Proofs.ShelfKey.DeweyOrder
import Shelfmark.Proofs.ShelfKey.Idempotence
import Shelfmark.Proofs.ShelfKey.Identity
import Shelfmark.Proofs.ShelfKey.Inversion
import Shelfmark.Proofs.ShelfKey.NumericOrder
import Shelfmark.Proofs.ShelfKey.Opening
import Shelfmark.Proofs.ShelfKey.Place
import Shelfmark.Proofs.ShelfKey.Reverse
import Shelfmark.Proofs.ShelfKey.ShelfOrder
import Shelfmark.Proofs.ShelfKey.Spelling
import Shelfmark.Proofs.ShelfKey.Suffix
import Shelfmark.Proofs.ShelfKey.SuffixOrder
import Shelfmark.Proofs.Text.Bytes
import Shelfmark.Proofs.Text.Order
import Shelfmark.Proofs.Text.Runs
import Shelfmark.Proofs.Text.Separator
import Shelfmark.Proofs.Text.Span
import Shelfmark.Proofs.Text.Trim
import Shelfmark.Record
import Shelfmark.Region.Chain
import Shelfmark.Region.Facet
import Shelfmark.Region.Heading
import Shelfmark.Region.Name
import Shelfmark.Region.Place
import Shelfmark.Report
import Shelfmark.ShelfKey.Basic
import Shelfmark.ShelfKey.Component
import Shelfmark.ShelfKey.Reverse
import Shelfmark.Text.Basic
import Shelfmark.Text.Quoted
import Shelfmark.Text.Span
