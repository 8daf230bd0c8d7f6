import PhotoCatalog.Main
import PhotoCatalog.Proofs.Outcome
import PhotoCatalog.Proofs.Text.Case
import PhotoCatalog.Proofs.Pattern.Matching
import PhotoCatalog.Proofs.Pattern.Agreement
import PhotoCatalog.Proofs.Catalog.Holds
import PhotoCatalog.Proofs.Catalog.PathOrder
import PhotoCatalog.Proofs.Catalog.Selection
import PhotoCatalog.Proofs.Query.Facets
import PhotoCatalog.Proofs.Query.TokenMeaning
import PhotoCatalog.Proofs.Query.TokenAgreement
import PhotoCatalog.Proofs.Search.Verdict
import PhotoCatalog.Proofs.Search.Fresh
import PhotoCatalog.Proofs.Search.Facets
import PhotoCatalog.Proofs.Search.Turn
import PhotoCatalog.Proofs.Search.Sharing
import PhotoCatalog.Proofs.Search.Alone
import PhotoCatalog.Proofs.Query.Form
import PhotoCatalog.Proofs.Query.Shape
import PhotoCatalog.Proofs.Sql.Token
import PhotoCatalog.Proofs.Sql.Grammar
import PhotoCatalog.Proofs.Sql.Written
import PhotoCatalog.Proofs.Sql.Meaning
import PhotoCatalog.Proofs.Query.Values
import PhotoCatalog.Proofs.Query.Writes
import PhotoCatalog.Proofs.Query.Truth
import PhotoCatalog.Proofs.Query.Spelled
import PhotoCatalog.Proofs.Query.Rendered
import PhotoCatalog.Proofs.Number.Wide
import PhotoCatalog.Proofs.Number.Stored
import PhotoCatalog.Proofs.Json.Number
import PhotoCatalog.Proofs.Json.Pieces
import PhotoCatalog.Proofs.Json.Stored
import PhotoCatalog.Proofs.Json.RoundTrip
import PhotoCatalog.Proofs.Record.Parts
import PhotoCatalog.Proofs.Record.RoundTrip
import PhotoCatalog.Proofs.Catalog.Accepted
import PhotoCatalog.Proofs.Catalog.Documents
import PhotoCatalog.Proofs.Catalog.ResultRow
import PhotoCatalog.Proofs.Record.Detections
import PhotoCatalog.Proofs.Query.ChildTables
import PhotoCatalog.Proofs.Search.Kept
import PhotoCatalog.Proofs.Search.OneTable
import PhotoCatalog.Proofs.Search.Detections
import PhotoCatalog.Proofs.Search.Scenes
import PhotoCatalog.Proofs.Search.Repeat
import PhotoCatalog.Proofs.Search.Failed
import PhotoCatalog.Proofs.Search.Append
import PhotoCatalog.Proofs.Text.Utf8
import PhotoCatalog.Proofs.Json.Plain
import PhotoCatalog.Proofs.Command.Carried
import PhotoCatalog.Proofs.Number.Limits
import PhotoCatalog.Proofs.Value.Bounded
import PhotoCatalog.Proofs.Json.Bounded
import PhotoCatalog.Proofs.Record.Findings
import PhotoCatalog.Proofs.Record.Bounded
import PhotoCatalog.Proofs.Command.Append
import PhotoCatalog.Proofs.Record.Stored
import PhotoCatalog.Proofs.Json.Faults
import PhotoCatalog.Proofs.Value.Fits
import PhotoCatalog.Proofs.Record.Faults
import PhotoCatalog.Proofs.Pattern.Translation
import PhotoCatalog.Proofs.Number.Order
import PhotoCatalog.Proofs.Number.Amount
import PhotoCatalog.Proofs.Record.Tally
import PhotoCatalog.Proofs.Record.Threshold
import PhotoCatalog.Proofs.Record.Restricted
import PhotoCatalog.Proofs.Search.Threshold
import PhotoCatalog.Proofs.Text.Padded
import PhotoCatalog.Proofs.Calendar.Days
import PhotoCatalog.Proofs.Calendar.Written
import PhotoCatalog.Proofs.Query.DateRange
import PhotoCatalog.Proofs.Query.DayAndMoment
import PhotoCatalog.Proofs.Geo.Sphere
import PhotoCatalog.Proofs.Geo.Circle
import PhotoCatalog.Proofs.Geo.Exact
import PhotoCatalog.Proofs.Geo.Boxes
import PhotoCatalog.Proofs.Geo.Antimeridian
import PhotoCatalog.Proofs.Criteria.WellFormed
import PhotoCatalog.Proofs.Search.Continued
import PhotoCatalog.Proofs.Text.Lower
import PhotoCatalog.Proofs.Value.Keys
import PhotoCatalog.Proofs.Record.Slot
import PhotoCatalog.Proofs.Record.Alike
import PhotoCatalog.Proofs.Record.Mended
import PhotoCatalog.Proofs.Record.Respelled
import PhotoCatalog.Proofs.Query.Trees
import PhotoCatalog.Proofs.Query.Renumbered
import PhotoCatalog.Proofs.Query.ByFacet
import PhotoCatalog.Proofs.Query.PathToken
import PhotoCatalog.Proofs.Query.NumericRange
import PhotoCatalog.Proofs.Number.Rounding
import PhotoCatalog.Proofs.Number.Arithmetic
import PhotoCatalog.Proofs.Geo.Defined
import PhotoCatalog.Proofs.Query.Failing
import PhotoCatalog.Proofs.Command.Compiled
import PhotoCatalog.Proofs.Address.Escaped
import PhotoCatalog.Proofs.Image.Embedding
import PhotoCatalog.Proofs.Sql.Placeholders
import PhotoCatalog.Proofs.Sql.PatternTests
import PhotoCatalog.Proofs.Query.Placeholders
import PhotoCatalog.Proofs.Query.FullScan
