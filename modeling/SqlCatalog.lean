import SqlCatalog.Error.Stated
import SqlCatalog.Main
import SqlCatalog.Reader.Method
import SqlCatalog.Proofs.Text.LetterCase
import SqlCatalog.Proofs.Gate.Emptying
import SqlCatalog.Proofs.Gate.Squeezing
import SqlCatalog.Proofs.Gate.Words
import SqlCatalog.Proofs.Gate.LiveText
import SqlCatalog.Proofs.Gate.Soundness
import SqlCatalog.Proofs.Gate.EscapedReading
import SqlCatalog.Proofs.Gate.LiteralContent
import SqlCatalog.Proofs.Gate.Uncommented
import SqlCatalog.Proofs.Gate.NormalForm
import SqlCatalog.Proofs.Cache.Key
import SqlCatalog.Proofs.Session.Keeping
import SqlCatalog.Proofs.Session.Source
import SqlCatalog.Proofs.Cache.Warm
import SqlCatalog.Proofs.Cache.Recency
import SqlCatalog.Proofs.Cache.Transparency
import SqlCatalog.Proofs.Query.Reading
import SqlCatalog.Proofs.Query.Markers
import SqlCatalog.Proofs.Query.Lockstep
import SqlCatalog.Proofs.Query.Template
import SqlCatalog.Proofs.Query.Texts.Listing
import SqlCatalog.Proofs.Query.Texts.Lookup
import SqlCatalog.Proofs.Query.Catalogue
import SqlCatalog.Proofs.Query.Listing
import SqlCatalog.Proofs.Query.Search
import SqlCatalog.Proofs.Query.Clause
import SqlCatalog.Proofs.Query.Rows
import SqlCatalog.Proofs.Query.Agreement
import SqlCatalog.Proofs.Session.Failures
import SqlCatalog.Proofs.Session.History
import SqlCatalog.Proofs.Session.Reconfiguring
import SqlCatalog.Proofs.Query.ClauseReading
import SqlCatalog.Proofs.Query.Shape
import SqlCatalog.Proofs.Session.Cursors
import SqlCatalog.Proofs.Session.Ownership
import SqlCatalog.Proofs.Settings.Refusals
import SqlCatalog.Proofs.Settings.Secrecy
import SqlCatalog.Proofs.Session.Questions
import SqlCatalog.Proofs.Session.Learning
import SqlCatalog.Proofs.Query.ChosenColumns
import SqlCatalog.Proofs.Query.Patterns
import SqlCatalog.Proofs.Query.DeclaredParameters
import SqlCatalog.Proofs.Query.ProcedureCalls
import SqlCatalog.Proofs.Query.ExecNames
import SqlCatalog.Proofs.Gate.Separators
import SqlCatalog.Proofs.Gate.Disguises
import SqlCatalog.Proofs.Query.PieceReading
import SqlCatalog.Proofs.Query.SelectedRows
import SqlCatalog.Proofs.Query.SelectionReading
import SqlCatalog.Proofs.Session.Settling
import SqlCatalog.Proofs.Pages.Tiling
import SqlCatalog.Proofs.Pages.Requests
import SqlCatalog.Proofs.Session.PageOfRows
import SqlCatalog.Proofs.Session.FreeQueries
import SqlCatalog.Proofs.Pages.ListingWindow
import SqlCatalog.Proofs.Session.SchemaMemory
import SqlCatalog.Proofs.Pages.Following
import SqlCatalog.Proofs.Settings.Precedence
import SqlCatalog.Proofs.Catalog.ForeignKeys
import SqlCatalog.Proofs.Catalog.Indexes
import SqlCatalog.Proofs.CommandLine.DefaultSchema
import SqlCatalog.Proofs.Gate.BalancedParentheses
import SqlCatalog.Proofs.Gate.QuotedText
import SqlCatalog.Proofs.Catalog.Columns
import SqlCatalog.Proofs.Session.TableStructure
import SqlCatalog.Proofs.Catalog.PrimaryKey
import SqlCatalog.Proofs.Catalog.ShownRows
