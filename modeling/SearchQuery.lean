import SearchQuery.Calendar.Date
import SearchQuery.Calendar.Expression
import SearchQuery.Calendar.Iso
import SearchQuery.Calendar.Period
import SearchQuery.Calendar.Written
import SearchQuery.CommandLine.Options
import SearchQuery.CommandLine.Session
import SearchQuery.Filter.Chain
import SearchQuery.Filter.Column
import SearchQuery.Filter.Condition
import SearchQuery.Filter.Literal
import SearchQuery.Json
import SearchQuery.Main
import SearchQuery.Search.Basic
import SearchQuery.Search.ChainRule
import SearchQuery.Search.Compile
import SearchQuery.Search.DateRule
import SearchQuery.Search.Pattern
import SearchQuery.Search.Prepared
import SearchQuery.Search.Rule
import SearchQuery.Stock
import SearchQuery.Text.Basic
import SearchQuery.Text.Blank
import SearchQuery.Text.CharTable
import SearchQuery.Text.Decimal
import SearchQuery.Text.DecimalDigit
import SearchQuery.Text.Extending
import SearchQuery.Text.Invisible
import SearchQuery.Text.Quoted
import SearchQuery.Text.Record
import SearchQuery.Token.Basic
import SearchQuery.Token.Cursor
import SearchQuery.Token.Cut
import SearchQuery.Token.Label
import SearchQuery.Proofs.Calendar.Date
import SearchQuery.Proofs.Calendar.Expression
import SearchQuery.Proofs.Calendar.Inference
import SearchQuery.Proofs.Calendar.Iso
import SearchQuery.Proofs.Calendar.Packed
import SearchQuery.Proofs.Calendar.Period
import SearchQuery.Proofs.Calendar.Range
import SearchQuery.Proofs.Calendar.Written
import SearchQuery.Proofs.CommandLine.Options
import SearchQuery.Proofs.CommandLine.Session
import SearchQuery.Proofs.Filter.Growth
import SearchQuery.Proofs.Filter.Joins
import SearchQuery.Proofs.Filter.Json
import SearchQuery.Proofs.Filter.Lines
import SearchQuery.Proofs.Filter.Literal
import SearchQuery.Proofs.Json
import SearchQuery.Proofs.Search.Additions
import SearchQuery.Proofs.Search.Coverage
import SearchQuery.Proofs.Search.DateRange
import SearchQuery.Proofs.Search.DateRule
import SearchQuery.Proofs.Search.Exclusion
import SearchQuery.Proofs.Search.Fold
import SearchQuery.Proofs.Search.Lenient
import SearchQuery.Proofs.Search.Phrases
import SearchQuery.Proofs.Search.Prepared
import SearchQuery.Proofs.Search.Registration
import SearchQuery.Proofs.Search.Respaced
import SearchQuery.Proofs.Search.Seam
import SearchQuery.Proofs.Search.Spacing
import SearchQuery.Proofs.Search.Story
import SearchQuery.Proofs.Search.Turn
import SearchQuery.Proofs.Search.Unclaimed
import SearchQuery.Proofs.Search.Written
import SearchQuery.Proofs.Stock.Due
import SearchQuery.Proofs.Stock.Growth
import SearchQuery.Proofs.Stock.Jobs
import SearchQuery.Proofs.Stock.Joins
import SearchQuery.Proofs.Stock.Lines
import SearchQuery.Proofs.Stock.Respaced
import SearchQuery.Proofs.Text.Blank
import SearchQuery.Proofs.Text.Decimal
import SearchQuery.Proofs.Text.Gaps
import SearchQuery.Proofs.Text.Words
import SearchQuery.Proofs.Token.Alone
import SearchQuery.Proofs.Token.Count
import SearchQuery.Proofs.Token.Cut
import SearchQuery.Proofs.Token.Gaps
import SearchQuery.Proofs.Token.Grammar
import SearchQuery.Proofs.Token.Moves
import SearchQuery.Proofs.Token.Parts
import SearchQuery.Proofs.Token.Ranges
import SearchQuery.Proofs.Token.Recut
import SearchQuery.Proofs.Token.Scan
import SearchQuery.Proofs.Token.Writing
