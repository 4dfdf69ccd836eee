import FilterQuery.Binary64.Basic
import FilterQuery.Binary64.Decimal
import FilterQuery.Binary64.Shortest
import FilterQuery.Binary64.Text
import FilterQuery.Date.Basic
import FilterQuery.Date.Layout
import FilterQuery.Date.Rfc3339
import FilterQuery.Date.Scan
import FilterQuery.Emit.Document
import FilterQuery.Emit.Error
import FilterQuery.Emit.Mask
import FilterQuery.Json.Basic
import FilterQuery.Json.Reader
import FilterQuery.Json.Writer
import FilterQuery.Query.Basic
import FilterQuery.Query.Build
import FilterQuery.Query.Clause
import FilterQuery.Query.Error
import FilterQuery.Query.Guard
import FilterQuery.Query.Literal
import FilterQuery.Query.Predicate
import FilterQuery.Query.Render
import FilterQuery.Query.Split
import FilterQuery.Query.Token
import FilterQuery.Regex.CharSet
import FilterQuery.Regex.Escape
import FilterQuery.Regex.Node
import FilterQuery.Regex.Parse
import FilterQuery.Regex.Property
import FilterQuery.Settings.Basic
import FilterQuery.Settings.Decode
import FilterQuery.Settings.Merge
import FilterQuery.Settings.Render
import FilterQuery.Settings.Template
import FilterQuery.Table.Basic
import FilterQuery.Table.Cell
import FilterQuery.Text.Age
import FilterQuery.Text.Basic
import FilterQuery.Text.Binary
import FilterQuery.Text.Break
import FilterQuery.Text.CaseFold
import FilterQuery.Text.Category
import FilterQuery.Text.Debug
import FilterQuery.Text.Property
import FilterQuery.Text.RangeTable
import FilterQuery.Text.Script
import FilterQuery.Toml.Document
import FilterQuery.Toml.Lexical
import FilterQuery.Toml.Scalar
import FilterQuery.Toml.Value
import FilterQuery.Proofs.MarkerSearch
import FilterQuery.Proofs.GuardSpans
import FilterQuery.Proofs.GuardRoundTrip
import FilterQuery.Proofs.Symbols
import FilterQuery.Proofs.SplitSymbols
import FilterQuery.Proofs.TokenSymbols
import FilterQuery.Proofs.LiteralHole
import FilterQuery.Proofs.SwappedSpan
import FilterQuery.Proofs.SwappedClause
import FilterQuery.Proofs.QuoteOpacity
import FilterQuery.Proofs.Valuation
import FilterQuery.Proofs.LeftFold
import FilterQuery.Proofs.RowMask
import FilterQuery.Proofs.Spacing
import FilterQuery.Proofs.RespacedSplit
import FilterQuery.Proofs.RespacedParse
import FilterQuery.Proofs.ErrorFragments
import FilterQuery.Proofs.Binary64Value
import FilterQuery.Proofs.NumberOrder
import FilterQuery.Proofs.RegexMatch
import FilterQuery.Proofs.LikePattern
import FilterQuery.Proofs.SplitText
import FilterQuery.Proofs.MaskChecks
import FilterQuery.Proofs.NormalForm
import FilterQuery.Proofs.ClauseGrammar
import FilterQuery.Proofs.TableRows
import FilterQuery.Proofs.StableClauses
import FilterQuery.Proofs.Calendar
import FilterQuery.Proofs.DateRoundTrip
import FilterQuery.Proofs.SpanShapes
import FilterQuery.Proofs.FieldOrder
import FilterQuery.Proofs.SettingsPrecedence
import FilterQuery.Proofs.NestingDepth
import FilterQuery.Proofs.Utf8Order
import FilterQuery.Proofs.DocumentStore
import FilterQuery.Proofs.MaskDocument
import FilterQuery.Proofs.CorrectRounding
import FilterQuery.Proofs.ShortestDigits
import FilterQuery.Proofs.FloatText
import FilterQuery.Proofs.DateLiteral
import FilterQuery.Proofs.WrittenLiterals
import FilterQuery.Proofs.GuardedRendering
import FilterQuery.Proofs.RenderedSplit
import FilterQuery.Proofs.RenderedClauses
import FilterQuery.Proofs.RenderRoundTrip
