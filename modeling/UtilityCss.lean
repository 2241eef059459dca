import UtilityCss.Class.Arbitrary
import UtilityCss.Class.Chain
import UtilityCss.Class.Group
import UtilityCss.Class.Natural
import UtilityCss.Class.Order
import UtilityCss.Conversion.Basic
import UtilityCss.Conversion.Rule
import UtilityCss.Conversion.Sheet
import UtilityCss.Css.Box
import UtilityCss.Css.Color
import UtilityCss.Css.Declaration
import UtilityCss.Css.Quantity
import UtilityCss.Css.Value
import UtilityCss.Data
import UtilityCss.Entries
import UtilityCss.Error
import UtilityCss.Number.Binary64
import UtilityCss.Number.Decimal
import UtilityCss.Number.Places
import UtilityCss.Number.Shortest
import UtilityCss.Property.Border
import UtilityCss.Property.Depth
import UtilityCss.Property.Keyword
import UtilityCss.Property.Match
import UtilityCss.Property.Paint
import UtilityCss.Property.Registry
import UtilityCss.Property.Spacing
import UtilityCss.Property.Typography
import UtilityCss.Report.Category
import UtilityCss.Report.Columns
import UtilityCss.Report.Comparison
import UtilityCss.Report.Coverage
import UtilityCss.Report.Summary
import UtilityCss.Report.Warning
import UtilityCss.Resolve.Cache
import UtilityCss.Resolve.Nearest
import UtilityCss.Resolve.Profile
import UtilityCss.Resolve.Search
import UtilityCss.Resolve.Session
import UtilityCss.Resolve.Verdict
import UtilityCss.Settings.Basic
import UtilityCss.Settings.Issue
import UtilityCss.Settings.Load
import UtilityCss.Settings.Location
import UtilityCss.Settings.Numeral
import UtilityCss.Settings.Read
import UtilityCss.Text.Blank
import UtilityCss.Text.CaseTable
import UtilityCss.Text.Digit
import UtilityCss.Text.Lowercase
import UtilityCss.Text.Printable
import UtilityCss.Text.Quoted
import UtilityCss.Text.Search
import UtilityCss.Text.Split
import UtilityCss.Theme.Context
import UtilityCss.Theme.Layer
import UtilityCss.Theme.Scale
import UtilityCss.Theme.Standard
import UtilityCss.Yaml.Directive
import UtilityCss.Yaml.Document
import UtilityCss.Yaml.Mark
import UtilityCss.Yaml.Node
import UtilityCss.Yaml.Place
import UtilityCss.Yaml.Plain
import UtilityCss.Yaml.Quoted
import UtilityCss.Yaml.Refusal
import UtilityCss.Yaml.Value
import UtilityCss.Proofs.Class.Chain
import UtilityCss.Proofs.Class.Levels
import UtilityCss.Proofs.Class.Natural
import UtilityCss.Proofs.Class.Order
import UtilityCss.Proofs.Class.Sorting
import UtilityCss.Proofs.Conversion.Assembly
import UtilityCss.Proofs.Conversion.Categories
import UtilityCss.Proofs.Conversion.Outcome
import UtilityCss.Proofs.Conversion.Policy
import UtilityCss.Proofs.Conversion.Reordering
import UtilityCss.Proofs.Conversion.Sheet
import UtilityCss.Proofs.Counting
import UtilityCss.Proofs.Css.Canonical
import UtilityCss.Proofs.Distinct
import UtilityCss.Proofs.Entries
import UtilityCss.Proofs.Number.Rounding
import UtilityCss.Proofs.Property.Count
import UtilityCss.Proofs.Property.Families
import UtilityCss.Proofs.Property.Making
import UtilityCss.Proofs.Property.Verdicts
import UtilityCss.Proofs.Report.Category
import UtilityCss.Proofs.Report.Comparison
import UtilityCss.Proofs.Report.Coverage
import UtilityCss.Proofs.Report.Warning
import UtilityCss.Proofs.Resolve.Agreement
import UtilityCss.Proofs.Resolve.Table
import UtilityCss.Proofs.Text.Pieces
import UtilityCss.Proofs.Text.Stretch
import UtilityCss.Proofs.Text.Trimmed
import UtilityCss.Proofs.Text.Written
import UtilityCss.Proofs.Traversal
import UtilityCss.Proofs.Resolve.Decision
import UtilityCss.Proofs.Resolve.Layering
import UtilityCss.Proofs.Resolve.Policy
import UtilityCss.Proofs.Text.Lowercase
import UtilityCss.Proofs.Conversion.Composition
import UtilityCss.Proofs.Conversion.Membership
import UtilityCss.Proofs.Resolve.Exactness
import UtilityCss.Proofs.Property.Warnings
import UtilityCss.Proofs.Report.Merging
import UtilityCss.Proofs.Text.Phrase
import UtilityCss.Proofs.Conversion.Accounting
import UtilityCss.Proofs.Conversion.Unhandled
import UtilityCss.Proofs.Report.Summary
import UtilityCss.Proofs.Conversion.Through
import UtilityCss.Proofs.Conversion.Totals
import UtilityCss.Proofs.Class.Token
import UtilityCss.Proofs.Text.Unspaced
import UtilityCss.Proofs.Resolve.Tokens
import UtilityCss.Proofs.Property.Unspaced
import UtilityCss.Proofs.Conversion.Attribute
import UtilityCss.Proofs.Settings.Texts
import UtilityCss.Proofs.Settings.Section
import UtilityCss.Proofs.Settings.Current
import UtilityCss.Proofs.Text.Words
import UtilityCss.Proofs.Css.Box
import UtilityCss.Proofs.Css.Color
import UtilityCss.Proofs.Text.Casing
import UtilityCss.Proofs.Property.Color
import UtilityCss.Proofs.Number.Order
import UtilityCss.Proofs.Report.Percentage
import UtilityCss.Proofs.Number.Comparison
import UtilityCss.Proofs.Resolve.Nearest
import UtilityCss.Proofs.Number.Overflow
import UtilityCss.Proofs.Theme.Screens
import UtilityCss.Proofs.Theme.Names
import UtilityCss.Proofs.Report.Bracketed
import UtilityCss.Proofs.Css.NormalForm
import UtilityCss.Proofs.Css.Values
import UtilityCss.Proofs.Number.Numeral
import UtilityCss.Proofs.Css.Units
import UtilityCss.Proofs.Resolve.Alike
import UtilityCss.Proofs.Property.Box
import UtilityCss.Proofs.Property.Border
import UtilityCss.Proofs.Text.Lettercase
import UtilityCss.Proofs.Property.Keyword
import UtilityCss.Proofs.Resolve.Accounting
import UtilityCss.Proofs.Report.Digest
import UtilityCss.Proofs.Conversion.Advisory
import UtilityCss.Proofs.Class.Arbitrary
import UtilityCss.Proofs.Class.Group
import UtilityCss.Proofs.Report.Recount
import UtilityCss.Proofs.Settings.Entrywise
import UtilityCss.Proofs.Settings.Textual
import UtilityCss.Proofs.Class.Numbered
import UtilityCss.Proofs.Report.Columns
import UtilityCss.Proofs.Property.Depth
