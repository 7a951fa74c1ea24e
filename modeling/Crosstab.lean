import Crosstab.Calendar.Date
import Crosstab.Calendar.Iso
import Crosstab.Calendar.Moment
import Crosstab.Catalog
import Crosstab.Command.Exchange
import Crosstab.Command.Layout
import Crosstab.Command.Options
import Crosstab.Command.PointInTime
import Crosstab.Command.Program
import Crosstab.Command.Report
import Crosstab.Command.Request
import Crosstab.Command.Survey
import Crosstab.Command.Words
import Crosstab.Cursor
import Crosstab.Failure
import Crosstab.Filter.BaseSpec
import Crosstab.Filter.Entry
import Crosstab.Filter.Operator
import Crosstab.Filter.Where
import Crosstab.Grid.RowQuery
import Crosstab.Json.Reader
import Crosstab.Json.Writer
import Crosstab.Layer
import Crosstab.Loading
import Crosstab.Main
import Crosstab.Number.Binary64
import Crosstab.Number.Decimal
import Crosstab.Number.Notation
import Crosstab.Number.Numeral
import Crosstab.Number.Power
import Crosstab.Number.Quantity
import Crosstab.Number.Shortest
import Crosstab.Paging
import Crosstab.Pivot.Axis
import Crosstab.Pivot.Context
import Crosstab.Pivot.Metric
import Crosstab.Pivot.Query
import Crosstab.Pivot.Request
import Crosstab.Pivot.TopN
import Crosstab.Proofs.Outcome
import Crosstab.Proofs.Sql.Composition
import Crosstab.Proofs.Sql.Scan
import Crosstab.Schema
import Crosstab.Session
import Crosstab.Settings
import Crosstab.Sorting.Merge
import Crosstab.Sorting.Runs
import Crosstab.Sorting.Search
import Crosstab.Sql.Aggregation
import Crosstab.Sql.Draft
import Crosstab.Sql.Expression
import Crosstab.Sql.Fragment
import Crosstab.Sql.Predicate
import Crosstab.Sql.Select
import Crosstab.Sql.TimeBucket
import Crosstab.Text.Base64
import Crosstab.Text.Blank
import Crosstab.Text.Case
import Crosstab.Text.CaseTable
import Crosstab.Text.Digit
import Crosstab.Text.Printable
import Crosstab.Text.PrintableTable
import Crosstab.Text.Quoted
import Crosstab.Text.Range
import Crosstab.Text.Search
import Crosstab.Text.Surrogate
import Crosstab.Text.Utf8
import Crosstab.Value.Arithmetic
import Crosstab.Value.Basic
import Crosstab.Value.Convert
import Crosstab.Value.Display
import Crosstab.Value.EpochMillis
import Crosstab.Value.Order
import Crosstab.Value.Sorted
import Crosstab.View.Breakdown
import Crosstab.View.Chart
import Crosstab.View.Distinct
import Crosstab.View.Drilldown
import Crosstab.View.Grid
import Crosstab.View.Heatmap
import Crosstab.View.HeatmapTable
import Crosstab.View.Median
import Crosstab.View.Run
import Crosstab.View.Table
import Crosstab.View.Workspace
import Crosstab.Window
import Crosstab.Proofs.Sql.Statement
import Crosstab.Proofs.Sql.Subqueries
import Crosstab.Proofs.Sql.Formula
import Crosstab.Proofs.Columns
import Crosstab.Proofs.Filter.Conditions
import Crosstab.Proofs.Sql.Clauses
import Crosstab.Proofs.Filter.Conjunction
import Crosstab.Proofs.Filter.Rejection
import Crosstab.Proofs.Sql.Shape
import Crosstab.Proofs.Filter.Shape
import Crosstab.Proofs.Pivot.Shape
import Crosstab.Proofs.Json.Strings
import Crosstab.Proofs.Numeral
import Crosstab.Proofs.Text.Bytes
import Crosstab.Proofs.Cursor
import Crosstab.Proofs.Session
import Crosstab.Proofs.Sql.Built
import Crosstab.Proofs.Names
import Crosstab.Proofs.View.DistinctQuery
import Crosstab.Proofs.Sql.Truth
import Crosstab.Proofs.View.Distinct
import Crosstab.Proofs.Pivot.AxisKeys
import Crosstab.Proofs.Walk
import Crosstab.Proofs.Pivot.Condition
import Crosstab.Proofs.Pivot.Grouped
import Crosstab.Proofs.Pivot.Ranking
import Crosstab.Proofs.View.Workspace
import Crosstab.Proofs.View.Heatmap
import Crosstab.Proofs.Number.Whole
import Crosstab.Proofs.Pivot.Conjuncts
import Crosstab.Proofs.View.TopN
import Crosstab.Proofs.Sql.Stored
import Crosstab.Proofs.Pivot.StoredKeys
import Crosstab.Proofs.View.Chart
import Crosstab.Proofs.View.TableCells
import Crosstab.Proofs.View.RowItems
import Crosstab.Proofs.View.Grid
import Crosstab.Proofs.View.OwnFilter
import Crosstab.Proofs.View.GridPages
import Crosstab.Proofs.View.ChartLimits
import Crosstab.Proofs.Sql.Scheme
import Crosstab.Proofs.Filter.Chain
import Crosstab.Proofs.Filter.BaseChain
import Crosstab.Proofs.Firsts
import Crosstab.Proofs.Command.CellTable
import Crosstab.Proofs.Number.Bounded
import Crosstab.Proofs.Value.Equality
import Crosstab.Proofs.View.Series
import Crosstab.Proofs.View.Drilldown
import Crosstab.Proofs.Sql.Pattern
import Crosstab.Proofs.Filter.Matching
import Crosstab.Proofs.View.DrilldownTimes
import Crosstab.Proofs.View.Tabulated
import Crosstab.Proofs.View.ChartCells
import Crosstab.Proofs.View.HeatmapCells
import Crosstab.Proofs.Filter.Operands
import Crosstab.Proofs.Resolution
import Crosstab.Proofs.OwnNames
import Crosstab.Proofs.Pivot.ItemSorts
import Crosstab.Proofs.View.TimeColumn
import Crosstab.Proofs.Calendar.Bounds
import Crosstab.Proofs.Number.Rounding
import Crosstab.Proofs.Value.Millis
import Crosstab.Proofs.View.RequestNumbers
import Crosstab.Proofs.View.Breakdown
import Crosstab.Proofs.Sql.Steps
import Crosstab.Proofs.View.Foot
import Crosstab.Proofs.View.Spellings
import Crosstab.Proofs.Sql.Literal
import Crosstab.Proofs.Number.Half
import Crosstab.Proofs.Value.Integers
import Crosstab.Proofs.View.Median
