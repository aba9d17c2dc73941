import DecisionTables.CommandLine.Run
import DecisionTables.Main
import DecisionTables.Proofs.Engine.Recency
import DecisionTables.Proofs.Engine.Transparency
import DecisionTables.Proofs.Expression.Parsing
import DecisionTables.Proofs.Table.Mentions
import DecisionTables.Proofs.Table.Typing
import DecisionTables.Proofs.UnaryTest.Desugaring
import DecisionTables.Proofs.UnaryTest.Entries
import DecisionTables.Proofs.Table.Strictness
import DecisionTables.Proofs.Number.Exact
import DecisionTables.Proofs.Value.Equality
import DecisionTables.Proofs.Table.Priority
import DecisionTables.Proofs.Table.Agreement
import DecisionTables.Proofs.Table.Columns
import DecisionTables.Proofs.Table.Cells
import DecisionTables.Proofs.Table.Order
import DecisionTables.Proofs.Table.Acceptance
import DecisionTables.Proofs.Table.Reports
import DecisionTables.Proofs.Model.Extensions
import DecisionTables.Proofs.Model.Rendering
import DecisionTables.Proofs.Engine.Inclusion
import DecisionTables.Proofs.Engine.Batches
import DecisionTables.Proofs.CommandLine.Validation
import DecisionTables.Proofs.Table.Unanimity
import DecisionTables.Proofs.Expression.Lexemes
import DecisionTables.Proofs.Expression.Extents
import DecisionTables.Proofs.Expression.Layout
import DecisionTables.Proofs.Model.Separators
import DecisionTables.Proofs.Table.Ranking
import DecisionTables.Proofs.Table.Scan
import DecisionTables.Proofs.Table.FirstFailure
import DecisionTables.Proofs.UnaryTest.Grammar
import DecisionTables.Proofs.UnaryTest.Parsing
import DecisionTables.Proofs.UnaryTest.LookAhead
import DecisionTables.Proofs.Calendar.Date
import DecisionTables.Proofs.Expression.Literals
import DecisionTables.Proofs.UnaryTest.Intervals
import DecisionTables.Proofs.Expression.Nulls
import DecisionTables.Proofs.Expression.Chains
import DecisionTables.Proofs.Value.Coercion
import DecisionTables.Proofs.Expression.Restoring
import DecisionTables.Proofs.Table.Reductions
import DecisionTables.Proofs.Table.Extremes
import DecisionTables.Proofs.Model.Decisions
import DecisionTables.Proofs.Table.Wildcards
import DecisionTables.Proofs.Table.TypeNames
import DecisionTables.Proofs.Expression.Offsets
import DecisionTables.Proofs.Cursor.Range
