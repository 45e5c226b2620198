import ChartQuery.Main
import ChartQuery.Run.Prepare
import ChartQuery.Run.Scope
import ChartQuery.Chart.Spelling
import ChartQuery.Source.Connection
import ChartQuery.Json.Reader
import ChartQuery.Json.Writer
import ChartQuery.Proofs.Program.Alike
import ChartQuery.Proofs.Program.Behaviour
import ChartQuery.Proofs.Program.Discipline
import ChartQuery.Proofs.Run.Cleanup
import ChartQuery.Proofs.Run.Following
import ChartQuery.Proofs.Run.Holdings
import ChartQuery.Proofs.Run.Isolation
import ChartQuery.Proofs.Run.Process
import ChartQuery.Proofs.Run.Promptness
import ChartQuery.Proofs.Run.Renaming
import ChartQuery.Proofs.Run.Script
import ChartQuery.Proofs.Run.Stages
import ChartQuery.Proofs.Sql.Sources
import ChartQuery.Proofs.Sql.Template
import ChartQuery.Proofs.TableNames
import ChartQuery.Proofs.Sql.Scan
import ChartQuery.Proofs.Sql.LexicalSafety
import ChartQuery.Proofs.Sql.SelectList
import ChartQuery.Proofs.Sql.Lexemes
import ChartQuery.Proofs.Sql.Formulas
import ChartQuery.Proofs.Sql.Conjunctions
import ChartQuery.Proofs.Plan.Items
import ChartQuery.Proofs.Plan.Decoding
import ChartQuery.Proofs.Data.Fields
import ChartQuery.Proofs.Run.FaithfulEngine
import ChartQuery.Proofs.Plan.Skipping
import ChartQuery.Proofs.Plan.SourceColumns
import ChartQuery.Proofs.Plan.Rotation
import ChartQuery.Proofs.Plan.GroupingKey
import ChartQuery.Proofs.Run.Sending
import ChartQuery.Proofs.Run.CheckedColumns
import ChartQuery.Proofs.Run.ImplicitAggregation
import ChartQuery.Proofs.Data.Coercion
import ChartQuery.Proofs.Run.NoLeaks
import ChartQuery.Proofs.Program.Transparency
import ChartQuery.Proofs.Run.Failures
import ChartQuery.Proofs.Run.AggregateLabels
import ChartQuery.Proofs.Calendar.Days
import ChartQuery.Proofs.Calendar.Succession
import ChartQuery.Proofs.Calendar.Instants
import ChartQuery.Proofs.Calendar.Layouts
import ChartQuery.Proofs.Calendar.Roundtrip
import ChartQuery.Proofs.Calendar.Offsets
import ChartQuery.Proofs.Plan.FieldLabels
import ChartQuery.Proofs.Plan.SeriesKeys
import ChartQuery.Proofs.Run.PreQueries
import ChartQuery.Proofs.Data.ArrayTypes
import ChartQuery.Proofs.Data.NumberTexts
import ChartQuery.Proofs.Run.SourceCheck
import ChartQuery.Proofs.Request.TypedValues
import ChartQuery.Proofs.Plan.GroupedBars
import ChartQuery.Proofs.Plan.AggregateQuery
import ChartQuery.Proofs.Text.TitleCase
import ChartQuery.Proofs.Text.WordBoundaries
import ChartQuery.Proofs.Run.Scopes
import ChartQuery.Proofs.Sql.References
