import TableExchange.Cell.Conversion
import TableExchange.Config.CastSettings
import TableExchange.Database.Script
import TableExchange.Job.Planner
import TableExchange.Row.Scan
import TableExchange.Proofs.Sql.Literal
import TableExchange.Proofs.Sql.LiteralGrammar
import TableExchange.Proofs.Sql.EmbeddedLiterals
import TableExchange.Proofs.Sql.Meaning
import TableExchange.Proofs.Sql.Reading
import TableExchange.Proofs.Split.Ranges
import TableExchange.Proofs.Split.EvenBoundaries
import TableExchange.Proofs.Split.EvenWidths
import TableExchange.Proofs.Split.Planning
import TableExchange.Proofs.Split.NumericPartition
import TableExchange.Proofs.Results
import TableExchange.Proofs.Split.Probing
import TableExchange.Proofs.Split.SampledPartition
import TableExchange.Proofs.Split.AsciiCodeOrder
import TableExchange.Proofs.Split.AsciiCodeInverse
import TableExchange.Proofs.Split.TextPartition
import TableExchange.Proofs.Split.CollationCoverage
import TableExchange.Proofs.Calendar.Date
import TableExchange.Proofs.Calendar.Written
import TableExchange.Proofs.Calendar.Matching
import TableExchange.Proofs.Calendar.Rendering
import TableExchange.Proofs.Calendar.Fraction
import TableExchange.Proofs.Calendar.ZoneText
import TableExchange.Proofs.Cell.EncodedText
import TableExchange.Proofs.Cell.DateText
import TableExchange.Proofs.Cell.DateRoundTrip
import TableExchange.Proofs.Cell.TimestampRoundTrip
import TableExchange.Proofs.Cell.KeptInstants
import TableExchange.Proofs.Text.Digits
import TableExchange.Proofs.Text.Blank
import TableExchange.Proofs.Text.Utf8
import TableExchange.Proofs.Text.Charset
import TableExchange.Proofs.Number.DecimalOrder
import TableExchange.Proofs.Number.IntegerPart
import TableExchange.Proofs.Number.Literal
import TableExchange.Proofs.Number.LiteralReading
import TableExchange.Proofs.Number.PlainText
import TableExchange.Proofs.Number.Rounding
import TableExchange.Proofs.Number.ExactDoubles
import TableExchange.Proofs.Number.Nearest
import TableExchange.Proofs.Number.Neighbours
import TableExchange.Proofs.Number.NearestRounding
import TableExchange.Proofs.Number.Shortest
import TableExchange.Proofs.Number.FloatText
import TableExchange.Proofs.Cell.NumericViews
import TableExchange.Proofs.Cell.Spellings
import TableExchange.Proofs.Cell.IntegerText
import TableExchange.Proofs.Cell.DoubleRange
import TableExchange.Proofs.Cell.DoubleRoundTrip
import TableExchange.Proofs.Cell.NearestDouble
import TableExchange.Proofs.Cell.ExactDoubles
import TableExchange.Proofs.Cell.ConversionTable
import TableExchange.Proofs.Cell.DecimalText
import TableExchange.Proofs.Split.PlanShape
import TableExchange.Proofs.Split.KeyValues
import TableExchange.Proofs.Split.ProbeStatistics
import TableExchange.Proofs.Row.Columns
import TableExchange.Proofs.Row.CellKinds
import TableExchange.Proofs.Row.StoredDoubles
import TableExchange.Proofs.Row.Conservation
import TableExchange.Proofs.Config.AcceptedSettings
import TableExchange.Proofs.Config.Paths
import TableExchange.Proofs.Config.ValuesAtPaths
import TableExchange.Proofs.Config.ErrorPaths
import TableExchange.Proofs.Config.NullMembers
import TableExchange.Proofs.Config.ConsistentSettings
import TableExchange.Proofs.Database.Endings
import TableExchange.Proofs.Database.Contracts
import TableExchange.Proofs.Database.Exchanges
import TableExchange.Proofs.Database.Turns
import TableExchange.Proofs.Database.Sessions
import TableExchange.Proofs.Database.Statements
import TableExchange.Proofs.Split.Contracts
import TableExchange.Proofs.Job.Connect
import TableExchange.Proofs.Job.UrlChoice
import TableExchange.Proofs.Job.Failures
import TableExchange.Proofs.Job.Tables
import TableExchange.Proofs.Job.Assembly
import TableExchange.Proofs.Job.Visits
import TableExchange.Proofs.Job.Connections
import TableExchange.Proofs.Job.Probes
import TableExchange.Proofs.Job.Scheduling
