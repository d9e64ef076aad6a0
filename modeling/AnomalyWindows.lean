import AnomalyWindows.Action
import AnomalyWindows.Alignment
import AnomalyWindows.Anomaly
import AnomalyWindows.Calendar.Conversion
import AnomalyWindows.Calendar.Date
import AnomalyWindows.Calendar.Iso
import AnomalyWindows.Calendar.IsoReader
import AnomalyWindows.Calendar.Moment
import AnomalyWindows.Calendar.Timestamp
import AnomalyWindows.Calendar.Zone
import AnomalyWindows.Calendar.ZoneTable
import AnomalyWindows.Catalog.Basic
import AnomalyWindows.Catalog.Store
import AnomalyWindows.Data
import AnomalyWindows.Data.Order
import AnomalyWindows.Data.Text
import AnomalyWindows.Detection
import AnomalyWindows.Detector.Answer
import AnomalyWindows.Detector.Registry
import AnomalyWindows.Detector.Remote
import AnomalyWindows.Equipment
import AnomalyWindows.Execution
import AnomalyWindows.Fault
import AnomalyWindows.Granularity
import AnomalyWindows.Interval
import AnomalyWindows.Json.Printer
import AnomalyWindows.Json.Reader
import AnomalyWindows.Keyed
import AnomalyWindows.Metric.Selector
import AnomalyWindows.Metric.Urn
import AnomalyWindows.Network
import AnomalyWindows.Number.Decimal
import AnomalyWindows.Number.Shortest
import AnomalyWindows.Number.Word
import AnomalyWindows.Period.Basic
import AnomalyWindows.Period.Reader
import AnomalyWindows.Period.Shift
import AnomalyWindows.Run
import AnomalyWindows.RunLog
import AnomalyWindows.Series.Reading
import AnomalyWindows.Series.Sample
import AnomalyWindows.Service.Address
import AnomalyWindows.Service.Basic
import AnomalyWindows.Service.Reply
import AnomalyWindows.Service.Route
import AnomalyWindows.Settings
import AnomalyWindows.Settings.Load
import AnomalyWindows.Surroundings
import AnomalyWindows.Surroundings.Traced
import AnomalyWindows.Text.Blank
import AnomalyWindows.Text.Digit
import AnomalyWindows.Text.Hex
import AnomalyWindows.Text.Integer
import AnomalyWindows.Text.Letter
import AnomalyWindows.Text.Percent
import AnomalyWindows.Text.Query
import AnomalyWindows.Text.Quoted
import AnomalyWindows.Text.Split
import AnomalyWindows.TimeUnit
import AnomalyWindows.Tsdb
import AnomalyWindows.Validation.Checked
import AnomalyWindows.Validation.Duration
import AnomalyWindows.Validation.Models
import AnomalyWindows.Validation.Moment
import AnomalyWindows.Validation.Scalar
import AnomalyWindows.Watermark
import AnomalyWindows.WindowPolicy
import AnomalyWindows.Windows
import AnomalyWindows.Yaml.Cursor
import AnomalyWindows.Yaml.Lexer
import AnomalyWindows.Yaml.Meaning
import AnomalyWindows.Yaml.Node
import AnomalyWindows.Yaml.Reader
import AnomalyWindows.Yaml.Scalar
import AnomalyWindows.Yaml.Token
import AnomalyWindows.Proofs.RunVerdict
import AnomalyWindows.Proofs.RunFindings
import AnomalyWindows.Proofs.AnchorWalk
import AnomalyWindows.Proofs.CalendarYear
import AnomalyWindows.Proofs.ZoneTimeline
import AnomalyWindows.Proofs.YearlyChanges
import AnomalyWindows.Proofs.ZoneReading
import AnomalyWindows.Proofs.ClockSteps
import AnomalyWindows.Proofs.WalkEnds
import AnomalyWindows.Proofs.WindowPerAnchor
import AnomalyWindows.Proofs.FirstPass
import AnomalyWindows.Proofs.ResumedWindows
import AnomalyWindows.Proofs.LocalDays
import AnomalyWindows.Proofs.DerivedPolicies
import AnomalyWindows.Proofs.WatermarkOrder
import AnomalyWindows.Proofs.AlignedTimes
import AnomalyWindows.Proofs.BucketSteps
import AnomalyWindows.Proofs.DayStarts
import AnomalyWindows.Proofs.WindowOrder
import AnomalyWindows.Proofs.ClockChanges
import AnomalyWindows.Proofs.AlignedOrder
import AnomalyWindows.Proofs.RunFaults
import AnomalyWindows.Proofs.WrittenRecords
import AnomalyWindows.Proofs.SortedData
import AnomalyWindows.Proofs.CatalogRoundTrip
import AnomalyWindows.Proofs.ReopenedStores
import AnomalyWindows.Proofs.SkippedEntries
import AnomalyWindows.Proofs.JsonData
import AnomalyWindows.Proofs.DetectionRequests
import AnomalyWindows.Proofs.SharedCatalogs
import AnomalyWindows.Proofs.ReorderedDetectors
import AnomalyWindows.Proofs.RunViews
import AnomalyWindows.Proofs.StoredRuns
import AnomalyWindows.Proofs.RunStages
import AnomalyWindows.Proofs.InquiryOrder
import AnomalyWindows.Proofs.ClientSessions
import AnomalyWindows.Proofs.DatabaseReplies
import AnomalyWindows.Proofs.RunHandlers
import AnomalyWindows.Proofs.BlamedCallers
import AnomalyWindows.Proofs.CalendarDays
import AnomalyWindows.Proofs.WrittenMoments
import AnomalyWindows.Proofs.RequestedMoments
import AnomalyWindows.Proofs.BackgroundRuns
import AnomalyWindows.Proofs.FilterMaps
import AnomalyWindows.Proofs.WrittenIntegers
import AnomalyWindows.Proofs.UrnRoundTrip
import AnomalyWindows.Proofs.TellingSelectors
import AnomalyWindows.Proofs.SkippedTimes
import AnomalyWindows.Proofs.WatermarkProgress
import AnomalyWindows.Proofs.FiniteWalks
import AnomalyWindows.Proofs.WholePlans
import AnomalyWindows.Proofs.WindowFormula
import AnomalyWindows.Proofs.SpelledPeriods
import AnomalyWindows.Proofs.PrintedPeriods
import AnomalyWindows.Proofs.DoubleArithmetic
import AnomalyWindows.Proofs.DoubleRounding
import AnomalyWindows.Proofs.DoubleSums
import AnomalyWindows.Proofs.AmountSums
import AnomalyWindows.Proofs.SummedSeries
import AnomalyWindows.Proofs.StablePolicies
import AnomalyWindows.Proofs.ShiftedMoments
import AnomalyWindows.Proofs.DetectorAnswers
import AnomalyWindows.Proofs.WholeAnswers
