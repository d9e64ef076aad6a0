import AnomalyWindows.Detection
import AnomalyWindows.Settings
import AnomalyWindows.Text.Letter
import AnomalyWindows.Validation.Duration
import AnomalyWindows.Validation.Scalar

namespace AnomalyWindows

open Data Text

namespace Granularity

def ofRecord (r : Record) : Checked Granularity :=
  Granularity.mk <$> r.optional "size" readInt daily.size <*> r.optional "unit" readUnit daily.unit

/-- A granularity written as its size and its unit with an underscore between them. -/
def ofText (text : String) : Checked Granularity :=
  let (size, rest) := text.toList.span (· != '_')
  match integer? size with
  | none => .wrongKind .valueError
  | some size =>
    Granularity.mk size <$>
      (readUnit (.text (String.ofList ((rest.drop 1).map upper)))).inField "unit"

def ofData (otherwise : ProblemKind) : Data → Checked Granularity
  | .text s => ofText s
  | data => data.record otherwise ofRecord

def toData (g : Granularity) : Data :=
  .ofFields [("size", .int g.size), ("unit", .text g.unit.name)]

end Granularity

namespace Detection

def ofRecord (otherwise : ProblemKind) (r : Record) : Checked Detection :=
  Detection.mk
    <$> r.optional "id" (orNull readInt) none
    <*> r.required "name" readText
    <*> r.optional "description" readText ""
    <*> r.required "metric_urn" readText
    <*> r.required "detector" readText
    <*> r.optional "moving_window" readBool false
    <*> r.optional "window_delay" readInt 0
    <*> r.optional "window_delay_unit" readUnit .days
    <*> r.optional "window_size" readInt 1
    <*> r.optional "window_unit" readUnit .days
    <*> r.optional "frequency" (Granularity.ofData otherwise) ⟨15, .minutes⟩
    <*> r.optional "timezone" (orNull readText) none
    <*> r.optional "bucket_period" (orNull readText) none
    <*> r.optional "caching_period_lookback" (orNull readInt) none

def ofData (otherwise : ProblemKind) : Data → Checked Detection :=
  Data.record otherwise (ofRecord otherwise)

def toData (d : Detection) : Data :=
  .ofFields [
    ("id", .ofOption .int d.id),
    ("name", .text d.name),
    ("description", .text d.description),
    ("metric_urn", .text d.metricUrn),
    ("detector", .text d.detector),
    ("moving_window", .bool d.movingWindow),
    ("window_delay", .int d.windowDelay),
    ("window_delay_unit", .text d.windowDelayUnit.name),
    ("window_size", .int d.windowSize),
    ("window_unit", .text d.windowUnit.name),
    ("frequency", d.frequency.toData),
    ("timezone", .ofOption .text d.timezone),
    ("bucket_period", .ofOption .text d.bucketPeriod),
    ("caching_period_lookback", .ofOption .int d.cachingPeriodLookback)]

end Detection

namespace Metric

def ofRecord (r : Record) : Checked Metric :=
  Metric.mk
    <$> r.required "id" readInt
    <*> r.required "name" readText
    <*> r.required "dataset" readText
    <*> r.optional "query" (orNull readText) none

def ofData (otherwise : ProblemKind) : Data → Checked Metric :=
  Data.record otherwise ofRecord

def toData (m : Metric) : Data :=
  .ofFields [
    ("id", .int m.id),
    ("name", .text m.name),
    ("dataset", .text m.dataset),
    ("query", .ofOption .text m.query)]

end Metric

namespace Dataset

def ofRecord (otherwise : ProblemKind) (r : Record) : Checked Dataset :=
  Dataset.mk
    <$> r.required "name" readText
    <*> r.optional "granularity" (Granularity.ofData otherwise) .daily
    <*> r.optional "timezone" readText "UTC"

def ofData (otherwise : ProblemKind) : Data → Checked Dataset :=
  Data.record otherwise (ofRecord otherwise)

def toData (d : Dataset) : Data :=
  .ofFields [
    ("name", .text d.name),
    ("granularity", d.granularity.toData),
    ("timezone", .text d.timezone)]

end Dataset

namespace Scheduling

def ofRecord (r : Record) : Checked Scheduling :=
  let usual : Scheduling := {}
  Scheduling.mk
    <$> r.optional "early_terminate_window" readInt usual.earlyTerminateWindow
    <*> r.optional "caching_lookback_daily" readInt usual.dailyLookback
    <*> r.optional "caching_lookback_hourly" readInt usual.hourlyLookback
    <*> r.optional "caching_lookback_minutely" readInt usual.minutelyLookback
    <*> r.optional "caching_lookback_default" readInt usual.otherLookback
    <*> r.optional "speed_up_max_bucket" Duration.ofData usual.speedUpMaxBucket
    <*> r.optional "speed_up_min_span" Duration.ofData usual.speedUpMinSpan
    <*> r.optional "max_minute_frequency" readInt usual.maxMinuteFrequency

def ofData (otherwise : ProblemKind) : Data → Checked Scheduling :=
  Data.record otherwise ofRecord

def toData (s : Scheduling) : Data :=
  .ofFields [
    ("early_terminate_window", .int s.earlyTerminateWindow),
    ("caching_lookback_daily", .int s.dailyLookback),
    ("caching_lookback_hourly", .int s.hourlyLookback),
    ("caching_lookback_minutely", .int s.minutelyLookback),
    ("caching_lookback_default", .int s.otherLookback),
    ("speed_up_max_bucket", .int s.speedUpMaxBucket),
    ("speed_up_min_span", .int s.speedUpMinSpan),
    ("max_minute_frequency", .int s.maxMinuteFrequency)]

end Scheduling

namespace Settings

def ofRecord (otherwise : ProblemKind) (r : Record) : Checked Settings :=
  let usual : Settings := {}
  Settings.mk
    <$> r.optional "redis_url" readText usual.redisUrl
    <*> r.optional "prometheus_url" readText usual.prometheusUrl
    <*> r.optional "tsdb_timeout" readFloat usual.tsdbTimeout
    <*> r.optional "catalog_file" readText usual.catalogFile
    <*> r.optional "scheduling" (Scheduling.ofData otherwise) usual.scheduling

def ofData (otherwise : ProblemKind) : Data → Checked Settings :=
  Data.record otherwise (ofRecord otherwise)

def toData (s : Settings) : Data :=
  .ofFields [
    ("redis_url", .text s.redisUrl),
    ("prometheus_url", .text s.prometheusUrl),
    ("tsdb_timeout", .float s.tsdbTimeout),
    ("catalog_file", .text s.catalogFile),
    ("scheduling", s.scheduling.toData)]

end Settings

end AnomalyWindows
