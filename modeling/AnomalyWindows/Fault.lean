import AnomalyWindows.Period.Basic

/-!
Everything that can go wrong, as causes, and the wording of each cause.
-/

namespace AnomalyWindows

open Calendar

/-- How an exchange over the network breaks before there is an answer. -/
inductive TransportFault
  | connectError
  | connectTimeout
  | readTimeout
  | readError
  deriving DecidableEq, Repr

/-- What is wrong with one value of a record. -/
inductive ProblemKind
  | missing
  | stringType
  | intType
  | intParsing
  | intFromFloat
  | intParsingSize
  | finiteNumber
  | boolType
  | boolParsing
  | floatType
  | floatParsing
  | enum
  | valueError
  | modelType
  | modelAttributesType
  | durationType
  | durationParsing
  | dictType
  | momentType
  | momentParsing
  | momentRange
  | jsonInvalid
  deriving DecidableEq, Repr

def ProblemKind.name : ProblemKind → String
  | .missing => "missing"
  | .stringType => "string_type"
  | .intType => "int_type"
  | .intParsing => "int_parsing"
  | .intFromFloat => "int_from_float"
  | .intParsingSize => "int_parsing_size"
  | .finiteNumber => "finite_number"
  | .boolType => "bool_type"
  | .boolParsing => "bool_parsing"
  | .floatType => "float_type"
  | .floatParsing => "float_parsing"
  | .enum => "enum"
  | .valueError => "value_error"
  | .modelType => "model_type"
  | .modelAttributesType => "model_attributes_type"
  | .durationType => "time_delta_type"
  | .durationParsing => "time_delta_parsing"
  | .dictType => "dict_type"
  | .momentType => "datetime_type"
  | .momentParsing => "datetime_from_date_parsing"
  | .momentRange => "datetime_parsing"
  | .jsonInvalid => "json_invalid"

/-- A step on the way to a value: the name of a field, or an offset into a text. -/
inductive PathStep
  | field (name : String)
  | offset (position : Nat)
  deriving DecidableEq, Repr

structure Problem where
  path : List PathStep
  kind : ProblemKind
  deriving DecidableEq, Repr

def Problem.inField (field : String) (p : Problem) : Problem :=
  { p with path := .field field :: p.path }

/-- Why a detection cannot be set up. -/
inductive ConfigurationFault
  | unusableUrn (detection reason : String)
  | metricNotFound (detection : String) (id : Int)
  | datasetNotFound (detection dataset : String)
  | detectorNotRegistered (detection detector : String)
  | unusablePolicy (detection reason : String)
  | unknownTimezone (detection zone : String)
  | invalidDetector
  | endpointRequired (detector : String)
  | unknownDetectorType (type : String)
  | stated (text : String)
  deriving DecidableEq, Repr

def ConfigurationFault.message : ConfigurationFault → String
  | .unusableUrn detection reason => s!"Detection '{detection}': {reason}"
  | .metricNotFound detection id => s!"Detection '{detection}': metric {id} not found"
  | .datasetNotFound detection dataset =>
    s!"Detection '{detection}': dataset '{dataset}' not found"
  | .detectorNotRegistered detection detector =>
    s!"Detection '{detection}': detector '{detector}' is not registered"
  | .unusablePolicy detection reason => s!"Detection '{detection}': {reason}"
  | .unknownTimezone detection zone => s!"Detection '{detection}': unknown timezone '{zone}'"
  | .invalidDetector => "Invalid detector entry"
  | .endpointRequired detector => s!"Endpoint required for remote detector '{detector}'"
  | .unknownDetectorType type => s!"Unknown detector type '{type}'"
  | .stated text => text

/-- Why a detector has too little data for a window. -/
inductive InsufficientData
  | rejected (window answer : String)
  | reported (window : String)
  | stated (text : String)
  deriving DecidableEq, Repr

def InsufficientData.message : InsufficientData → String
  | .rejected window answer => s!"Detector rejected window {window}: {answer}"
  | .reported window => s!"Insufficient data for window {window}"
  | .stated text => text

/-- Where a text stops being JSON, and what was expected there. -/
structure JsonFault where
  expectation : String
  position : Nat
  line : Nat
  column : Nat
  deriving DecidableEq, Repr

def JsonFault.message (f : JsonFault) : String :=
  s!"{f.expectation}: line {f.line} column {f.column} (char {f.position})"

def idText : Option Int → String
  | some id => toString id
  | none => "None"

/-- A run whose leading windows all failed. -/
structure Abort where
  limit : Int
  total : Nat
  detection : Option Int
  urn : String
  start : Moment
  finish : Moment
  deriving DecidableEq, Repr

def Abort.message (a : Abort) : String :=
  s!"Successive first {a.limit}/{a.total} detection windows failed for detection " ++
    s!"{idText a.detection} metric {a.urn} for monitoring window {a.start.spaced} to " ++
    s!"{a.finish.spaced}. Discard remaining windows"

structure Failure where
  detection : Option Int
  detector : String
  start : Moment
  finish : Moment
  deriving DecidableEq, Repr

def Failure.message (f : Failure) : String :=
  s!"Detection failed for all windows for detection {idText f.detection} detector {f.detector} " ++
    s!"for monitoring window {f.start.spaced} to {f.finish.spaced}"

/-- A cause that stands for an operation's result. -/
inductive Fault
  /-- A moment outside years 1 to 9999, or a duration that is too long. -/
  | outOfRange
  | zeroStep
  | minuteOutOfHour
  | clocksDiffer
  | unknownZone (name : String)
  | unusableZoneName (name : String)
  | unreadableZone (name : String)
  /-- A naive moment whose offset is looked up in a year that no moment lies in. -/
  | yearOutOfRange (year : Nat)
  | timestampOutOfRange
  /-- A count of seconds that no year of 32 bits can hold. -/
  | timestampTooFar
  | notIsoTime (text : String)
  | tooManyDigits (count : Nat)
  | integerTooLong
  | unknownUnit (name : String)
  | unsupportedPeriod (text : String)
  | bucketDoesNotAdvance (bucket : Period)
  | endlessWalk
  | emptyInterval (start finish : Moment)
  | emptyWindow (start finish : Moment)
  | notMetricUrn (urn : String)
  | nonNumericId (urn : String)
  | malformedFilter (part urn : String)
  | noOpeningBrace
  | invalid (problems : List Problem)
  | configuration (cause : ConfigurationFault)
  | insufficientData (cause : InsufficientData)
  | aborted (abort : Abort) (cause : Option Fault)
  | failed (failure : Failure) (cause : Option Fault)
  | transport (cause : TransportFault)
  | status (code : Int)
  | notJson (cause : JsonFault)
  | queryFailed (text : String)
  | unknownMetric (id : Int)
  | missingKey (name : String)
  | wrongKind
  | noNamedParts
  | unusableValue (text : String)
  | notYaml
  | unreadableSettings
  | runtime (text : String)
  | value (text : String)
  | key (text : String)

namespace Fault

def message : Fault → String
  | outOfRange => "date value out of range"
  | zeroStep => "integer division or modulo by zero"
  | minuteOutOfHour => "minute must be in 0..59"
  | clocksDiffer => "can't compare offset-naive and offset-aware datetimes"
  | unknownZone name => s!"no zone of the name: {name}"
  | unusableZoneName name => s!"unusable zone name: {name}"
  | unreadableZone name => s!"unreadable zone: {name}"
  | yearOutOfRange year => s!"year {year} is out of range"
  | timestampOutOfRange => "year is out of range"
  | timestampTooFar => "value too large"
  | notIsoTime text => s!"not a written moment: {text}"
  | tooManyDigits count =>
    s!"Exceeds the limit (4300 digits) for integer string conversion: value has {count} digits; " ++
      "use sys.set_int_max_str_digits() to increase the limit"
  | integerTooLong =>
    "Exceeds the limit (4300 digits) for integer string conversion; " ++
      "use sys.set_int_max_str_digits() to increase the limit"
  | unknownUnit name => s!"unknown unit: {name}"
  | unsupportedPeriod text => s!"Unsupported period '{text}'"
  | bucketDoesNotAdvance bucket => s!"Bucket period {bucket.text} does not advance"
  | endlessWalk => "the walk does not end"
  | emptyInterval start finish =>
    s!"Interval end {finish.spaced} is not after start {start.spaced}"
  | emptyWindow start finish => s!"Empty monitoring window {start.spaced} - {finish.spaced}"
  | notMetricUrn urn => s!"Not a metric URN: '{urn}'"
  | nonNumericId urn => s!"Metric URN '{urn}' has a non-numeric id"
  | malformedFilter part urn => s!"Malformed filter '{part}' in metric URN '{urn}'"
  | noOpeningBrace => "substring not found"
  | invalid _ => "invalid record"
  | configuration cause => cause.message
  | insufficientData cause => cause.message
  | aborted abort _ => abort.message
  | failed failure _ => failure.message
  | transport _ => "transport failed"
  | status code => s!"answered with status {code}"
  | notJson cause => cause.message
  | queryFailed text => s!"Prometheus query failed: {text}"
  | unknownMetric id => s!"Unknown metric {id}"
  | missingKey name => name
  | wrongKind => "wrong kind of value"
  | noNamedParts => "value without named parts"
  | unusableValue text => text
  | notYaml => "unreadable text"
  | unreadableSettings => "unreadable settings"
  | runtime text => text
  | value text => text
  | key text => text

/-- Whether the fault lies in a value that was handed over: its text, its size or its form. Such
faults are told apart from a broken setup and from faults of the surroundings. -/
def isUnusableValue : Fault → Bool
  | minuteOutOfHour | unusableZoneName _ | yearOutOfRange _ | timestampOutOfRange | notIsoTime _
  | tooManyDigits _ | integerTooLong | unknownUnit _ | unsupportedPeriod _ | bucketDoesNotAdvance _
  | emptyInterval _ _ | emptyWindow _ _ | notMetricUrn _ | nonNumericId _ | malformedFilter _ _
  | noOpeningBrace | invalid _ | notJson _ | unusableValue _ | value _ => true
  | _ => false

end Fault

end AnomalyWindows
