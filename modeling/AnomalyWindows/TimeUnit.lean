namespace AnomalyWindows

inductive TimeUnit
  | milliseconds
  | seconds
  | minutes
  | hours
  | days
  deriving DecidableEq, Repr

namespace TimeUnit

def name : TimeUnit → String
  | .milliseconds => "MILLISECONDS"
  | .seconds => "SECONDS"
  | .minutes => "MINUTES"
  | .hours => "HOURS"
  | .days => "DAYS"

def ofName? (name : String) : Option TimeUnit :=
  [milliseconds, seconds, minutes, hours, days].find? (·.name == name)

def stepSuffix : TimeUnit → String
  | .milliseconds => "ms"
  | .seconds => "s"
  | .minutes => "m"
  | .hours => "h"
  | .days => "d"

def isSubHour : TimeUnit → Bool
  | .milliseconds | .seconds | .minutes => true
  | .hours | .days => false

theorem ofName?_name (u : TimeUnit) : ofName? u.name = some u := by
  cases u <;> decide

end TimeUnit

end AnomalyWindows
