namespace AnomalyWindows

/-- The constants of scheduling and of failure handling. Lookbacks are in milliseconds and switch
the warm-up off when negative; durations are in microseconds. -/
structure Scheduling where
  earlyTerminateWindow : Int := 5
  dailyLookback : Int := 7776000000
  hourlyLookback : Int := 5184000000
  minutelyLookback : Int := -1
  otherLookback : Int := -1
  speedUpMaxBucket : Int := 900000000
  speedUpMinSpan : Int := 86400000000
  maxMinuteFrequency : Int := 30
  deriving DecidableEq, Repr

structure Settings where
  redisUrl : String := "redis://localhost:6379/0"
  prometheusUrl : String := "http://localhost:8428"
  tsdbTimeout : Float := 30.0
  catalogFile : String := "catalog.yaml"
  scheduling : Scheduling := {}
  deriving Repr

end AnomalyWindows
