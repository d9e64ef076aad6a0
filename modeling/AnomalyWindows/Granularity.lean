import AnomalyWindows.Period.Basic

namespace AnomalyWindows

structure Granularity where
  size : Int
  unit : TimeUnit
  deriving DecidableEq, Repr

namespace Granularity

def toPeriod (g : Granularity) : Period :=
  Period.of g.size g.unit

def text (g : Granularity) : String :=
  s!"{g.size}_{g.unit.name}"

def step (g : Granularity) : String :=
  s!"{g.size}{g.unit.stepSuffix}"

def daily : Granularity := ⟨1, .days⟩

/-- The granularity in which a metric without a dataset is queried. -/
def hourly : Granularity := ⟨1, .hours⟩

end Granularity

end AnomalyWindows
