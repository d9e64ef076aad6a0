import AnomalyWindows.Equipment
import AnomalyWindows.Run

namespace AnomalyWindows

open Calendar

variable [ZoneDatabase]

/-- A catalog, and the network on which its detectors and its database are. -/
structure Site where
  store : Store
  network : Network

namespace Logged

def unlogged {σ α : Type} (a : Act (Logged σ) α) : Act σ α :=
  a.within (fun s => { world := s }) fun l _ => l.world

end Logged

def Run.whole {σ : Type} (around : Surroundings σ) (s : Scheduling) (d : Detection)
    (interval : Interval) : Act (Logged σ) Outcome := do
  let r ← prepare around d interval s
  r.run around

namespace Equipment

def setUp : Act Equipment Unit := do
  let entries ← onStore Store.detectors
  let detectors ← Act.ofResult (Detector.Registry.ofEntries entries)
  Act.change fun e => { e with detectors }

def detectOver (s : Scheduling) (d : Detection) (interval : Interval) : Act Equipment Outcome := do
  setUp
  let names ← Act.look fun e => e.detectors.names
  Logged.unlogged (Run.whole (surroundings names) s d interval)

def forSite (settings : Settings) (site : Site) : Equipment where
  store := site.store
  tsdb := Tsdb.make settings.prometheusUrl settings.tsdbTimeout []
  detectors := []
  network := site.network

end Equipment

namespace Site

def onStore {α : Type} (a : Act Store α) : Act Site α :=
  a.within Site.store fun store s => { s with store }

def withEquipment {α : Type} (settings : Settings) (a : Act Equipment α) : Act Site α :=
  (a.andFinally Equipment.close).within (Equipment.forSite settings) fun e _ =>
    ⟨e.store, e.network⟩

/-- Runs a detection over the interval between two moments. -/
def execute (settings : Settings) (d : Detection) (start finish : Moment) : Act Site Outcome := do
  let interval ← Act.ofResult (Interval.ofMoments start finish)
  withEquipment settings (Equipment.detectOver settings.scheduling d interval)

end Site

end AnomalyWindows
