import AnomalyWindows.Data.Text
import AnomalyWindows.Series.Reading
import AnomalyWindows.Surroundings

/-!
The samples in the answer to a range query, and the series that they add up to. Main statement: the
instants of that series ascend.
-/

namespace AnomalyWindows.Series

open Calendar

/-- One value of one of the series in an answer. -/
structure Sample where
  series : Data
  instant : Option Int
  value : Amount

def nameLabel : String := "__name__"

def seriesName (labels : List (Data × Data)) : Data :=
  let name := (Data.named? nameLabel labels).getD (.text "metric")
  let others := labels.filter fun entry => !entry.1.isKey (.text nameLabel)
  let sorted := others.mergeSort fun a b => decide (a.1.shown ≤ b.1.shown)
  if sorted.isEmpty then name
  else
    let texts := sorted.map fun (key, value) =>
      key.shown ++ "=\"" ++ value.shown ++ "\""
    .text (name.shown ++ "\x7b" ++ ",".intercalate texts ++ "\x7d")

def labelsOf (series : List (Data × Data)) : Except Fault (List (Data × Data)) :=
  match Data.named? "metric" series with
  | none => .ok []
  | some (.map labels) => .ok labels
  | some (.list _) => .error .wrongKind
  | some _ => .error .noNamedParts

/-- A point as a time and a value. What is missing at its end is not known. -/
def pairOf (parts : List Data) : Data × Data :=
  (parts.headD .null, (parts.drop 1).headD .null)

def namedPairOf : Data → Except Fault (Data × Data)
  | .map entries =>
    .ok ((Data.named? "timestamp" entries).getD .null, (Data.named? "value" entries).getD .null)
  | _ => .error .wrongKind

def partsOf (point : Data) : Except Fault (List Data) :=
  match point.parts? with
  | some parts => .ok parts
  | none => .error .wrongKind

def flatPoints (count : Nat) : Fault :=
  .unusableValue s!"Shape of passed values is ({count}, 1), indices imply ({count}, 2)"

/-- The points of a series, the longest of which has to have two parts. The first one tells whether
times and values have names. -/
def pairsOf : Data → Except Fault (List (Data × Data))
  | .list points@(.list _ :: _) => do
    let rows ← points.mapM partsOf
    let width := (rows.map List.length).foldl max 0
    if width = 2 then return rows.map pairOf
    throw (.unusableValue s!"2 columns passed, passed data had {width} columns")
  | .list points@(.map _ :: _) => points.mapM namedPairOf
  | .list points => .error (flatPoints points.length)
  | .map _ => .ok []
  | _ => .error (.unusableValue "points are no list")

def samplesOf (series : Data) : Except Fault (List Sample) :=
  match series with
  | .map entries => do
    let name := seriesName (← labelsOf entries)
    let values := (Data.named? "values" entries).getD (.list [])
    if !values.isPresent then return []
    let pairs ← pairsOf values
    let seconds ← pairs.mapM fun pair => secondsOf pair.1
    let instants ← seconds.mapM instantOf
    return (instants.zip (valuesOf (pairs.map (·.2)))).map fun (instant, value) =>
      ⟨name, instant, value⟩
  | _ => .error .noNamedParts

/-- The value under a name in an answer, where what is missing counts as something empty. -/
def partOf (name : String) (otherwise : Data) : Data → Except Fault Data
  | .map entries => .ok ((Data.named? name entries).getD otherwise)
  | _ => .error .noNamedParts

def together (samples : List Sample) : List Sample :=
  let values := samples.map Sample.value
  samples.map fun s => { s with value := s.value.beside values }

/-- The samples of an answer. An answer that tells no success tells why. -/
def ofAnswer (answer : Data) : Except Fault (List Sample) := do
  let status ← partOf "status" .null answer
  if !status.isKey (.text "success") then
    throw (.queryFailed ((← partOf "error" (.text "Unknown error") answer).shown))
  let result ← partOf "result" (.list []) (← partOf "data" (.map []) answer)
  match result.parts? with
  | some series => return together (← series.mapM samplesOf).flatten
  | none => throw .wrongKind

/-- A sum of doubles in which the digits lost by one addition are made up for by the next. -/
structure Sum where
  total : Float := 0.0
  lost : Float := 0.0

namespace Sum

def add (s : Sum) (value : Float) : Sum :=
  if value.isNaN then s
  else
    let y := value - s.lost
    let t := s.total + y
    let lost := t - s.total - y
    ⟨t, if lost.isNaN then 0.0 else lost⟩

def of (values : List Float) : Float :=
  (values.foldl add {}).total

end Sum

/-- The sum of values of one column in order. Integers are added in words of 64 bits. -/
def sum (values : List Amount) : Amount :=
  match values.mapM Amount.word?, values.mapM Amount.natural? with
  | some ns, _ => .word ((ns.foldl (· + ·) 0).bmod (Nat.pow 2 64))
  | none, some ns => .natural (ns.foldl (· + ·) 0 % Nat.pow 2 64)
  | none, none => .double (Sum.of (values.map Amount.float))

def addAt (instant : Int) (value : Amount) :
    List (Int × List Amount) → List (Int × List Amount)
  | [] => [(instant, [value])]
  | (t, values) :: rest =>
    if t = instant then (t, values ++ [value]) :: rest
    else if instant < t then (instant, [value]) :: (t, values) :: rest
    else (t, values) :: addAt instant value rest

/-- The values at each instant, in the order of the samples. Samples without an instant are left
out. -/
def byInstant (samples : List Sample) : List (Int × List Amount) :=
  samples.foldl (fun groups s =>
    match s.instant with
    | some instant => addAt instant s.value groups
    | none => groups) []

theorem mem_instants_addAt (t instant : Int) (value : Amount) (groups : List (Int × List Amount)) :
    t ∈ (addAt instant value groups).map (·.1) ↔ t = instant ∨ t ∈ groups.map (·.1) := by
  induction groups with
  | nil => simp [addAt]
  | cons group rest ih =>
    simp only [addAt]
    split
    · rename_i h
      simp [← h]
    · split
      · simp
      · simp only [List.map_cons, List.mem_cons, ih]
        exact or_left_comm

theorem pairwise_instants_addAt (instant : Int) (value : Amount)
    {groups : List (Int × List Amount)} (h : (groups.map (·.1)).Pairwise (· < ·)) :
    ((addAt instant value groups).map (·.1)).Pairwise (· < ·) := by
  induction groups with
  | nil => simp [addAt]
  | cons group rest ih =>
    obtain ⟨t, values⟩ := group
    simp only [List.map_cons, List.pairwise_cons] at h
    simp only [addAt]
    split
    · simpa using h
    · rename_i differs
      split
      · rename_i before
        simp only [List.map_cons, List.pairwise_cons, List.mem_cons]
        refine ⟨?_, h⟩
        rintro u (rfl | hu)
        · exact before
        · exact Int.lt_trans before (h.1 u hu)
      · rename_i after
        simp only [List.map_cons, List.pairwise_cons]
        refine ⟨fun u hu => ?_, ih h.2⟩
        rcases (mem_instants_addAt u instant value rest).1 hu with rfl | hu
        · omega
        · exact h.1 u hu

theorem pairwise_instants_byInstant (samples : List Sample) :
    ((byInstant samples).map (·.1)).Pairwise (· < ·) := by
  have keeps : ∀ (samples : List Sample) (groups : List (Int × List Amount)),
      (groups.map (·.1)).Pairwise (· < ·) →
      ((samples.foldl (fun groups s =>
        match s.instant with
        | some instant => addAt instant s.value groups
        | none => groups) groups).map (·.1)).Pairwise (· < ·) := by
    intro samples
    induction samples with
    | nil => exact fun _ h => h
    | cons s rest ih =>
      intro groups h
      rw [List.foldl_cons]
      apply ih
      split
      · exact pairwise_instants_addAt _ _ h
      · exact h
  exact keeps samples [] .nil

/-- What the samples of one instant add up to. -/
structure Total where
  instant : Int
  value : Amount

def totals (samples : List Sample) : List Total :=
  (byInstant samples).map fun (instant, values) => ⟨instant, sum values⟩

def microsOf (nanos : Int) : Int := nanos / 1000

def Total.toPoint (t : Total) : Point :=
  ⟨.ofInstant (microsOf t.instant), t.value.float⟩

/-- The written form of nanoseconds, as a moment of UTC. The last three of their nine places are
left out where they are zero. -/
def instantText (nanos : Int) : String :=
  let rest := nanos % 1000000000
  if rest % 1000 = 0 then (Moment.ofInstant (microsOf nanos)).iso
  else (Moment.mk (microsOf (nanos - rest)) false .naive).iso ++ "." ++ padded 9 rest.toNat ++
    offsetText 0

end AnomalyWindows.Series
