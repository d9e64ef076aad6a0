import AnomalyWindows.Proofs.DerivedPolicies

namespace AnomalyWindows.Proofs.StablePolicies

open Calendar
open AnomalyWindows.WindowPolicy
open AnomalyWindows.Proofs.CalendarMoves AnomalyWindows.Proofs.DerivedPolicies

/-- A bucket that is small enough for the speed-up, over an interval that is long enough. -/
def Collapses (bucket : Period) (interval : Interval) (s : Scheduling) : Prop :=
  bucket.total ≤ s.speedUpMaxBucket ∧ s.speedUpMinSpan ≤ interval.span
  deriving Decidable

theorem not_collapses_iff {bucket : Period} {interval : Interval} {s : Scheduling} :
    ¬ Collapses bucket interval s ↔
      s.speedUpMaxBucket < bucket.total ∨ interval.span < s.speedUpMinSpan := by
  rw [Collapses, not_and_or, Int.not_le, Int.not_le]

/-- What the speed-up makes of a policy whose bucket does not last too long. -/
def collapsed (p : WindowPolicy) (interval : Interval) (s : Scheduling) :
    WindowPolicy × Option SpeedUp :=
  if Collapses p.bucketPeriod interval s
    then (p.withDailyBuckets, some ⟨p.bucketPeriod, interval.span⟩) else (p, none)

section SpeedUp

variable {p : WindowPolicy} {interval : Interval} {s : Scheduling}

theorem speedUp_of_spans (hspans : Spans p.bucketPeriod.total) :
    p.speedUp interval s = .ok (collapsed p interval s) := by
  rw [speedUp, speedUpApplies, Period.duration, checkedDuration_eq_ok_iff.mpr ⟨hspans, rfl⟩,
    collapsed]
  by_cases hcollapses : Collapses p.bucketPeriod interval s
  · rw [if_pos hcollapses]
    exact if_pos (by simpa [Collapses] using hcollapses)
  · rw [if_neg hcollapses]
    exact if_neg (by simpa [Collapses] using hcollapses)

theorem speedUp_eq_ok_iff {result : WindowPolicy × Option SpeedUp} :
    p.speedUp interval s = .ok result ↔
      Spans p.bucketPeriod.total ∧ result = collapsed p interval s := by
  by_cases hspans : Spans p.bucketPeriod.total
  · rw [speedUp_of_spans hspans, Except.ok.injEq, eq_comm, and_iff_right hspans]
  · rw [speedUp_eq_error_iff.mpr ⟨rfl, hspans⟩]
    exact iff_of_false nofun fun h => hspans h.1

theorem speedUp_withDailyBuckets (p : WindowPolicy) (interval : Interval) (s : Scheduling) :
    ∃ again, p.withDailyBuckets.speedUp interval s = .ok (p.withDailyBuckets, again) := by
  have hday : Spans p.withDailyBuckets.bucketPeriod.total :=
    show Spans (Period.of 1 .days).total by decide
  rw [speedUp_of_spans hday, collapsed]
  split
  · exact ⟨_, rfl⟩
  · exact ⟨_, rfl⟩

end SpeedUp

/-- Policies that agree in all that the speed-up leaves alone. -/
structure SameBesideBuckets (p q : WindowPolicy) : Prop where
  timezone : p.timezone = q.timezone
  datasetUnit : p.datasetUnit = q.datasetUnit
  frequency : p.frequency = q.frequency
  windowDelay : p.windowDelay = q.windowDelay
  windowDelayUnit : p.windowDelayUnit = q.windowDelayUnit
  cachingLookback : p.cachingLookback = q.cachingLookback
  maxMinuteFrequency : p.maxMinuteFrequency = q.maxMinuteFrequency

theorem sameBesideBuckets_collapsed (p : WindowPolicy) (interval : Interval) (s : Scheduling) :
    SameBesideBuckets (collapsed p interval s).1 p := by
  rw [collapsed]
  split
  · exact ⟨rfl, rfl, rfl, rfl, rfl, rfl, rfl⟩
  · exact ⟨rfl, rfl, rfl, rfl, rfl, rfl, rfl⟩

def withThresholds (s : Scheduling) (maxBucket minSpan : Int) : Scheduling :=
  { s with speedUpMaxBucket := maxBucket, speedUpMinSpan := minSpan }

theorem plain_withThresholds (d : Detection) (dataset : Dataset) (s : Scheduling)
    (maxBucket minSpan : Int) :
    plain d dataset (withThresholds s maxBucket minSpan) = plain d dataset s := rfl

theorem ownWindows_of_plain {d : Detection} {dataset : Dataset} {s : Scheduling} {p : WindowPolicy}
    (h : plain d dataset s = .ok p) :
    p.spedUp = false ∧ p.windowSize = d.windowSize ∧ p.windowUnit = d.windowUnit := by
  obtain ⟨bucket, -, h⟩ := bind_eq_ok_iff.mp h
  obtain rfl := Except.ok.inj h
  exact ⟨rfl, rfl, rfl⟩

/-- A derived policy is stable under the speed-up. With thresholds that keep the speed-up away it
differs in its bucket and its windows at most. A policy that was sped up has windows of one day that
step by one day; another one has the windows of the detection and the bucket that the detection
names or its dataset leads to, and the bucket is too long or the interval too short for the
speed-up. -/
theorem derive_stable {d : Detection} {dataset : Dataset} {interval : Interval} {s : Scheduling}
    {p : WindowPolicy} {replaced : Option SpeedUp}
    (h : derive d dataset interval s = .ok (p, replaced)) :
    ∃ bucket, bucketFor d dataset.granularity.unit s = .ok bucket ∧
      (∃ again, p.speedUp interval s = .ok (p, again)) ∧
      (∀ maxBucket minSpan, ¬ Collapses bucket interval (withThresholds s maxBucket minSpan) →
        ∃ q, derive d dataset interval (withThresholds s maxBucket minSpan) = .ok (q, none) ∧
          SameBesideBuckets p q) ∧
      (p.spedUp = true → p.bucketPeriod = .of 1 .days ∧ p.windowSize = 1 ∧ p.windowUnit = .days ∧
        Collapses bucket interval s) ∧
      (p.spedUp = false → p.bucketPeriod = bucket ∧ p.windowSize = d.windowSize ∧
        p.windowUnit = d.windowUnit ∧
        (s.speedUpMaxBucket < bucket.total ∨ interval.span < s.speedUpMinSpan)) := by
  obtain ⟨own, hplain, h⟩ := bind_eq_ok_iff.mp h
  obtain ⟨hspans, hresult⟩ := speedUp_eq_ok_iff.mp h
  obtain ⟨hnotYet, hsize, hunit⟩ := ownWindows_of_plain hplain
  obtain rfl : p = (collapsed own interval s).1 := congrArg Prod.fst hresult
  refine ⟨own.bucketPeriod, bucketFor_of_plain hplain, ?_, fun maxBucket minSpan hkept => ?_, ?_⟩
  · rw [collapsed]
    split
    · exact speedUp_withDailyBuckets own interval s
    · next hkept => exact ⟨none, by rw [speedUp_of_spans hspans, collapsed, if_neg hkept]⟩
  · refine ⟨own, ?_, sameBesideBuckets_collapsed own interval s⟩
    rw [derive, plain_withThresholds, hplain]
    refine (speedUp_of_spans hspans).trans ?_
    rw [collapsed, if_neg hkept]
  · rw [collapsed]
    split
    · next hcollapses =>
        exact ⟨fun _ => ⟨rfl, rfl, rfl, hcollapses⟩, fun h => absurd h.symm Bool.false_ne_true⟩
    · next hkept =>
        refine ⟨fun hsped => ?_, fun _ => ⟨rfl, hsize, hunit, not_collapses_iff.mp hkept⟩⟩
        rw [hnotYet] at hsped
        cases hsped

/-- Windows of seven hours every five minutes, on a dataset in New York. -/
def fiveMinutes : Detection where
  name := "spikes"
  metricUrn := "slidewatch:metric:1"
  detector := "$zscore"
  windowSize := 7
  windowUnit := .hours
  windowDelay := 2
  bucketPeriod := some "PT5M"

def newYorkMinutes : Dataset where
  name := "site"
  granularity := ⟨1, .minutes⟩
  timezone := "America/New_York"

def ownWindows : WindowPolicy where
  timezone := "America/New_York"
  datasetUnit := .minutes
  frequency := ⟨15, .minutes⟩
  bucketPeriod := .of 5 .minutes
  windowSize := 7
  windowUnit := .hours
  windowDelay := 2

/-- Their policy over three days, which are long enough for the speed-up. -/
def spedUpWindows : WindowPolicy where
  timezone := "America/New_York"
  datasetUnit := .minutes
  frequency := ⟨15, .minutes⟩
  bucketPeriod := .of 1 .days
  windowDelay := 2
  spedUp := true

/-- No interval is as long as the longest duration, so that the speed-up is kept away. -/
theorem fiveMinutes_stable :
    let interval : Interval := ⟨.ofInstant 0, .ofInstant (3 * day)⟩
    let s : Scheduling := {}
    let kept := withThresholds s s.speedUpMaxBucket longestDuration
    derive fiveMinutes newYorkMinutes interval s =
      .ok (spedUpWindows, some ⟨.of 5 .minutes, 3 * day⟩) ∧
    (∃ again, spedUpWindows.speedUp interval s = .ok (spedUpWindows, again)) ∧
    ¬ Collapses (.of 5 .minutes) interval kept ∧
    ∃ q, derive fiveMinutes newYorkMinutes interval kept = .ok (q, none) ∧
      SameBesideBuckets spedUpWindows q := by
  intro interval s kept
  have hfive : bucketFor fiveMinutes .minutes s = .ok (.of 5 .minutes) := rfl
  have hplain : plain fiveMinutes newYorkMinutes s = .ok ownWindows := rfl
  have hspans : Spans ownWindows.bucketPeriod.total := by decide
  have hcollapsed : collapsed ownWindows interval s =
      (spedUpWindows, some ⟨.of 5 .minutes, 3 * day⟩) := by
    rw [collapsed, if_pos (by decide)]
    rfl
  have hderive : derive fiveMinutes newYorkMinutes interval s =
      .ok (spedUpWindows, some ⟨.of 5 .minutes, 3 * day⟩) :=
    bind_eq_ok_iff.mpr ⟨_, hplain, hcollapsed ▸ speedUp_of_spans hspans⟩
  have hkept : ¬ Collapses (.of 5 .minutes) interval kept := by decide
  obtain ⟨bucket, hbucket, hstable, hsame, -⟩ := derive_stable hderive
  obtain rfl := Except.ok.inj (hfive.symm.trans hbucket)
  exact ⟨hderive, hstable, hkept, hsame _ _ hkept⟩

end AnomalyWindows.Proofs.StablePolicies
