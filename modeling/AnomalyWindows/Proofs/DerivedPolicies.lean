import AnomalyWindows.Proofs.WindowPerAnchor

namespace AnomalyWindows.Proofs.DerivedPolicies

open Calendar
open AnomalyWindows.WindowPolicy
open AnomalyWindows.Proofs.CalendarMoves AnomalyWindows.Proofs.AnchorWalk
open AnomalyWindows.Proofs.ZoneReading AnomalyWindows.Proofs.WalkEnds
open AnomalyWindows.Proofs.WindowPerAnchor

theorem fieldOf_nonneg {digits : Option (List Nat)} {n : Int}
    (h : Period.fieldOf digits = .ok n) : 0 ≤ n := by
  cases digits with
  | none => exact Int.le_of_eq (Except.ok.inj h)
  | some ds =>
      rw [Period.fieldOf, Period.amountOf] at h
      split at h
      · rw [← Except.ok.inj h]
        exact Int.natCast_nonneg _
      · cases h

theorem fieldOf_eq_error {digits : Option (List Nat)} {fault : Fault}
    (h : Period.fieldOf digits = .error fault) : fault.isUnusableValue = true := by
  cases digits with
  | none => cases h
  | some ds =>
      rw [Period.fieldOf, Period.amountOf] at h
      split at h
      · cases h
      · rw [← Except.error.inj h]
        rfl

theorem millisOf_nonneg (digits : List Nat) : 0 ≤ Period.millisOf digits := by
  unfold Period.millisOf
  split <;> omega

theorem forward_of_ofText {text : String} {p : Period} (h : Period.ofText text = .ok p)
    (hpos : 0 < p.total) : Forward p := by
  rw [Period.ofText] at h
  split at h
  · obtain ⟨weeks, hweeks, h⟩ := bind_eq_ok_iff.mp h
    obtain ⟨days, hdays, h⟩ := bind_eq_ok_iff.mp h
    obtain ⟨hours, hhours, h⟩ := bind_eq_ok_iff.mp h
    obtain ⟨minutes, hminutes, h⟩ := bind_eq_ok_iff.mp h
    obtain ⟨seconds, hseconds, h⟩ := bind_eq_ok_iff.mp h
    obtain rfl := Except.ok.inj h
    exact ⟨fieldOf_nonneg hweeks, fieldOf_nonneg hdays, fieldOf_nonneg hhours,
      fieldOf_nonneg hminutes, fieldOf_nonneg hseconds, millisOf_nonneg _, hpos⟩
  · cases h

theorem ofText_eq_error {text : String} {fault : Fault}
    (h : Period.ofText text = .error fault) : fault.isUnusableValue = true := by
  rw [Period.ofText] at h
  split at h
  · simp only [Period.ofDigits, bind_eq_error_iff] at h
    rcases h with h | ⟨_, _, h | ⟨_, _, h | ⟨_, _, h | ⟨_, _, h | ⟨_, _, h⟩⟩⟩⟩⟩
    · exact fieldOf_eq_error h
    · exact fieldOf_eq_error h
    · exact fieldOf_eq_error h
    · exact fieldOf_eq_error h
    · exact fieldOf_eq_error h
    · cases h
  · rw [← Except.error.inj h]
    rfl

theorem forward_bucket_of_pos {unit : TimeUnit} {frequency : Granularity} {maxMinutes : Int}
    (hpos : 0 < (Alignment.bucket unit frequency maxMinutes).total) :
    Forward (Alignment.bucket unit frequency maxMinutes) := by
  unfold Alignment.bucket at hpos ⊢
  split at hpos
  · next hminutes =>
      rw [if_pos hminutes]
      have htotal := hpos
      simp only [Period.total, Period.calendarDays, Period.exact, Period.zero, minute, second,
        hour, day] at htotal
      refine ⟨?_, ?_, ?_, ?_, ?_, ?_, hpos⟩ <;> simp only [Period.zero] <;> omega
  · next hminutes =>
      rw [if_neg hminutes]
      split
      · constructor <;> decide
      · cases unit <;> constructor <;> decide

theorem forward_of_bucketFor {d : Detection} {unit : TimeUnit} {s : Scheduling} {bucket : Period}
    (h : bucketFor d unit s = .ok bucket) (hpos : 0 < bucket.total) : Forward bucket := by
  rw [bucketFor] at h
  split at h
  · exact forward_of_ofText h hpos
  · obtain rfl := Except.ok.inj h
    exact forward_bucket_of_pos hpos

theorem bucketFor_eq_error {d : Detection} {unit : TimeUnit} {s : Scheduling} {fault : Fault}
    (h : bucketFor d unit s = .error fault) : fault.isUnusableValue = true := by
  rw [bucketFor] at h
  split at h
  · exact ofText_eq_error h
  · cases h

theorem bucketFor_of_plain {d : Detection} {dataset : Dataset} {s : Scheduling}
    {p : WindowPolicy} (h : plain d dataset s = .ok p) :
    bucketFor d dataset.granularity.unit s = .ok p.bucketPeriod := by
  obtain ⟨bucket, hbucket, h⟩ := bind_eq_ok_iff.mp h
  obtain rfl := Except.ok.inj h
  exact hbucket

theorem exists_plain {d : Detection} {dataset : Dataset} {s : Scheduling} {bucket : Period}
    (h : bucketFor d dataset.granularity.unit s = .ok bucket) :
    ∃ p, plain d dataset s = .ok p ∧ p.bucketPeriod = bucket := by
  rw [plain, h]
  exact ⟨_, rfl, rfl⟩

theorem speedUp_eq_ok {p q : WindowPolicy} {interval : Interval} {s : Scheduling}
    {replaced : Option SpeedUp} (h : p.speedUp interval s = .ok (q, replaced)) :
    q = p ∨ q = p.withDailyBuckets := by
  obtain ⟨applies, -, h⟩ := bind_eq_ok_iff.mp h
  split at h
  · cases h
    exact .inr rfl
  · cases h
    exact .inl rfl

theorem speedUp_eq_error_iff {p : WindowPolicy} {interval : Interval} {s : Scheduling}
    {fault : Fault} :
    p.speedUp interval s = .error fault ↔
      fault = .outOfRange ∧ ¬ Spans p.bucketPeriod.total := by
  constructor
  · intro h
    rcases bind_eq_error_iff.mp h with h | ⟨applies, -, h⟩
    · rcases bind_eq_error_iff.mp h with h | ⟨bucket, -, h⟩
      · exact (checkedDuration_eq_error_iff.mp h).symm
      · cases h
    · split at h <;> cases h
  · rintro ⟨rfl, hfar⟩
    rw [speedUp, speedUpApplies, Period.duration, checkedDuration_eq_error_iff.mpr ⟨hfar, rfl⟩]
    rfl

theorem forward_oneDay : Forward (.of 1 .days) := by
  constructor <;> decide

/-- The bucket of a detection on datasets of a unit can be read, but lasts too long. -/
def BucketTooLong (d : Detection) (unit : TimeUnit) (s : Scheduling) : Prop :=
  ∃ bucket, bucketFor d unit s = .ok bucket ∧ ¬ Spans bucket.total

theorem forward_of_derive {d : Detection} {dataset : Dataset} {interval : Interval}
    {s : Scheduling} {p : WindowPolicy} {replaced : Option SpeedUp}
    (h : derive d dataset interval s = .ok (p, replaced)) (hpos : 0 < p.bucketPeriod.total) :
    Forward p.bucketPeriod := by
  obtain ⟨q, hplain, h⟩ := bind_eq_ok_iff.mp h
  rcases speedUp_eq_ok h with rfl | rfl
  · exact forward_of_bucketFor (bucketFor_of_plain hplain) hpos
  · exact forward_oneDay

/-- A policy is refused for a bucket that cannot be read, or else for one that lasts too long. -/
theorem derive_eq_error_iff {d : Detection} {dataset : Dataset} {interval : Interval}
    {s : Scheduling} {fault : Fault} :
    derive d dataset interval s = .error fault ↔
      bucketFor d dataset.granularity.unit s = .error fault ∨
        fault = .outOfRange ∧ BucketTooLong d dataset.granularity.unit s := by
  constructor
  · intro h
    rcases bind_eq_error_iff.mp h with h | ⟨p, hplain, h⟩
    · rcases bind_eq_error_iff.mp h with h | ⟨bucket, -, h⟩
      · exact .inl h
      · cases h
    · obtain ⟨hfault, hfar⟩ := speedUp_eq_error_iff.mp h
      exact .inr ⟨hfault, _, bucketFor_of_plain hplain, hfar⟩
  · rintro (h | ⟨hfault, bucket, hbucket, hfar⟩)
    · rw [derive, plain, h]
      rfl
    · obtain ⟨p, hplain, rfl⟩ := exists_plain hbucket
      exact bind_eq_error_iff.mpr (.inr ⟨p, hplain, speedUp_eq_error_iff.mpr ⟨hfault, hfar⟩⟩)

theorem floorMinutes_ne_endless (size : Int) (m : Moment) :
    Alignment.floorMinutes size m ≠ .error .endlessWalk := by
  intro h
  rw [Alignment.floorMinutes] at h
  split at h
  · cases h
  · dsimp only at h
    split at h <;> cases h

theorem zoneNamed_ne_endless [ZoneDatabase] (name : String) : zoneNamed name ≠ .error .endlessWalk
    := by
  intro h
  rw [zoneNamed] at h
  split at h
  · split at h <;> cases h
  · cases h

theorem align_ne_endless [ZoneDatabase] {p : WindowPolicy} {m : Moment} (hm : m.clock = .utc) :
    p.align m ≠ .error .endlessWalk := by
  intro h
  rcases bind_eq_error_iff.mp h with h | ⟨z, -, h⟩
  · exact zoneNamed_ne_endless _ h
  rcases bind_eq_error_iff.mp h with h | ⟨onZone, hconvert, h⟩
  · cases convert_eq_error (isNaive_of_utc hm) h
  obtain rfl := convert_of_utc hm hconvert
  have hz := onZone_onClock z m.instant
  split at h
  · exact floorMinutes_ne_endless _ _ h
  · split at h
    · cases floorTo_eq_error hz h
    · cases floorTo_eq_error hz h

theorem anchors_ne_endless [ZoneDatabase] {a b : Moment} {interval : Interval}
    (hinterval : Interval.ofMoments a b = .ok interval) {p : WindowPolicy}
    (hregular : NamesRegular p.timezone)
    (hforward : 0 < p.bucketPeriod.total → Forward p.bucketPeriod) :
    p.anchors interval ≠ .error .endlessWalk := by
  intro h
  obtain ⟨hstartUtc, hfinishUtc⟩ := clock_bounds hinterval
  have hbucket (hpos : 0 < p.bucketPeriod.total) (z : Zone)
      (hzone : zoneNamed p.timezone = .ok z) : Advances z p.bucketPeriod :=
    advances_of_forward (hregular z hzone) (hforward hpos)
  rcases anchors_eq_error_cases hinterval hregular hbucket h with
    hfault | ⟨-, hfault⟩ | halign | halign
  · cases hfault
  · cases hfault
  · exact align_ne_endless hfinishUtc halign
  · exact align_ne_endless hstartUtc halign

theorem windowAt_ne_endless {p : WindowPolicy} {z : Zone} {anchor : Moment}
    (hanchor : OnZone z anchor) : p.windowAt anchor ≠ .error .endlessWalk := by
  intro h
  rw [windowAt_eq] at h
  rcases bind_eq_error_iff.mp h with h | ⟨bounds, -, h⟩
  · cases boundsAt_eq_error hanchor h
  · rw [Window.ofMoments] at h
    split at h <;> cases h

theorem exists_of_mapM_eq_error {α β : Type} {f : α → Except Fault β} {xs : List α}
    {fault : Fault} (h : xs.mapM f = .error fault) : ∃ x ∈ xs, f x = .error fault := by
  induction xs with
  | nil => cases h
  | cons x xs ih =>
      rw [List.mapM_cons] at h
      rcases bind_eq_error_iff.mp h with h | ⟨y, -, h⟩
      · exact ⟨x, List.mem_cons_self .., h⟩
      rcases bind_eq_error_iff.mp h with h | ⟨rest, -, h⟩
      · obtain ⟨x', hx', hfault⟩ := ih h
        exact ⟨x', List.mem_cons_of_mem x hx', hfault⟩
      · cases h

theorem plan_ne_endless_of_anchors [ZoneDatabase] {a b : Moment} {interval : Interval}
    (hinterval : Interval.ofMoments a b = .ok interval) {p : WindowPolicy}
    (hends : p.anchors interval ≠ .error .endlessWalk) (moving : Bool) :
    WindowPlan.of p interval moving ≠ .fallback .endlessWalk := by
  intro h
  rw [WindowPlan.of] at h
  split at h
  · split at h
    · cases h
    · next reason hreason =>
        obtain rfl := WindowPlan.fallback.inj h
        rcases bind_eq_error_iff.mp hreason with h | ⟨anchors, hanchors, h⟩
        · exact hends h
        obtain ⟨anchor, hanchor, h⟩ := exists_of_mapM_eq_error h
        obtain ⟨start, finish, hstart, -, hwalked⟩ := walked_of_anchors hanchors
        obtain ⟨z, hzone⟩ := exists_zone_of_align hstart
        have honZone := onZone_of_walked
          (onZone_align hzone (clock_bounds hinterval).1 hstart) hwalked
        exact windowAt_ne_endless (honZone anchor hanchor) h
  · cases h

/-- No interval goes without moving windows because the walk of their ends does not end. -/
theorem plan_ne_endless [ZoneDatabase] {a b : Moment} {interval : Interval}
    (hinterval : Interval.ofMoments a b = .ok interval) {p : WindowPolicy}
    (hregular : NamesRegular p.timezone)
    (hforward : 0 < p.bucketPeriod.total → Forward p.bucketPeriod) (moving : Bool) :
    WindowPlan.of p interval moving ≠ .fallback .endlessWalk :=
  plan_ne_endless_of_anchors hinterval (anchors_ne_endless hinterval hregular hforward) moving

end AnomalyWindows.Proofs.DerivedPolicies
