import AnomalyWindows.Execution
import AnomalyWindows.Proofs.RunVerdict

namespace AnomalyWindows.Proofs.RunSetup

open Calendar
open AnomalyWindows.Run
open AnomalyWindows.Proofs.WindowAnswers AnomalyWindows.Proofs.RunVerdict

variable {σ : Type}

theorem apply_bind_eq_ok_iff {α β : Type} {a : Act σ α} {f : α → Act σ β} {b : β} {s s' : σ} :
    (a >>= f).apply s = (.ok b, s') ↔
      ∃ x s₁, a.apply s = (.ok x, s₁) ∧ (f x).apply s₁ = (.ok b, s') := by
  rw [Act.apply_bind]
  rcases a.apply s with ⟨_ | _, _⟩ <;> simp

theorem apply_bind_eq_error_iff {α β : Type} {a : Act σ α} {f : α → Act σ β} {fault : Fault}
    {s s' : σ} :
    (a >>= f).apply s = (.error fault, s') ↔
      a.apply s = (.error fault, s') ∨
        ∃ x s₁, a.apply s = (.ok x, s₁) ∧ (f x).apply s₁ = (.error fault, s') := by
  rw [Act.apply_bind]
  rcases a.apply s with ⟨_ | _, _⟩ <;> simp

structure Parts where
  entity : MetricEntity
  metric : Metric
  dataset : Dataset

def lookUp (around : Surroundings σ) (d : Detection) : Act (Logged σ) Parts := do
  let entity ← Act.ofResult (entityOf d)
  let metric ← Logged.outside (around.metric entity.id)
  let metric ← Act.ofResult (configured (.metricNotFound d.name entity.id) metric)
  let dataset ← Logged.outside (around.dataset metric.dataset)
  let dataset ← Act.ofResult (configured (.datasetNotFound d.name metric.dataset) dataset)
  if !around.detectors.contains d.detectorName then
    throw (.configuration (.detectorNotRegistered d.name d.detectorName))
  return ⟨entity, metric, dataset⟩

def settle [ZoneDatabase] (d : Detection) (interval : Interval) (s : Scheduling) (parts : Parts) :
    Act (Logged σ) Run := do
  let (policy, replaced) ← Act.ofResult (policyOf d parts.dataset interval s)
  Logged.notes (speedUpEntries replaced)
  Act.ofResult (checkZone d policy.timezone)
  Act.ofResult (checkZone d parts.dataset.timezone)
  return {
    detection := d, interval, scheduling := s, entity := parts.entity, metric := parts.metric
    dataset := parts.dataset, policy }

theorem prepare_eq [ZoneDatabase] (around : Surroundings σ) (d : Detection) (interval : Interval)
    (s : Scheduling) :
    prepare around d interval s = lookUp around d >>= settle d interval s := by
  simp only [prepare, lookUp, bind_assoc]
  refine bind_congr fun entity => bind_congr fun metric => bind_congr fun metric => ?_
  refine bind_congr fun dataset => bind_congr fun dataset => ?_
  by_cases hmissing : (!around.detectors.contains d.detectorName) = true
  · rw [if_pos hmissing, if_pos hmissing]
    rfl
  · rw [if_neg hmissing, if_neg hmissing, pure_bind]
    rfl

theorem checkZone_eq_ok [ZoneDatabase] {d : Detection} {zone : String}
    (h : checkZone d zone = .ok ()) :
    ∃ z, Calendar.zoneNamed zone = .ok z := by
  rw [checkZone] at h
  split at h
  · next z hzone => exact ⟨z, hzone⟩
  all_goals cases h

theorem checkZone_eq_error [ZoneDatabase] {d : Detection} {zone : String} {fault : Fault}
    (h : checkZone d zone = .error fault) :
    (∃ cause, fault = .configuration cause) ∨
      ∃ name, Calendar.zoneNamed zone = .error (.unreadableZone name) ∧
        fault = .unreadableZone name := by
  rw [checkZone] at h
  split at h
  · cases h
  · next name hzone => exact .inr ⟨name, hzone, (Except.error.inj h).symm⟩
  · exact .inl ⟨_, (Except.error.inj h).symm⟩

theorem policyOf_eq_ok {d : Detection} {dataset : Dataset} {interval : Interval} {s : Scheduling}
    {policy : WindowPolicy × Option WindowPolicy.SpeedUp}
    (h : policyOf d dataset interval s = .ok policy) :
    WindowPolicy.derive d dataset interval s = .ok policy := by
  rw [policyOf] at h
  split at h
  · next hderive => exact Except.ok.inj h ▸ hderive
  · split at h <;> cases h

/-- A run that is ready for a detection over an interval: its policy is derived for its dataset, the
zone of which is known. -/
structure Ready [ZoneDatabase] (d : Detection) (extent : Interval) (s : Scheduling) (r : Run) : Prop
    where
  interval : r.interval = extent
  policy : ∃ replaced, WindowPolicy.derive d r.dataset extent s = .ok (r.policy, replaced)
  datasetZone : ∃ z, Calendar.zoneNamed r.dataset.timezone = .ok z

theorem ready_of_settle [ZoneDatabase] {d : Detection} {interval : Interval} {s : Scheduling}
    {parts : Parts}
    {r : Run} {l l' : Logged σ} (h : (settle d interval s parts).apply l = (.ok r, l')) :
    Ready d interval s r ∧ l'.world = l.world := by
  obtain ⟨⟨policy, replaced⟩, l₁, hpolicy, h⟩ := apply_bind_eq_ok_iff.mp h
  obtain ⟨_, l₂, hnotes, h⟩ := apply_bind_eq_ok_iff.mp h
  obtain ⟨_, l₃, hzone, h⟩ := apply_bind_eq_ok_iff.mp h
  obtain ⟨_, l₄, hdatasetZone, h⟩ := apply_bind_eq_ok_iff.mp h
  rw [Act.apply_ofResult, Prod.mk.injEq] at hpolicy hzone hdatasetZone
  rw [Logged.notes, Act.apply_change, Prod.mk.injEq] at hnotes
  rw [Act.apply_pure, Prod.mk.injEq] at h
  obtain ⟨hpolicy, rfl⟩ := hpolicy
  obtain ⟨-, rfl⟩ := hnotes
  obtain ⟨-, rfl⟩ := hzone
  obtain ⟨hdatasetZone, rfl⟩ := hdatasetZone
  obtain ⟨hrun, rfl⟩ := h
  obtain rfl := Except.ok.inj hrun
  exact ⟨⟨rfl, ⟨replaced, policyOf_eq_ok hpolicy⟩, checkZone_eq_ok hdatasetZone⟩, rfl⟩

end AnomalyWindows.Proofs.RunSetup
