import AnomalyWindows.Run
import AnomalyWindows.Surroundings.Traced
import Mathlib.Data.List.Induction

namespace AnomalyWindows.Proofs.WindowAnswers

open AnomalyWindows.Run

variable {σ : Type}

def answerTo (around : Surroundings σ) (r : Run) (w : Window) (s : σ) :
    Except Fault (List Finding) × σ :=
  let given := (around.detect r.detector w r.detection.metricUrn).apply s
  (answered given.1, given.2)

/-- What windows come to when they are asked about in turn, from a world on. -/
def answers (around : Surroundings σ) (r : Run) :
    List Window → σ → List (Except Fault (List Finding))
  | [], _ => []
  | w :: rest, s =>
      (answerTo around r w s).1 :: answers around r rest (answerTo around r w s).2

def worldBehind (around : Surroundings σ) (r : Run) : List Window → σ → σ
  | [], s => s
  | w :: rest, s => worldBehind around r rest (answerTo around r w s).2

theorem answers_length (around : Surroundings σ) (r : Run) (ws : List Window) (s : σ) :
    (answers around r ws s).length = ws.length := by
  induction ws generalizing s with
  | nil => rfl
  | cons w rest ih => simp [answers, ih]

/-- No window among the answers has succeeded. -/
def AllFail (given : List (Except Fault (List Finding))) : Prop :=
  ∀ answer ∈ given, ∃ fault, answer = .error fault

/-- The leading windows up to a limit all fail, and there is a window behind them. -/
def GivesUp (limit : Int) (given : List (Except Fault (List Finding))) : Prop :=
  0 ≤ limit ∧ limit < given.length ∧ AllFail (given.take limit.toNat)

def lastFault (given : List (Except Fault (List Finding))) : Option Fault :=
  match given.getLast? with
  | some (.error fault) => some fault
  | _ => none

def foundIn : Except Fault (List Finding) → List Finding
  | .ok findings => findings
  | .error _ => []

def found (given : List (Except Fault (List Finding))) : List Finding :=
  given.flatMap foundIn

theorem allFail_nil : AllFail [] := by
  intro answer hanswer
  simp at hanswer

theorem allFail_cons_error (fault : Fault) (given : List (Except Fault (List Finding))) :
    AllFail (.error fault :: given) ↔ AllFail given := by
  simp [AllFail]

theorem not_allFail_cons_ok (findings : List Finding)
    (given : List (Except Fault (List Finding))) : ¬ AllFail (.ok findings :: given) := by
  simp [AllFail]

theorem lastFault_concat_error (given : List (Except Fault (List Finding))) (fault : Fault) :
    lastFault (given ++ [.error fault]) = some fault := by
  simp [lastFault]

theorem succeeded_foldl_eq_zero_iff (given : List (Except Fault (List Finding)))
    (p : Progress) :
    (given.foldl Progress.after p).succeeded = 0 ↔ p.succeeded = 0 ∧ AllFail given := by
  induction given generalizing p with
  | nil => simp [allFail_nil]
  | cons answer given ih =>
      rw [List.foldl_cons, ih]
      cases answer with
      | error fault => simp [Progress.after, allFail_cons_error]
      | ok findings => simp [Progress.after, not_allFail_cons_ok]

theorem findings_foldl (given : List (Except Fault (List Finding))) (p : Progress) :
    (given.foldl Progress.after p).findings = p.findings ++ found given := by
  induction given generalizing p with
  | nil => simp [found]
  | cons answer given ih =>
      rw [List.foldl_cons, ih]
      cases answer with
      | error fault => simp [Progress.after, found, foundIn]
      | ok findings => simp [Progress.after, found, foundIn]

theorem lastFault_foldl (given : List (Except Fault (List Finding))) (hfail : AllFail given) :
    (given.foldl Progress.after {}).lastFault = lastFault given := by
  induction given using List.reverseRecOn with
  | nil => rfl
  | append_singleton given answer _ =>
      obtain ⟨fault, rfl⟩ := hfail answer (by simp)
      rw [lastFault_concat_error, List.foldl_append]
      rfl

theorem tryWindow_apply (around : Surroundings σ) (r : Run) (w : WindowRun) (l : Logged σ) :
    ∃ log, (tryWindow around r w).apply l =
      (.ok (answerTo around r w.window l.world).1,
        ⟨(answerTo around r w.window l.world).2, log⟩) := by
  simp only [tryWindow, Logged.note, Logged.outside, Act.apply_bind, Act.apply_change,
    Act.apply_attempt, Act.apply_within, Act.apply_pure]
  exact ⟨_, rfl⟩

theorem tryWindows_cons (around : Surroundings σ) (r : Run) (total index : Nat)
    (p : Progress) (w : Window) (rest : List Window) (l : Logged σ)
    (hgoes : r.givesUp index p = false) :
    ∃ log, (tryWindows around r total index p (w :: rest)).apply l =
      (tryWindows around r total (index + 1) (p.after (answerTo around r w l.world).1)
        rest).apply ⟨(answerTo around r w l.world).2, log⟩ := by
  obtain ⟨log, hwindow⟩ := tryWindow_apply around r
    ⟨r.detection.id, r.detection.metricUrn, index + 1, total, w⟩ l
  refine ⟨log, ?_⟩
  rw [tryWindows]
  simp only [hgoes, Bool.false_eq_true, if_false, Act.apply_bind, hwindow]

theorem givesUp_eq_false_of_ne (r : Run) (index : Nat) (p : Progress)
    (hindex : (index : Int) ≠ r.scheduling.earlyTerminateWindow) :
    r.givesUp index p = false := by
  simp [givesUp, hindex]

/-- When the windows up to the limit all fail, the loop stops in front of the next one. The
induction is on the windows; the limit lies `ahead` windows further on. -/
theorem tryWindows_of_failing (around : Surroundings σ) (r : Run) (total : Nat)
    (ws : List Window) (index ahead : Nat) (p : Progress) (l : Logged σ)
    (hnone : p.succeeded = 0)
    (hlimit : r.scheduling.earlyTerminateWindow = (index + ahead : Nat))
    (hahead : ahead < ws.length)
    (hfail : AllFail ((answers around r ws l.world).take ahead)) :
    ∃ log, (tryWindows around r total index p ws).apply l =
      (.error (.aborted (r.abort total)
          (((answers around r ws l.world).take ahead).foldl Progress.after p).lastFault),
        ⟨worldBehind around r (ws.take ahead) l.world, log⟩) := by
  induction ws generalizing index ahead p l with
  | nil => simp at hahead
  | cons w rest ih =>
      cases ahead with
      | zero =>
          have hstop : r.givesUp index p = true := by
            simp [givesUp, hlimit, hnone]
          rw [tryWindows]
          simp only [hstop, if_true, Act.apply_bind, Act.apply_throw]
          exact ⟨l.log, rfl⟩
      | succ ahead =>
          have hgoes := givesUp_eq_false_of_ne r index p (by omega)
          obtain ⟨log, hstep⟩ := tryWindows_cons around r total index p w rest l hgoes
          rw [hstep]
          simp only [answers, List.take_succ_cons] at hfail ⊢
          obtain ⟨fault, hfault⟩ := hfail _ (List.mem_cons_self ..)
          rw [hfault, allFail_cons_error] at hfail
          have hnone' : (p.after (answerTo around r w l.world).1).succeeded = 0 := by
            rw [hfault]
            exact hnone
          exact ih (index + 1) ahead _ _ hnone' (by omega) (by simpa using hahead) hfail

theorem tryWindows_of_going (around : Surroundings σ) (r : Run) (total : Nat)
    (ws : List Window) (index : Nat) (p : Progress) (l : Logged σ)
    (hgoes : ∀ ahead < ws.length,
      r.scheduling.earlyTerminateWindow = (index + ahead : Nat) →
        p.succeeded ≠ 0 ∨ ¬ AllFail ((answers around r ws l.world).take ahead)) :
    ∃ log, (tryWindows around r total index p ws).apply l =
      (.ok ((answers around r ws l.world).foldl Progress.after p),
        ⟨worldBehind around r ws l.world, log⟩) := by
  induction ws generalizing index p l with
  | nil => exact ⟨l.log, rfl⟩
  | cons w rest ih =>
      have hhere : r.givesUp index p = false := by
        by_cases hindex : (index : Int) = r.scheduling.earlyTerminateWindow
        · rcases hgoes 0 (by simp) hindex.symm with hsome | hfail
          · simp [givesUp, hsome]
          · exact absurd allFail_nil hfail
        · exact givesUp_eq_false_of_ne r index p hindex
      obtain ⟨log, hstep⟩ := tryWindows_cons around r total index p w rest l hhere
      rw [hstep]
      refine ih (index + 1) _ ⟨_, log⟩ fun ahead hahead hlimit => ?_
      have hlater := hgoes (ahead + 1) (by simpa using hahead) (by omega)
      simp only [answers, List.take_succ_cons] at hlater
      cases hanswer : (answerTo around r w l.world).1 with
      | ok findings => exact .inl (by simp [Progress.after])
      | error fault => simpa only [hanswer, allFail_cons_error, Progress.after] using hlater

/-- Surroundings with a series whose detector gives prepared answers in turn, and no items behind
the last one. -/
def scripted (points : List Point) :
    Surroundings (List (Except Fault (Option (List Finding)))) where
  metric _ := pure none
  dataset _ := pure none
  series _ := pure points
  detectors := []
  detect _ _ _ := Act.ofFunction fun script =>
    (script.headD (.ok (some [])), script.tail)

theorem answers_scripted (points : List Point) (r : Run) (ws : List Window)
    (script : List (Except Fault (Option (List Finding)))) (hlength : ws.length = script.length) :
    answers (scripted points) r ws script = script.map answered := by
  induction ws generalizing script with
  | nil =>
      have hnone : script = [] := List.eq_nil_of_length_eq_zero hlength.symm
      subst hnone
      rfl
  | cons w rest ih =>
      cases script with
      | nil => simp at hlength
      | cons answer script =>
          rw [List.map_cons, ← ih script (by simpa using hlength)]
          rfl

def inquiryAbout (r : Run) (w : Window) : Inquiry :=
  .detect r.detector w r.detection.metricUrn

theorem answerTo_traced (around : Surroundings σ) (r : Run) (w : Window) (t : Traced σ) :
    answerTo around.traced r w t =
      ((answerTo around r w t.world).1,
        ⟨(answerTo around r w t.world).2, inquiryAbout r w :: t.record⟩) := rfl

theorem answers_traced (around : Surroundings σ) (r : Run) (ws : List Window)
    (t : Traced σ) : answers around.traced r ws t = answers around r ws t.world := by
  induction ws generalizing t with
  | nil => rfl
  | cons w rest ih => simp only [answers, answerTo_traced, ih]

theorem worldBehind_traced (around : Surroundings σ) (r : Run) (ws : List Window)
    (t : Traced σ) :
    worldBehind around.traced r ws t =
      ⟨worldBehind around r ws t.world, (ws.map (inquiryAbout r)).reverse ++ t.record⟩ := by
  induction ws generalizing t with
  | nil => rfl
  | cons w rest ih => simp [worldBehind, answerTo_traced, ih]

theorem inquiries_worldBehind_traced (around : Surroundings σ) (r : Run) (ws : List Window)
    (t : Traced σ) :
    (worldBehind around.traced r ws t).inquiries = t.inquiries ++ ws.map (inquiryAbout r) := by
  simp [worldBehind_traced, Traced.inquiries]

end AnomalyWindows.Proofs.WindowAnswers
