import Mathlib.Data.List.Induction
import StreetConsole.Worker

/-!
# Jobs and their loops

**Theorem (`same_loop_iff`).** Whatever has happened before, two jobs are run in one loop exactly if
the worker is running when the first of them comes and is not stopped between the two.

What a step does is said once (`step_cases`). A worker is running if it has been started and not been
stopped since (`running_after_iff`), and until it is stopped it does not change
(`after_of_running`). Once it has been stopped, or a job has been run in the foreground, all later
loops have greater numbers: this is the invariant `From`, which each step keeps. So no loop is ever
taken up again.
-/

namespace StreetConsole.Worker

/-- What may happen to a worker. -/
inductive Step where
  | ensure
  | stop
  | job
deriving DecidableEq, Repr

/-- The worker after a step. -/
def step (w : Worker) : Step → Worker
  | .ensure => w.ensure
  | .stop => w.stop
  | .job => w.afterJob

/-- The worker after several steps. -/
def after (w : Worker) (steps : List Step) : Worker := steps.foldl step w

theorem after_append (w : Worker) (before later : List Step) :
    w.after (before ++ later) = (w.after before).after later := List.foldl_append

variable {w : Worker} {s : Step} {steps : List Step} {n : Nat}

/-! ## One step -/

/-- What a step does. -/
theorem step_cases (w : Worker) (s : Step) :
    w.running = true ∧ s ≠ .stop ∧ w.step s = w ∨
    s = .stop ∧ w.step s = ⟨none, w.made⟩ ∨
    w.running = false ∧ s = .ensure ∧ w.step s = ⟨some w.made, w.made + 1⟩ ∨
    w.running = false ∧ s = .job ∧ w.step s = ⟨none, w.made + 1⟩ := by
  obtain ⟨loop, made⟩ := w
  cases loop with
  | some m => cases s <;> simp [step, ensure, stop, afterJob, running]
  | none => cases s <;> simp [step, ensure, stop, afterJob, running]

theorem step_of_running (h : w.running = true) (hs : s ≠ .stop) : w.step s = w := by
  rcases step_cases w s with ⟨-, -, hstep⟩ | ⟨hstop, -⟩ | ⟨hidle, -⟩ | ⟨hidle, -⟩
  · exact hstep
  · exact absurd hstop hs
  · simp [hidle] at h
  · simp [hidle] at h

theorem running_step_iff :
    (w.step s).running = true ↔ s = .ensure ∨ s = .job ∧ w.running = true := by
  rcases step_cases w s with ⟨h, hs, hstep⟩ | ⟨rfl, hstep⟩ | ⟨h, rfl, hstep⟩ | ⟨h, rfl, hstep⟩
  · rw [hstep]
    cases s with
    | ensure => simp [h]
    | stop => exact absurd rfl hs
    | job => simp [h]
  · simp [hstep, running]
  · simp [hstep, running]
  · rw [hstep, h]
    simp [running]

/-! ## While it is running -/

/-- A worker that is running stays as it is until it is stopped. -/
theorem after_of_running (h : w.running = true) (hsteps : Step.stop ∉ steps) :
    w.after steps = w := by
  induction steps with
  | nil => rfl
  | cons s steps ih =>
    rw [List.mem_cons, not_or] at hsteps
    show (w.step s).after steps = w
    rw [step_of_running h (Ne.symm hsteps.1)]
    exact ih hsteps.2

/-- A worker is running if it has been started and not been stopped since. -/
theorem running_after_iff :
    (idle.after steps).running = true ↔
      ∃ before later, steps = before ++ .ensure :: later ∧ Step.stop ∉ later := by
  constructor
  · intro h
    induction steps using List.reverseRecOn with
    | nil => cases h
    | append_singleton steps s ih =>
      rw [after_append] at h
      rcases running_step_iff.1 h with rfl | ⟨rfl, hbefore⟩
      · exact ⟨steps, [], rfl, List.not_mem_nil⟩
      · obtain ⟨before, later, rfl, hlater⟩ := ih hbefore
        exact ⟨before, later ++ [.job], by simp, by simp [hlater]⟩
  · rintro ⟨before, later, rfl, hlater⟩
    have hstarted : ((idle.after before).step .ensure).running = true :=
      running_step_iff.2 (Or.inl rfl)
    rw [after_append]
    show (((idle.after before).step .ensure).after later).running = true
    rwa [after_of_running hstarted hlater]

/-! ## Once it is stopped -/

/-- The worker has no loop with a number less than `n`, and never will. -/
structure From (n : Nat) (w : Worker) : Prop where
  made : n ≤ w.made
  loop : ∀ m, w.loop = some m → n ≤ m

theorem From.of_loop_eq_none (hloop : w.loop = none) (hmade : n ≤ w.made) : From n w :=
  ⟨hmade, by simp [hloop]⟩

theorem From.le_nextLoop (h : From n w) : n ≤ w.nextLoop := by
  unfold nextLoop
  cases hloop : w.loop with
  | none => exact h.made
  | some m => exact h.loop m hloop

theorem From.step (h : From n w) (s : Step) : From n (w.step s) := by
  rcases step_cases w s with ⟨-, -, hstep⟩ | ⟨-, hstep⟩ | ⟨-, -, hstep⟩ | ⟨-, -, hstep⟩
  · rwa [hstep]
  · rw [hstep]
    exact .of_loop_eq_none rfl h.made
  · rw [hstep]
    refine ⟨Nat.le_succ_of_le h.made, fun m hm => ?_⟩
    cases hm
    exact h.made
  · rw [hstep]
    exact .of_loop_eq_none rfl (Nat.le_succ_of_le h.made)

theorem From.after (h : From n w) (steps : List Step) : From n (w.after steps) := by
  induction steps generalizing w with
  | nil => exact h
  | cons s steps ih => exact ih (h.step s)

/-- The loop of a worker that is running has been made. -/
def Sound (w : Worker) : Prop := ∀ m, w.loop = some m → m < w.made

theorem Sound.step (h : w.Sound) (s : Step) : (w.step s).Sound := by
  rcases step_cases w s with ⟨-, -, hstep⟩ | ⟨-, hstep⟩ | ⟨-, -, hstep⟩ | ⟨-, -, hstep⟩
  · rwa [hstep]
  · simp [hstep, Sound]
  · simp [hstep, Sound]
  · simp [hstep, Sound]

theorem sound_after_idle (steps : List Step) : (idle.after steps).Sound := by
  induction steps using List.reverseRecOn with
  | nil => simp [after, idle, Sound]
  | append_singleton steps s ih =>
    rw [after_append]
    exact ih.step s

/-- Once a worker that was running has been stopped, its loop is older than all that follow. -/
theorem nextLoop_lt_after_stop (hsound : w.Sound) (h : w.running = true) (steps : List Step) :
    w.nextLoop < (w.stop.after steps).nextLoop := by
  obtain ⟨m, hm⟩ := Option.isSome_iff_exists.1 h
  have hnext : w.nextLoop = m := by rw [nextLoop, hm, Option.getD_some]
  have hstopped : From (m + 1) w.stop := .of_loop_eq_none rfl (hsound m hm)
  rw [hnext]
  exact (hstopped.after steps).le_nextLoop

/-- The loop of a job in the foreground is older than all that follow. -/
theorem nextLoop_lt_after_job (h : w.running = false) (steps : List Step) :
    w.nextLoop < (w.afterJob.after steps).nextLoop := by
  have hnone : w.loop = none := by simpa [running] using h
  have hnext : w.nextLoop = w.made := by rw [nextLoop, hnone, Option.getD_none]
  have hjob : From (w.made + 1) w.afterJob := by
    rw [afterJob, if_neg (by simp [h])]
    exact .of_loop_eq_none hnone (Nat.le_refl _)
  rw [hnext]
  exact (hjob.after steps).le_nextLoop

/-- **Two jobs are run in one loop exactly if the worker is running when the first of them comes and
is not stopped between the two.** -/
theorem same_loop_iff (before between : List Step) :
    let w := idle.after before
    (w.afterJob.after between).nextLoop = w.nextLoop ↔
      w.running = true ∧ Step.stop ∉ between := by
  intro w
  cases hrunning : w.running with
  | true =>
    have hjob : w.afterJob = w := if_pos hrunning
    rw [hjob]
    constructor
    · intro h
      refine ⟨rfl, fun hstop => ?_⟩
      -- Up to the first stop the worker is as it was.
      obtain ⟨early, late, rfl, hearly⟩ := List.eq_append_cons_of_mem hstop
      rw [after_append, after_of_running hrunning hearly] at h
      exact absurd h
        (Nat.ne_of_gt (nextLoop_lt_after_stop (sound_after_idle before) hrunning late))
    · rintro ⟨-, hstop⟩
      rw [after_of_running hrunning hstop]
  | false =>
    have hnew : (w.afterJob.after between).nextLoop ≠ w.nextLoop :=
      Nat.ne_of_gt (nextLoop_lt_after_job hrunning between)
    simp [hnew]

end StreetConsole.Worker
