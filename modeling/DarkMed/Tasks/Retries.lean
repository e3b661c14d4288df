import DarkMed.Tasks.Orchestrator

/-!
# The Retry Budget

`fail` sends a task to RETRY as long as its attempts are within `max_retries`.  Retries,
time-outs and recoveries all lead back to QUEUED and to another attempt; the invariant
links the two counters to the history, with an attempt in hand while a task runs.

The calls are the orchestrator's operations without a direct `transition`, which can take
a task from TIMEOUT to RETRY as often as it likes.
-/

namespace DarkMed.Tasks

open Relation

/-! ## The states before a transition -/

/-- QUEUED is reached from three states. -/
theorem of_queued_mem_transitions {s : TaskState} (h : .queued ∈ transitions s) :
    s = .created ∨ s = .retry ∨ s = .recovery := by
  cases s <;> simp [transitions] at h ⊢

/-- RUNNING is reached from QUEUED. -/
theorem of_running_mem_transitions {s : TaskState} (h : .running ∈ transitions s) :
    s = .queued := by
  cases s <;> simp [transitions] at h ⊢

/-- FAILURE is reached from RUNNING. -/
theorem of_failure_mem_transitions {s : TaskState} (h : .failure ∈ transitions s) :
    s = .running := by
  cases s <;> simp [transitions] at h ⊢

/-! ## The budget of a task -/

namespace Task

/-- How often the task has been sent to RETRY. -/
def retries (t : Task) : Nat := t.history.count .retry

def recoveries (t : Task) : Nat := t.history.count .recovery

/-- Before a run, every earlier attempt is paid for by a retry or a recovery; in a run that has
    not ended in RETRY, one attempt is ahead of the retries. -/
structure WithinBudget (t : Task) : Prop where
  bounded : 0 ≤ t.maxRetries
  retries_le : (t.retries : Int) ≤ t.maxRetries
  attempts_le : t.attempts ≤ 1 + t.retries + t.recoveries
  paid : t.state = .created ∨ t.state = .queued ∨ t.state = .retry ∨ t.state = .recovery →
    t.attempts ≤ t.retries + t.recoveries
  spent : t.retries ≤ t.attempts
  ahead : t.state = .running ∨ t.state = .failure → t.retries < t.attempts

section Moved

variable {t : Task} {target : TaskState} {error : String}

/-- A retry is counted when RETRY is entered. -/
theorem retries_moved :
    (t.moved target error).retries = t.retries + if target = .retry then 1 else 0 := by
  simp [retries, moved, List.count_singleton]

/-- A recovery is counted when RECOVERY is entered. -/
theorem recoveries_moved :
    (t.moved target error).recoveries = t.recoveries + if target = .recovery then 1 else 0 := by
  simp [recoveries, moved, List.count_singleton]

/-- An attempt is counted when RUNNING is entered. -/
theorem attempts_moved :
    (t.moved target error).attempts = t.attempts + if target = .running then 1 else 0 := by
  simp only [moved]
  split <;> rfl

/-- A new task has spent nothing. -/
theorem WithinBudget.created (hstate : t.state = .created) (hattempts : t.attempts = 0)
    (hhistory : t.history = [.created]) (hbounded : 0 ≤ t.maxRetries) : t.WithinBudget := by
  refine ⟨hbounded, ?_, ?_, ?_, ?_, ?_⟩ <;>
    simp [retries, recoveries, hhistory, hattempts, hstate, hbounded]

/-- A transition keeps the budget, if a retry is within it. -/
theorem WithinBudget.moved (h : t.WithinBudget) (hallowed : target ∈ transitions t.state)
    (hretry : target = .retry → t.state = .failure ∧ (t.attempts : Int) ≤ t.maxRetries) :
    (t.moved target error).WithinBudget := by
  have hattempts := h.attempts_le
  have hspent := h.spent
  have hretries := h.retries_le
  -- what is known of the task, by the transition that it makes
  have hqueue : target = .queued → t.attempts ≤ t.retries + t.recoveries := by
    rintro rfl
    rcases of_queued_mem_transitions hallowed with hs | hs | hs
    · exact h.paid (.inl hs)
    · exact h.paid (.inr (.inr (.inl hs)))
    · exact h.paid (.inr (.inr (.inr hs)))
  -- a task that starts has been paid for while it was queued
  have hrun : target = .running → t.attempts ≤ t.retries + t.recoveries := by
    rintro rfl
    exact h.paid (.inr (.inl (of_running_mem_transitions hallowed)))
  -- a task that fails is ahead of its retries by the run that has failed
  have hfail : target = .failure → t.retries < t.attempts := by
    rintro rfl
    exact h.ahead (.inl (of_failure_mem_transitions hallowed))
  have hagain : target = .retry → t.retries < t.attempts ∧ (t.attempts : Int) ≤ t.maxRetries :=
    fun htarget => ⟨h.ahead (.inr (hretry htarget).1), (hretry htarget).2⟩
  -- the fields of the record, each by the one or two targets that change its counters
  refine ⟨h.bounded, ?_, ?_, ?_, ?_, ?_⟩
  · show ((t.moved target error).retries : Int) ≤ t.maxRetries
    rw [retries_moved]
    split
    · next htarget =>
      obtain ⟨hahead, hwithin⟩ := hagain htarget
      omega
    · simpa using hretries
  · rw [attempts_moved, retries_moved, recoveries_moved]
    by_cases htarget : target = .running
    · have hpaid := hrun htarget
      rw [if_pos htarget]
      omega
    · rw [if_neg htarget]
      omega
  · intro hstate
    have hstate : target = .created ∨ target = .queued ∨ target = .retry ∨ target = .recovery :=
      hstate
    rw [attempts_moved, retries_moved, recoveries_moved]
    rcases hstate with rfl | rfl | rfl | rfl
    · cases hs : t.state <;> simp [hs, transitions] at hallowed
    · simpa using hqueue rfl
    · simp only [reduceCtorEq, if_false, if_true]
      omega
    · simp only [reduceCtorEq, if_false, if_true]
      omega
  · rw [attempts_moved, retries_moved]
    by_cases htarget : target = .retry
    · obtain ⟨hahead, -⟩ := hagain htarget
      rw [if_pos htarget]
      omega
    · rw [if_neg htarget]
      omega
  · intro hstate
    have hstate : target = .running ∨ target = .failure := hstate
    rw [attempts_moved, retries_moved]
    rcases hstate with rfl | rfl
    · simp only [reduceCtorEq, if_false, if_true]
      omega
    · simpa using hfail rfl

end Moved

end Task

/-! ## Calls -/

/-- A direct call of `transition`. -/
def Call.isTransition : Call → Bool
  | .transition .. => true
  | _ => false

namespace TaskOrchestrator

/-- `fail` neither queues a task nor starts it. -/
theorem failTarget_ne (attempts : Nat) (maxRetries : Int) :
    failTarget attempts maxRetries ≠ .queued ∧ failTarget attempts maxRetries ≠ .running := by
  unfold failTarget
  split <;> simp

/-- It lets a task be tried again as long as the attempts are within the budget. -/
theorem failTarget_eq_retry_iff {attempts : Nat} {maxRetries : Int} :
    failTarget attempts maxRetries = .retry ↔ (attempts : Int) ≤ maxRetries := by
  simp [failTarget]

/-- It gives a task up when they are not. -/
theorem failTarget_eq_finalFailure_iff {attempts : Nat} {maxRetries : Int} :
    failTarget attempts maxRetries = .finalFailure ↔ maxRetries < (attempts : Int) := by
  simp [failTarget]

/-- A running task can fail. -/
theorem enabled_failure {o : TaskOrchestrator} {task : Task}
    (hfind : o.find task.taskId = some task) (hrunning : task.state = .running) :
    o.Enabled task .failure :=
  ⟨hfind, by simp [hrunning, transitions], nofun, nofun⟩

/-- The second transition of `fail` never raises behind the first. -/
theorem enabled_failTarget {o : TaskOrchestrator} {task : Task}
    (hfind : o.find task.taskId = some task) (error : String) :
    (o.moved task .failure error).Enabled (task.moved .failure error)
      (failTarget task.attempts task.maxRetries) := by
  have hid : (task.moved .failure error).taskId = task.taskId := rfl
  -- neither RETRY nor FINAL_FAILURE asks for dependencies or for the set of running tasks
  refine ⟨?_, ?_, ?_, ?_⟩
  · rw [find_moved hfind, if_pos hid]
  · unfold failTarget
    split <;> simp [Task.moved, transitions]
  · exact fun htarget => absurd htarget (failTarget_ne _ _).1
  · exact fun htarget => absurd htarget (failTarget_ne _ _).2

/-- `fail` on a running task makes its two transitions. -/
theorem fail_of_running {o : TaskOrchestrator} {task : Task}
    (hfind : o.find task.taskId = some task) (hrunning : task.state = .running) (error : String) :
    (o.fail task.taskId error).1 =
      (o.moved task .failure error).moved (task.moved .failure error)
        (failTarget task.attempts task.maxRetries) error := by
  have hfirst := transition_of_enabled (enabled_failure hfind hrunning) error
  have hsecond := transition_of_enabled (enabled_failTarget hfind error) error
  have hattempts : (task.moved .failure error).attempts = task.attempts := rfl
  have hmax : (task.moved .failure error).maxRetries = task.maxRetries := rfl
  have hid : (task.moved .failure error).taskId = task.taskId := rfl
  rw [hid] at hsecond
  simp only [fail, get_eq_ok_iff.mpr hfind, hfirst, hattempts, hmax, hsecond, ofExcept]

/-- `fail` on any other task raises at once. -/
theorem fail_of_not_running {o : TaskOrchestrator} {taskId : String}
    (h : ∀ task, o.find taskId = some task → task.state ≠ .running) (error : String) :
    (o.fail taskId error).1 = o := by
  unfold fail
  cases o.get taskId with
  | error e => rfl
  | ok _ =>
    cases hfirst : o.transition taskId .failure error with
    | error e => rfl
    | ok r =>
      obtain ⟨task, rfl, henabled, -⟩ := transition_eq_ok_iff.mp hfirst
      exact absurd (of_failure_mem_transitions henabled.allowed) (h task henabled.found)

/-- Every task is within its budget. -/
def Solvent (o : TaskOrchestrator) : Prop :=
  ∀ x task, o.find x = some task → task.WithinBudget

/-- A transition that is no retry beyond the budget keeps all tasks within it. -/
theorem Solvent.moved {o : TaskOrchestrator} (h : o.Solvent) {task : Task} {target : TaskState}
    {error : String} (henabled : o.Enabled task target)
    (hretry : target = .retry → task.state = .failure ∧ (task.attempts : Int) ≤ task.maxRetries) :
    (o.moved task target error).Solvent := by
  intro x t hfind
  rw [find_moved henabled.found] at hfind
  split at hfind
  · obtain rfl := Option.some.inj hfind
    exact (h _ task henabled.found).moved henabled.allowed hretry
  · exact h x t hfind

/-- A call that asks for another state than RETRY is such a transition. -/
theorem Solvent.transition {o : TaskOrchestrator} (h : o.Solvent) {taskId : String}
    {target : TaskState} {error : String} (htarget : target ≠ .retry) :
    (o.ofExcept (o.transition taskId target error)).1.Solvent := by
  cases hresult : o.transition taskId target error with
  | error e => exact h
  | ok r =>
    obtain ⟨task, -, henabled, rfl⟩ := transition_eq_ok_iff.mp hresult
    exact h.moved henabled fun hretry => absurd hretry htarget

/-- **One call** keeps all tasks within their budgets, unless it is a raw transition. -/
theorem Solvent.step {o : TaskOrchestrator} (h : o.Solvent) {c : Call} (hc : ¬ c.isTransition) :
    (o.step c).Solvent := by
  cases c with
  | transition => exact absurd rfl hc
  | create taskId agent dependencies maxRetries =>
    simp only [TaskOrchestrator.step, call]
    cases hresult : o.create taskId agent dependencies maxRetries with
    | error e => exact h
    | ok r =>
      obtain ⟨hfresh, -, hbounded, hr⟩ := create_eq_ok hresult
      intro x t hfind
      simp only [ofExcept, hr] at hfind
      rw [find_created hfresh] at hfind
      split at hfind
      · obtain rfl := Option.some.inj hfind
        exact .created rfl rfl rfl hbounded
      · exact h x t hfind
  | fail taskId error =>
    simp only [TaskOrchestrator.step, call]
    -- a task that is not running makes `fail` raise at its first transition
    by_cases hrunning : ∃ task, o.find taskId = some task ∧ task.state = .running
    · obtain ⟨task, hfind, hstate⟩ := hrunning
      obtain rfl := taskId_of_find hfind
      rw [fail_of_running hfind hstate]
      exact (h.moved (enabled_failure hfind hstate) (by simp)).moved (enabled_failTarget hfind error)
        fun hretry => ⟨rfl, failTarget_eq_retry_iff.mp hretry⟩
    · rw [fail_of_not_running fun task hfind hstate => hrunning ⟨task, hfind, hstate⟩]
      exact h
  | queue taskId => exact h.transition (by simp)
  | start taskId => exact h.transition (by simp)
  | succeed taskId => exact h.transition (by simp)
  | timeout taskId error => exact h.transition (by simp)
  | recover taskId => exact h.transition (by simp)
  | cancel taskId => exact h.transition (by simp)

/-- So do any calls without a raw transition. -/
theorem solvent_after {calls : List Call} (hcalls : ∀ c ∈ calls, ¬ c.isTransition) :
    (after {} calls).Solvent := by
  have hrun : ∀ o : TaskOrchestrator, o.Solvent → (o.after calls).Solvent := by
    induction calls with
    | nil => exact fun o h => h
    | cons c calls ih =>
      have hrest := ih fun d hd => hcalls d (List.mem_cons_of_mem _ hd)
      exact fun o h => hrest _ (h.step (hcalls c List.mem_cons_self))
  exact hrun {} nofun

/-- **Retry budget.** After any calls but direct transitions, the retries of a task are within
    `max_retries`, its attempts are paid for by its retries and recoveries, and a failure of the
    running task is final exactly when its attempts exceed `max_retries`. -/
theorem retry_budget {calls : List Call} (hcalls : ∀ c ∈ calls, ¬ c.isTransition) {x : String}
    {task : Task} (hfind : (after {} calls).find x = some task) :
    (task.history.count .retry : Int) ≤ task.maxRetries ∧
    task.attempts ≤ 1 + task.history.count .retry + task.history.count .recovery ∧
    (task.state = .running → ∀ error, ∃ task',
      ((after {} calls).step (.fail x error)).find x = some task' ∧
        (task'.state = .finalFailure ↔ task.maxRetries < (task.attempts : Int))) := by
  have hbudget := solvent_after hcalls x task hfind
  refine ⟨hbudget.retries_le, hbudget.attempts_le, fun hrunning error => ?_⟩
  obtain rfl := taskId_of_find hfind
  have henabled := enabled_failTarget hfind error
  refine ⟨(task.moved .failure error).moved (failTarget task.attempts task.maxRetries) error, ?_,
    failTarget_eq_finalFailure_iff⟩
  simp only [TaskOrchestrator.step, call, fail_of_running hfind hrunning]
  have hid : task.taskId = (task.moved .failure error).taskId := rfl
  rw [find_moved henabled.found, if_pos hid]

/-- A task with one retry, in its second attempt. -/
def secondAttempt : List Call :=
  [.create "first" "QA" [] 1, .queue "first", .start "first", .fail "first" "controlled failure",
    .queue "first", .start "first"]

/-- A budget of one retry is spent with the second attempt. -/
theorem retry_budget_secondAttempt :
    (1 : Int) ≤ 1 ∧ 2 ≤ 1 + 1 + 0 ∧
      (TaskState.running = .running → ∀ error, ∃ task',
        ((after {} secondAttempt).step (.fail "first" error)).find "first" = some task' ∧
          (task'.state = .finalFailure ↔ (1 : Int) < (2 : Nat))) :=
  @retry_budget secondAttempt (by decide) "first"
    { taskId := "first", agent := "QA", maxRetries := 1, state := .running, attempts := 2,
      history := [.created, .queued, .running, .failure, .retry, .queued, .running] }
    (by decide +kernel)

end TaskOrchestrator

end DarkMed.Tasks
