import DarkMed.Tasks.Dependencies
import DarkMed.Tasks.Retries
import Mathlib.Data.List.Chain

/-!
# The Representation of a Task

A task's state, its history and its attempts, and the orchestrator's set of running
tasks, say some things twice.  One transition keeps them in agreement; and since a call
that raises has changed nothing, the composite `fail` included, they agree after every
sequence of calls.
-/

namespace DarkMed.Tasks

/-! ## One task -/

/-- The history of the task tells its state and its attempts. -/
structure Task.Recorded (t : Task) : Prop where
  starts : t.history.head? = some .created
  ends : t.history.getLast? = some t.state
  edges : t.history.IsChain fun s s' => s' ∈ transitions s
  attempts : t.attempts = t.history.count .running

/-- A new task has a history of one state. -/
theorem Task.recorded_created (taskId agent : String) (dependencies : List String)
    (maxRetries : Int) : Task.Recorded { taskId, agent, dependencies, maxRetries } where
  starts := rfl
  ends := rfl
  edges := List.IsChain.singleton _
  attempts := rfl

/-- A transition along an edge of the table keeps the record. -/
theorem Task.Recorded.moved {t : Task} (h : t.Recorded) {target : TaskState}
    (hallowed : target ∈ transitions t.state) (error : String) :
    (t.moved target error).Recorded where
  starts := by
    show (t.history ++ [target]).head? = some .created
    rw [List.head?_append, h.starts, Option.some_or]
  ends := by simp [Task.moved]
  edges := by
    apply List.IsChain.append h.edges (List.IsChain.singleton target)
    -- the only new pair is the old state with the target
    intro s hs s' hs'
    obtain rfl : t.state = s := Option.some.inj (h.ends.symm.trans hs)
    obtain rfl : target = s' := by simpa using hs'
    exact hallowed
  attempts := by
    rw [Task.attempts_moved, h.attempts]
    simp [Task.moved, List.count_singleton]

/-! ## One call -/

/-- The task that a call names. -/
def Call.taskId : Call → String
  | .create taskId _ _ _ => taskId
  | .transition taskId _ _ => taskId
  | .queue taskId => taskId
  | .start taskId => taskId
  | .succeed taskId => taskId
  | .fail taskId _ => taskId
  | .timeout taskId _ => taskId
  | .recover taskId => taskId
  | .cancel taskId => taskId

namespace TaskOrchestrator

/-- The two orchestrators differ in the task `x` at most: the other tasks are the same ones in
    the same order, and the same ones of them are running. -/
structure ChangesOnly (o o' : TaskOrchestrator) (x : String) : Prop where
  tasks : o'.tasks.filter (·.taskId != x) = o.tasks.filter (·.taskId != x)
  running : o'.running.erase x = o.running.erase x

/-- One after the other, of the same task. -/
theorem ChangesOnly.trans {o₁ o₂ o₃ : TaskOrchestrator} {x : String} (h : o₁.ChangesOnly o₂ x)
    (h' : o₂.ChangesOnly o₃ x) : o₁.ChangesOnly o₃ x :=
  ⟨h'.tasks.trans h.tasks, h'.running.trans h.running⟩

/-- A transition is seen at its own task only. -/
theorem changesOnly_moved (o : TaskOrchestrator) (task : Task) (target : TaskState)
    (error : String) : o.ChangesOnly (o.moved task target error) task.taskId where
  tasks := by
    -- the moved task keeps its key, and the filter drops it on both sides
    show (o.tasks.map _).filter _ = _
    induction o.tasks with
    | nil => rfl
    | cons t tasks ih =>
      rw [List.map_cons]
      by_cases ht : t.taskId = task.taskId
      · have hid : (task.moved target error).taskId = task.taskId := rfl
        simp only [ht, if_true, List.filter_cons, hid, bne_self_eq_false, Bool.false_eq_true,
          if_false, ih]
      · simp only [ht, if_false, List.filter_cons, ih]
  running := by
    simp only [TaskOrchestrator.moved]
    by_cases htarget : target = .running
    · simp [htarget]
    · by_cases hstate : task.state = .running <;> simp [htarget, hstate]

/-- So is a new task. -/
theorem changesOnly_created (o : TaskOrchestrator) (task : Task) :
    o.ChangesOnly { o with tasks := o.tasks ++ [task] } task.taskId where
  tasks := by simp
  running := rfl

/-- A transition that does not raise changes its own task only. -/
theorem changesOnly_of_transition {o : TaskOrchestrator} {taskId error : String}
    {target : TaskState} {r : TaskOrchestrator × Task}
    (h : o.transition taskId target error = .ok r) : o.ChangesOnly r.1 taskId := by
  obtain ⟨task, rfl, -, rfl⟩ := transition_eq_ok_iff.mp h
  exact changesOnly_moved o task target error

/-- A call raises and changes nothing, or it succeeds and changes the task it names. -/
def Clean (o : TaskOrchestrator) (x : String) (result : TaskOrchestrator × Except PythonError Task) :
    Prop :=
  (∀ e, result.2 = .error e → result.1 = o) ∧
    ∀ task, result.2 = .ok task → o.ChangesOnly result.1 x

/-- A call that raises at once leaves everything as it was. -/
theorem clean_ofExcept {o : TaskOrchestrator} {x : String}
    {result : Except PythonError (TaskOrchestrator × Task)}
    (h : ∀ r, result = .ok r → o.ChangesOnly r.1 x) : o.Clean x (o.ofExcept result) := by
  cases result with
  | error e => exact ⟨fun _ _ => rfl, nofun⟩
  | ok r => exact ⟨nofun, fun _ _ => h r rfl⟩

/-- A transition is such a call. -/
theorem clean_transition (o : TaskOrchestrator) (taskId : String) (target : TaskState)
    (error : String) : o.Clean taskId (o.ofExcept (o.transition taskId target error)) :=
  clean_ofExcept fun _ => changesOnly_of_transition

/-- `fail` as a whole: behind its first transition the second one does not raise. -/
theorem clean_fail (o : TaskOrchestrator) (taskId error : String) :
    o.Clean taskId (o.fail taskId error) := by
  unfold fail
  cases o.get taskId with
  | error e => exact ⟨fun _ _ => rfl, fun _ h => by cases h⟩
  | ok _ =>
    cases hfirst : o.transition taskId .failure error with
    | error e => exact ⟨fun _ _ => rfl, fun _ h => by cases h⟩
    | ok r =>
      have hfailed : o.ChangesOnly r.1 taskId := changesOnly_of_transition hfirst
      obtain ⟨task, rfl, henabled, rfl⟩ := transition_eq_ok_iff.mp hfirst
      -- behind FAILURE the second transition does not raise
      have hsecond := transition_of_enabled (enabled_failTarget henabled.found error) error
      have hattempts : (task.moved .failure error).attempts = task.attempts := rfl
      have hmax : (task.moved .failure error).maxRetries = task.maxRetries := rfl
      have hid : (task.moved .failure error).taskId = task.taskId := rfl
      rw [hid] at hsecond
      simp only [hattempts, hmax, hsecond, ofExcept]
      refine ⟨fun _ h => (by cases h), fun _ _ => hfailed.trans ?_⟩
      exact changesOnly_moved _ (task.moved .failure error) _ error

/-- **Step lemma**: every call is clean, in every state. -/
theorem clean_call (o : TaskOrchestrator) (c : Call) : o.Clean c.taskId (o.call c) := by
  cases c with
  | create taskId agent dependencies maxRetries =>
    apply clean_ofExcept
    intro r hr
    obtain ⟨-, -, -, hresult⟩ := create_eq_ok hr
    rw [hresult]
    exact changesOnly_created o { taskId, agent, dependencies, maxRetries }
  | transition taskId target error => exact clean_transition o taskId target error
  | queue taskId => exact clean_transition o taskId .queued ""
  | start taskId => exact clean_transition o taskId .running ""
  | succeed taskId => exact clean_transition o taskId .success ""
  | fail taskId error => exact clean_fail o taskId error
  | timeout taskId error => exact clean_transition o taskId .timeout error
  | recover taskId => exact clean_transition o taskId .recovery ""
  | cancel taskId => exact clean_transition o taskId .cancelled "cancelled"

/-! ## Runs -/

def AllRecorded (o : TaskOrchestrator) : Prop :=
  ∀ x task, o.find x = some task → task.Recorded

/-- Every change is recorded in the history of its task. -/
theorem AllRecorded.change {o o' : TaskOrchestrator} (h : o.AllRecorded) (hchange : o.Change o') :
    o'.AllRecorded := by
  intro x t ht
  cases hchange with
  | create taskId agent dependencies maxRetries hfresh _ _ =>
    rw [find_created hfresh] at ht
    split at ht
    · obtain rfl := Option.some.inj ht
      exact Task.recorded_created taskId agent dependencies maxRetries
    · exact h x t ht
  | move task target error henabled =>
    rw [find_moved henabled.found] at ht
    split at ht
    · obtain rfl := Option.some.inj ht
      exact (h _ task henabled.found).moved henabled.allowed error
    · exact h x t ht

/-- **The representation of every task, after every sequence of calls.** -/
theorem representation_invariant (calls : List Call) :
    (∀ x task, (after {} calls).find x = some task →
      task.history.head? = some .created ∧ task.history.getLast? = some task.state ∧
        (task.history.IsChain fun s s' => s' ∈ transitions s) ∧
        task.attempts = task.history.count .running) ∧
    (∀ x, x ∈ (after {} calls).running ↔
      ∃ task, (after {} calls).find x = some task ∧ task.state = .running) ∧
    ∀ c : Call,
      (∀ e, ((after {} calls).call c).2 = .error e → (after {} calls).step c = after {} calls) ∧
      ∀ task, ((after {} calls).call c).2 = .ok task →
        (after {} calls).ChangesOnly ((after {} calls).step c) c.taskId := by
  have hrecorded : (after {} calls).AllRecorded :=
    after_invariant (fun _ _ h hchange => h.change hchange) nofun calls
  refine ⟨fun x task hfind => ?_, (sound_after calls).running, fun c => clean_call _ c⟩
  have h := hrecorded x task hfind
  exact ⟨h.starts, h.ends, h.edges, h.attempts⟩

end TaskOrchestrator

end DarkMed.Tasks
