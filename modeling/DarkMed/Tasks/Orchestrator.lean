import DarkMed.Lib.Transition
import Mathlib.Data.Finset.Basic
import Mathlib.Logic.Relation

/-!
# The Task Orchestrator

`task_orchestrator.py`: tasks with dependencies, each of them in one of ten states,
and the table of transitions between the states.  A call that raises is a call like
any other; what it has changed before it raises stays changed.

The dictionary of tasks is a list in the order of insertion, with a task's
`task_id` as its key.  `updated_at` is left out: only `snapshot` reads it, and no
decision depends on it.
-/

namespace DarkMed.Tasks

open DarkMed.Lib.Transition

/-! ## States -/

/-- `class TaskState(str, Enum)` -/
inductive TaskState where
  | created
  | queued
  | running
  | success
  | failure
  | retry
  | timeout
  | recovery
  | cancelled
  | finalFailure
  deriving DecidableEq, Repr

def TaskState.value : TaskState → String
  | .created => "CREATED"
  | .queued => "QUEUED"
  | .running => "RUNNING"
  | .success => "SUCCESS"
  | .failure => "FAILURE"
  | .retry => "RETRY"
  | .timeout => "TIMEOUT"
  | .recovery => "RECOVERY"
  | .cancelled => "CANCELLED"
  | .finalFailure => "FINAL_FAILURE"

/-- `TRANSITIONS` -/
def transitions : TaskState → List TaskState
  | .created => [.queued, .cancelled]
  | .queued => [.running, .cancelled]
  | .running => [.success, .failure, .timeout, .cancelled]
  | .failure => [.retry, .finalFailure, .recovery]
  | .retry => [.queued, .cancelled]
  | .timeout => [.recovery, .retry, .finalFailure, .cancelled]
  | .recovery => [.queued, .finalFailure, .cancelled]
  | .success => []
  | .cancelled => []
  | .finalFailure => []

/-! ## Tasks -/

/-- `class Task` -/
structure Task where
  taskId : String
  agent : String
  dependencies : List String := []
  maxRetries : Int := 0
  state : TaskState := .created
  attempts : Nat := 0
  error : String := ""
  history : List TaskState := [.created]
  deriving DecidableEq, Repr

inductive PythonError where
  | keyError (key : String)
  | valueError (message : String)
  deriving DecidableEq, Repr

/-- `class TaskOrchestrator`, without its lock. -/
structure TaskOrchestrator where
  tasks : List Task := []
  running : Finset String := ∅
  deriving DecidableEq

/-- What `transition` makes of a task. -/
def Task.moved (task : Task) (target : TaskState) (error : String) : Task :=
  { task with
    state := target
    attempts := if target = .running then task.attempts + 1 else task.attempts
    error
    history := task.history ++ [target] }

namespace TaskOrchestrator

/-- `self._tasks.get(task_id)` -/
def find (o : TaskOrchestrator) (taskId : String) : Option Task :=
  o.tasks.find? fun task => task.taskId == taskId

def get (o : TaskOrchestrator) (taskId : String) : Except PythonError Task :=
  match o.find taskId with
  | none => throw (.keyError taskId)
  | some task => pure task

def create (o : TaskOrchestrator) (taskId agent : String) (dependencies : List String)
    (maxRetries : Int) : Except PythonError (TaskOrchestrator × Task) :=
  if taskId = "" ∨ (o.find taskId).isSome then
    throw (.valueError "duplicate_or_empty_task_id")
  else if maxRetries < 0 then
    throw (.valueError "negative_max_retries")
  else if taskId ∈ dependencies ∨ dependencies.any fun dep => (o.find dep).isNone then
    throw (.valueError "unknown_or_circular_dependency")
  else
    let task : Task := { taskId, agent, dependencies, maxRetries }
    return ({ o with tasks := o.tasks ++ [task] }, task)

/-- `any(self.get(dep).state != TaskState.SUCCESS for dep in dependencies)` -/
def anyUnsatisfied (o : TaskOrchestrator) : List String → Except PythonError Bool
  | [] => return false
  | dep :: dependencies => do
    let task ← o.get dep
    if task.state ≠ .success then return true else o.anyUnsatisfied dependencies

/-- The effect of a transition: the task's fields, and the set of running tasks. -/
def moved (o : TaskOrchestrator) (task : Task) (target : TaskState) (error : String) :
    TaskOrchestrator where
  tasks := o.tasks.map fun t => if t.taskId = task.taskId then task.moved target error else t
  running :=
    let running := if target = .running then insert task.taskId o.running else o.running
    if task.state = .running ∧ target ≠ .running then running.erase task.taskId else running

/-- The checks of `transition`, in their order. -/
def checkTransition (o : TaskOrchestrator) (task : Task) (target : TaskState) :
    Except PythonError Unit :=
  if target ∉ transitions task.state then
    throw (.valueError ("invalid_transition:" ++ task.state.value ++ "->" ++ target.value))
  else if target = .queued then do
    if ← o.anyUnsatisfied task.dependencies then throw (.valueError "dependencies_not_satisfied")
    else return ()
  else if target = .running ∧ task.taskId ∈ o.running then
    throw (.valueError "duplicate_execution_prevented")
  else return ()

def transition (o : TaskOrchestrator) (taskId : String) (target : TaskState)
    (error : String := "") : Except PythonError (TaskOrchestrator × Task) := do
  let task ← o.get taskId
  o.checkTransition task target
  return (o.moved task target error, task.moved target error)

/-- A call's effect with its result: a call that raises at once changes nothing. -/
def ofExcept (o : TaskOrchestrator) (result : Except PythonError (TaskOrchestrator × Task)) :
    TaskOrchestrator × Except PythonError Task :=
  match result with
  | .error e => (o, .error e)
  | .ok (o, task) => (o, .ok task)

def queue (o : TaskOrchestrator) (taskId : String) : TaskOrchestrator × Except PythonError Task :=
  o.ofExcept (o.transition taskId .queued)

def start (o : TaskOrchestrator) (taskId : String) : TaskOrchestrator × Except PythonError Task :=
  o.ofExcept (o.transition taskId .running)

def succeed (o : TaskOrchestrator) (taskId : String) :
    TaskOrchestrator × Except PythonError Task :=
  o.ofExcept (o.transition taskId .success)

/-- `TaskState.RETRY if task.attempts <= task.max_retries else TaskState.FINAL_FAILURE` -/
def failTarget (attempts : Nat) (maxRetries : Int) : TaskState :=
  if attempts ≤ maxRetries then .retry else .finalFailure

def fail (o : TaskOrchestrator) (taskId error : String) :
    TaskOrchestrator × Except PythonError Task :=
  match o.get taskId with
  | .error e => (o, .error e)
  | .ok _ =>
    match o.transition taskId .failure error with
    | .error e => (o, .error e)
    -- the task that `get` has returned is the one that the transition has changed
    | .ok (o, task) =>
      o.ofExcept (o.transition taskId (failTarget task.attempts task.maxRetries) error)

def timeout (o : TaskOrchestrator) (taskId : String) (error : String := "timeout") :
    TaskOrchestrator × Except PythonError Task :=
  o.ofExcept (o.transition taskId .timeout error)

def recover (o : TaskOrchestrator) (taskId : String) :
    TaskOrchestrator × Except PythonError Task :=
  o.ofExcept (o.transition taskId .recovery)

def cancel (o : TaskOrchestrator) (taskId : String) :
    TaskOrchestrator × Except PythonError Task :=
  o.ofExcept (o.transition taskId .cancelled "cancelled")

end TaskOrchestrator

/-! ## Calls -/

inductive Call where
  | create (taskId agent : String) (dependencies : List String) (maxRetries : Int)
  | transition (taskId : String) (target : TaskState) (error : String)
  | queue (taskId : String)
  | start (taskId : String)
  | succeed (taskId : String)
  | fail (taskId error : String)
  | timeout (taskId error : String)
  | recover (taskId : String)
  | cancel (taskId : String)
  deriving DecidableEq, Repr

namespace TaskOrchestrator

def call (o : TaskOrchestrator) : Call → TaskOrchestrator × Except PythonError Task
  | .create taskId agent dependencies maxRetries =>
    o.ofExcept (o.create taskId agent dependencies maxRetries)
  | .transition taskId target error => o.ofExcept (o.transition taskId target error)
  | .queue taskId => o.queue taskId
  | .start taskId => o.start taskId
  | .succeed taskId => o.succeed taskId
  | .fail taskId error => o.fail taskId error
  | .timeout taskId error => o.timeout taskId error
  | .recover taskId => o.recover taskId
  | .cancel taskId => o.cancel taskId

/-- The orchestrator behind a call. -/
def step (o : TaskOrchestrator) (c : Call) : TaskOrchestrator :=
  (o.call c).1

/-- The orchestrator behind a sequence of calls. -/
def after (o : TaskOrchestrator) (calls : List Call) : TaskOrchestrator :=
  calls.foldl step o

/-- Calls in two parts. -/
theorem after_append (o : TaskOrchestrator) (pre post : List Call) :
    o.after (pre ++ post) = (o.after pre).after post :=
  List.foldl_append

/-! ## Lookups -/

section Lookups

variable {o : TaskOrchestrator} {taskId : String} {task : Task}

/-- The task that is found has the name that was looked for. -/
theorem taskId_of_find (h : o.find taskId = some task) : task.taskId = taskId := by
  simpa using List.find?_some h

/-- `get` raises exactly where there is no such task. -/
theorem get_eq_ok_iff : o.get taskId = .ok task ↔ o.find taskId = some task := by
  unfold get
  cases o.find taskId <;> simp [pure, Except.pure, throw, throwThe, MonadExceptOf.throw]

/-- A transition is seen by the lookup of its task, and by no other. -/
theorem find_moved (h : o.find task.taskId = some task) (target : TaskState) (error : String)
    (x : String) :
    (o.moved task target error).find x =
      if x = task.taskId then some (task.moved target error) else o.find x := by
  have hid : (task.moved target error).taskId = task.taskId := rfl
  have hcomp : (fun t : Task => t.taskId == x) ∘
      (fun t => if t.taskId = task.taskId then task.moved target error else t) =
        fun t => t.taskId == x := by
    funext t
    by_cases ht : t.taskId = task.taskId <;> simp [ht, hid]
  -- the keys stay in place, so the lookup finds the same position
  simp only [find, moved, List.find?_map, hcomp]
  by_cases hx : x = task.taskId
  · subst hx
    rw [find] at h
    simp [h]
  · rw [if_neg hx]
    cases hfind : o.tasks.find? (fun t => t.taskId == x) with
    | none => rfl
    | some t =>
      have ht : t.taskId = x := by simpa using List.find?_some hfind
      simp [ht, hx]

/-- A new task is found where no older one has its name. -/
theorem find_append (x : String) :
    find { o with tasks := o.tasks ++ [task] } x =
      (o.find x).or (if task.taskId = x then some task else none) := by
  simp only [find, List.find?_append, List.find?_cons, List.find?_nil]
  by_cases hx : task.taskId = x
  · simp [hx]
  · simp [beq_eq_false_iff_ne.mpr hx, hx]

/-- A task that has been created is found, and no other lookup changes. -/
theorem find_created (hfresh : o.find task.taskId = none) (x : String) :
    find { o with tasks := o.tasks ++ [task] } x =
      if x = task.taskId then some task else o.find x := by
  rw [find_append]
  by_cases hx : x = task.taskId
  · subst hx
    simp [hfresh]
  · rw [if_neg hx, if_neg (Ne.symm hx), Option.or_none]

theorem ne_of_find {x : String} {t : Task} (hfind : o.find x = some t)
    (hfresh : o.find task.taskId = none) : x ≠ task.taskId := by
  rintro rfl
  exact absurd (hfresh.symm.trans hfind) nofun

end Lookups

/-! ## What a transition needs and does -/

/-- The transition to `target` does not raise. -/
structure Enabled (o : TaskOrchestrator) (task : Task) (target : TaskState) : Prop where
  found : o.find task.taskId = some task
  allowed : target ∈ transitions task.state
  satisfied : target = .queued →
    ∀ dep ∈ task.dependencies, ∃ d, o.find dep = some d ∧ d.state = .success
  single : target = .running → task.taskId ∉ o.running

/-- No dependency is unsatisfied, and none is unknown. -/
theorem anyUnsatisfied_eq_false_iff {o : TaskOrchestrator} {deps : List String} :
    o.anyUnsatisfied deps = .ok false ↔
      ∀ dep ∈ deps, ∃ d, o.find dep = some d ∧ d.state = .success := by
  induction deps with
  | nil => simp [anyUnsatisfied, pure, Except.pure]
  | cons dep deps ih =>
    rw [List.forall_mem_cons, ← ih, anyUnsatisfied]
    -- an unknown dependency raises, and is not passed over
    cases hfind : o.find dep with
    | none => simp [get, hfind, throw, throwThe, MonadExceptOf.throw, bind, Except.bind]
    | some d =>
      have hget : o.get dep = .ok d := get_eq_ok_iff.mpr hfind
      rw [hget]
      by_cases hd : d.state = .success <;>
        simp [hd, bind, Except.bind, pure, Except.pure]

/-- **What a transition needs**: an allowed target, dependencies that are done for QUEUED, and no
    second execution for RUNNING. -/
theorem checkTransition_eq_ok_iff {o : TaskOrchestrator} {task : Task} {target : TaskState}
    (hfind : o.find task.taskId = some task) :
    o.checkTransition task target = .ok () ↔ o.Enabled task target := by
  unfold checkTransition
  constructor
  · intro h
    split at h
    · cases h
    -- the target is allowed; only QUEUED and RUNNING are asked for more
    next hallowed =>
      refine ⟨hfind, not_not.mp hallowed, fun hqueued => ?_, fun hrunning hmem => ?_⟩
      · rw [if_pos hqueued] at h
        rw [← anyUnsatisfied_eq_false_iff]
        match hany : o.anyUnsatisfied task.dependencies with
        | .ok false => rfl
        | .ok true => rw [hany] at h; cases h
        | .error e => rw [hany] at h; cases h
      · rw [if_neg (by rw [hrunning]; decide), if_pos ⟨hrunning, hmem⟩] at h
        cases h
  · intro h
    rw [if_neg (not_not.mpr h.allowed)]
    -- a target is not both QUEUED and RUNNING
    by_cases hqueued : target = .queued
    · rw [if_pos hqueued, anyUnsatisfied_eq_false_iff.mpr (h.satisfied hqueued)]
      rfl
    · rw [if_neg hqueued, if_neg fun hrunning => h.single hrunning.1 hrunning.2]
      rfl

/-- **What a transition does**, when it does not raise. -/
theorem transition_eq_ok_iff {o : TaskOrchestrator} {taskId : String} {target : TaskState}
    {error : String} {r : TaskOrchestrator × Task} :
    o.transition taskId target error = .ok r ↔
      ∃ task, task.taskId = taskId ∧ o.Enabled task target ∧
        r = (o.moved task target error, task.moved target error) := by
  unfold transition
  cases hfind : o.find taskId with
  -- `get` raises before anything is checked
  | none =>
    have hget : o.get taskId = .error (.keyError taskId) := by rw [get, hfind]; rfl
    rw [hget]
    refine ⟨nofun, ?_⟩
    rintro ⟨task, rfl, henabled, -⟩
    exact absurd (hfind.symm.trans henabled.found) nofun
  | some task =>
    have htask : task.taskId = taskId := taskId_of_find hfind
    subst htask
    have hcheck := @checkTransition_eq_ok_iff o task target hfind
    rw [get_eq_ok_iff.mpr hfind]
    constructor
    · intro h
      match hresult : o.checkTransition task target with
      | .error e =>
        simp only [bind, Except.bind, hresult] at h
        cases h
      | .ok () =>
        simp only [bind, Except.bind, hresult, pure, Except.pure, Except.ok.injEq] at h
        exact ⟨task, rfl, hcheck.mp hresult, h.symm⟩
    · rintro ⟨t, ht, henabled, rfl⟩
      obtain rfl : t = task := Option.some.inj (henabled.found.symm.trans (ht ▸ hfind))
      simp only [bind, Except.bind, hcheck.mpr henabled]
      rfl

theorem transition_of_enabled {o : TaskOrchestrator} {task : Task} {target : TaskState}
    (h : o.Enabled task target) (error : String) :
    o.transition task.taskId target error =
      .ok (o.moved task target error, task.moved target error) :=
  transition_eq_ok_iff.mpr ⟨task, rfl, h, rfl⟩

/-! ## What a call changes -/

/-- One change of the orchestrator: a new task, or a transition of a task. -/
inductive Change (o : TaskOrchestrator) : TaskOrchestrator → Prop where
  | create (taskId agent : String) (dependencies : List String) (maxRetries : Int)
      (fresh : o.find taskId = none) (known : ∀ dep ∈ dependencies, ∃ d, o.find dep = some d)
      (bounded : 0 ≤ maxRetries) :
      Change o { o with tasks := o.tasks ++ [{ taskId, agent, dependencies, maxRetries }] }
  | move (task : Task) (target : TaskState) (error : String) (enabled : o.Enabled task target) :
      Change o (o.moved task target error)

/-- **What `create` does**, when it does not raise. -/
theorem create_eq_ok {o : TaskOrchestrator} {taskId agent : String} {dependencies : List String}
    {maxRetries : Int} {r : TaskOrchestrator × Task}
    (h : o.create taskId agent dependencies maxRetries = .ok r) :
    o.find taskId = none ∧ (∀ dep ∈ dependencies, ∃ d, o.find dep = some d) ∧ 0 ≤ maxRetries ∧
      r.1 = { o with tasks := o.tasks ++ [{ taskId, agent, dependencies, maxRetries }] } := by
  unfold create at h
  split at h
  · cases h
  split at h
  · cases h
  split at h
  · cases h
  next hid hretries hdeps =>
    cases h
    -- three checks, none of which has raised
    obtain ⟨-, hfresh⟩ := not_or.mp hid
    obtain ⟨-, hknown⟩ := not_or.mp hdeps
    refine ⟨by simpa using hfresh, fun dep hdep => ?_, by omega, rfl⟩
    have hsome : ¬ (o.find dep).isNone = true := fun hnone =>
      hknown (List.any_eq_true.mpr ⟨dep, hdep, hnone⟩)
    exact Option.ne_none_iff_exists'.mp (by simpa using hsome)

/-- A task that is created is one change. -/
theorem create_change {o : TaskOrchestrator} {taskId agent : String} {dependencies : List String}
    {maxRetries : Int} {r : TaskOrchestrator × Task}
    (h : o.create taskId agent dependencies maxRetries = .ok r) : o.Change r.1 := by
  obtain ⟨hfresh, hknown, hbounded, hr⟩ := create_eq_ok h
  rw [hr]
  exact .create taskId agent dependencies maxRetries hfresh hknown hbounded

/-- A transition that does not raise is one change. -/
theorem transition_change {o : TaskOrchestrator} {taskId : String} {target : TaskState}
    {error : String} {r : TaskOrchestrator × Task}
    (h : o.transition taskId target error = .ok r) : o.Change r.1 := by
  obtain ⟨task, -, henabled, rfl⟩ := transition_eq_ok_iff.mp h
  exact .move task target error henabled

/-- A call that raises at once is no change at all. -/
theorem ofExcept_changes {o : TaskOrchestrator}
    {result : Except PythonError (TaskOrchestrator × Task)}
    (h : ∀ r, result = .ok r → o.Change r.1) :
    Relation.ReflTransGen Change o (o.ofExcept result).1 := by
  cases result with
  | error e => exact .refl
  | ok r => exact .single (h r rfl)

/-- **A call is a sequence of changes**, raising or not. -/
theorem step_changes (o : TaskOrchestrator) (c : Call) :
    Relation.ReflTransGen Change o (o.step c) := by
  cases c with
  | create taskId agent dependencies maxRetries => exact ofExcept_changes fun r => create_change
  | fail taskId error =>
    simp only [step, call, fail]
    cases o.get taskId with
    | error e => exact .refl
    | ok _ =>
      cases htransition : o.transition taskId .failure error with
      | error e => exact .refl
      | ok r =>
        -- the first transition stays, whether the second one raises or not
        have hfirst : o.Change r.1 := transition_change htransition
        exact .trans (.single hfirst) (ofExcept_changes fun r => transition_change)
  | transition taskId target error => exact ofExcept_changes fun r => transition_change
  | queue taskId => exact ofExcept_changes fun r => transition_change
  | start taskId => exact ofExcept_changes fun r => transition_change
  | succeed taskId => exact ofExcept_changes fun r => transition_change
  | timeout taskId error => exact ofExcept_changes fun r => transition_change
  | recover taskId => exact ofExcept_changes fun r => transition_change
  | cancel taskId => exact ofExcept_changes fun r => transition_change

/-- What every change keeps, every sequence of changes keeps. -/
theorem invariant_of_changes {I : TaskOrchestrator → Prop}
    (hchange : ∀ o o', I o → o.Change o' → I o') {o o' : TaskOrchestrator} (h : I o)
    (hchanges : Relation.ReflTransGen Change o o') : I o' := by
  induction hchanges with
  | refl => exact h
  | tail _ hlast hkept => exact hchange _ _ hkept hlast

/-- **Invariant rule**: what every change keeps holds after every sequence of calls. -/
theorem after_invariant {I : TaskOrchestrator → Prop} (hchange : ∀ o o', I o → o.Change o' → I o')
    {o : TaskOrchestrator} (h : I o) (calls : List Call) : I (o.after calls) :=
  foldl_invariant (fun o c _ ho => invariant_of_changes hchange ho (step_changes o c)) h

end TaskOrchestrator

end DarkMed.Tasks
