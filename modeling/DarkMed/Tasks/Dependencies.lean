import DarkMed.Lib.Dependency
import DarkMed.Tasks.Orchestrator

/-!
# Dependencies of Tasks

The dependency check is made at one transition only, to QUEUED.  It is enough for
every later state: SUCCESS is never left, no task gets new dependencies, and a task
in SUCCESS has been through QUEUED itself.
-/

namespace DarkMed.Tasks

open DarkMed.Lib Relation

/-- The states without a transition. -/
def TaskState.Terminal (s : TaskState) : Prop :=
  s = .success ∨ s = .cancelled ∨ s = .finalFailure

/-- From a terminal state no transition is allowed. -/
theorem transitions_of_terminal {s : TaskState} (h : s.Terminal) : transitions s = [] := by
  rcases h with rfl | rfl | rfl <;> rfl

namespace TaskOrchestrator

/-- A dependency of a task. -/
def DependsOn (o : TaskOrchestrator) (taskId dep : String) : Prop :=
  ∃ task, o.find taskId = some task ∧ dep ∈ task.dependencies

/-- The task exists and is in SUCCESS. -/
def Succeeded (o : TaskOrchestrator) (taskId : String) : Prop :=
  ∃ task, o.find taskId = some task ∧ task.state = .success

/-- What holds of the tasks whatever has been called. -/
structure Sound (o : TaskOrchestrator) : Prop where
  known : ∀ x dep, o.DependsOn x dep → ∃ task, o.find dep = some task
  wellFounded : WellFounded (Function.swap o.DependsOn)
  /-- Only QUEUED and CANCELLED can be reached from CREATED. -/
  queued : ∀ x task, o.find x = some task →
    task.state = .created ∨ task.state = .cancelled ∨ .queued ∈ task.history
  satisfied : ∀ x task, o.find x = some task → .queued ∈ task.history →
    ∀ dep ∈ task.dependencies, o.Succeeded dep
  running : ∀ x, x ∈ o.running ↔ ∃ task, o.find x = some task ∧ task.state = .running

/-! ## Changes -/

section Changes

variable {o : TaskOrchestrator}

/-- A transition changes no dependency. -/
theorem dependsOn_moved {task : Task} {target : TaskState} {error : String}
    (h : o.find task.taskId = some task) :
    (o.moved task target error).DependsOn = o.DependsOn := by
  funext x dep
  simp only [DependsOn, find_moved h]
  by_cases hx : x = task.taskId
  · subst hx
    simp [h, Task.moved]
  · simp [hx]

/-- A task in a terminal state stays as it is. -/
theorem Change.find_of_terminal {o' : TaskOrchestrator} (hchange : o.Change o') {x : String}
    {t : Task} (hfind : o.find x = some t) (hterminal : t.state.Terminal) : o'.find x = some t := by
  cases hchange with
  | create taskId agent dependencies maxRetries hfresh _ _ =>
    rw [find_created hfresh, if_neg (ne_of_find hfind hfresh), hfind]
  | move task target error henabled =>
    -- the moved task is another one: a terminal state allows no transition
    have hne : x ≠ task.taskId := by
      rintro rfl
      obtain rfl : task = t := Option.some.inj (henabled.found.symm.trans hfind)
      have hallowed := henabled.allowed
      rw [transitions_of_terminal hterminal] at hallowed
      cases hallowed
    rw [find_moved henabled.found, if_neg hne, hfind]

/-- A task in SUCCESS stays there. -/
theorem Succeeded.change {o' : TaskOrchestrator} {x : String} (hx : o.Succeeded x)
    (hchange : o.Change o') : o'.Succeeded x := by
  obtain ⟨t, hfind, hstate⟩ := hx
  exact ⟨t, hchange.find_of_terminal hfind (.inl hstate), hstate⟩

/-- A task is in the set of running tasks exactly when its transition is to RUNNING. -/
theorem mem_running_moved {task : Task} (hrunning : task.taskId ∈ o.running ↔ task.state = .running)
    (target : TaskState) (error : String) (x : String) :
    x ∈ (o.moved task target error).running ↔
      if x = task.taskId then target = .running else x ∈ o.running := by
  simp only [TaskOrchestrator.moved]
  -- into RUNNING, out of it, or neither
  by_cases htarget : target = .running
  · simp only [htarget, ne_eq, not_true_eq_false, and_false, if_true, if_false, Finset.mem_insert]
    by_cases hx : x = task.taskId <;> simp [hx]
  · by_cases hstate : task.state = .running
    · simp only [htarget, hstate, ne_eq, not_false_eq_true, and_self, if_true, if_false,
        Finset.mem_erase]
      by_cases hx : x = task.taskId <;> simp [hx]
    · simp only [htarget, hstate, false_and, if_false]
      by_cases hx : x = task.taskId
      · simp [hx, hrunning, hstate]
      · simp [hx]

end Changes

/-! ## The invariant -/

/-- An orchestrator begins without tasks. -/
theorem sound_empty : Sound {} where
  known := by rintro x dep ⟨task, hfind, -⟩; cases hfind
  wellFounded := ⟨fun x => ⟨x, by rintro y ⟨task, hfind, -⟩; cases hfind⟩⟩
  queued := nofun
  satisfied := nofun
  running x := by simp [find]

/-- A transition keeps the invariant: QUEUED is entered with dependencies that are done. -/
theorem Sound.moved {o : TaskOrchestrator} (h : o.Sound) {task : Task} {target : TaskState}
    (henabled : o.Enabled task target) (error : String) : (o.moved task target error).Sound := by
  have hfound := henabled.found
  have hallowed := henabled.allowed
  have hchange : o.Change (o.moved task target error) := .move task target error henabled
  refine ⟨?_, ?_, ?_, ?_, ?_⟩
  · intro x dep hdep
    rw [dependsOn_moved hfound] at hdep
    obtain ⟨t, ht⟩ := h.known x dep hdep
    rw [find_moved hfound]
    split
    · exact ⟨_, rfl⟩
    · exact ⟨t, ht⟩
  · rw [dependsOn_moved hfound]
    exact h.wellFounded
  · intro x t hfind
    rw [find_moved hfound] at hfind
    split at hfind
    · obtain rfl := Option.some.inj hfind
      rcases h.queued _ task hfound with hstate | hstate | hqueued
      · -- from CREATED a task is queued or cancelled
        rw [hstate] at hallowed
        have htarget : target = .queued ∨ target = .cancelled := by
          simpa [transitions] using hallowed
        rcases htarget with rfl | rfl
        · exact .inr (.inr (List.mem_append_right _ (List.mem_singleton.mpr rfl)))
        · exact .inr (.inl rfl)
      · rw [hstate] at hallowed
        cases hallowed
      · exact .inr (.inr (List.mem_append_left _ hqueued))
    · exact h.queued x t hfind
  · intro x t hfind hqueued dep hdep
    rw [find_moved hfound] at hfind
    split at hfind
    · obtain rfl := Option.some.inj hfind
      have hdep : dep ∈ task.dependencies := hdep
      rcases List.mem_append.mp hqueued with hold | hnew
      · exact (h.satisfied _ task hfound hold dep hdep).change hchange
      · -- the check at this very transition
        have htarget : target = .queued := (List.mem_singleton.mp hnew).symm
        exact Succeeded.change (henabled.satisfied htarget dep hdep) hchange
    · exact (h.satisfied x t hfind hqueued dep hdep).change hchange
  · intro x
    have htask : task.taskId ∈ o.running ↔ task.state = .running := by
      rw [h.running, hfound]
      simp
    rw [mem_running_moved htask, find_moved hfound]
    split
    · simp [Task.moved]
    · exact h.running x

/-- So does a new task, as its dependencies are known and it is not. -/
theorem Sound.created {o : TaskOrchestrator} (h : o.Sound) {task : Task}
    (hchange : o.Change { o with tasks := o.tasks ++ [task] })
    (hfresh : o.find task.taskId = none)
    (hknown : ∀ dep ∈ task.dependencies, ∃ d, o.find dep = some d)
    (hstate : task.state = .created) (hhistory : task.history = [.created]) :
    Sound { o with tasks := o.tasks ++ [task] } := by
  have hfind := find_created hfresh
  have hold : ∀ x dep, DependsOn { o with tasks := o.tasks ++ [task] } x dep → x ≠ task.taskId →
      o.DependsOn x dep := by
    rintro x dep ⟨t, ht, hdep⟩ hx
    rw [hfind, if_neg hx] at ht
    exact ⟨t, ht, hdep⟩
  -- the dependencies of the new task have been checked
  have hdepKnown : ∀ x dep, DependsOn { o with tasks := o.tasks ++ [task] } x dep →
      ∃ d, o.find dep = some d := by
    intro x dep hdep
    by_cases hx : x = task.taskId
    · obtain ⟨t, ht, hmem⟩ := hdep
      rw [hfind, if_pos hx] at ht
      obtain rfl := Option.some.inj ht
      exact hknown dep hmem
    · exact h.known x dep (hold x dep hdep hx)
  refine ⟨?_, ?_, ?_, ?_, ?_⟩
  · intro x dep hdep
    obtain ⟨d, hd⟩ := hdepKnown x dep hdep
    exact ⟨d, by rw [hfind, if_neg (ne_of_find hd hfresh), hd]⟩
  · -- nothing depends on the new task yet
    refine wellFounded_of_fresh h.wellFounded hold fun x dep hdep => ?_
    obtain ⟨d, hd⟩ := hdepKnown x dep hdep
    exact ne_of_find hd hfresh
  · intro x t ht
    rw [hfind] at ht
    split at ht
    · obtain rfl := Option.some.inj ht
      exact .inl hstate
    · exact h.queued x t ht
  · intro x t ht hqueued dep hdep
    rw [hfind] at ht
    split at ht
    · obtain rfl := Option.some.inj ht
      -- the new task has not been queued
      rw [hhistory] at hqueued
      exact absurd hqueued (by decide)
    · exact (h.satisfied x t ht hqueued dep hdep).change hchange
  · intro x
    have hrunning := h.running x
    rw [hfind]
    split
    · next hx =>
      subst hx
      rw [hfresh] at hrunning
      simpa [hstate] using hrunning
    · exact hrunning

/-- **One change** keeps the invariant. -/
theorem Sound.change {o o' : TaskOrchestrator} (h : o.Sound) (hchange : o.Change o') :
    o'.Sound := by
  cases hchange with
  | create taskId agent dependencies maxRetries hfresh hknown hbounded =>
    exact h.created (.create taskId agent dependencies maxRetries hfresh hknown hbounded) hfresh
      hknown rfl rfl
  | move task target error henabled => exact h.moved henabled error

/-- Any sequence of calls keeps it. -/
theorem Sound.after {o : TaskOrchestrator} (h : o.Sound) (calls : List Call) :
    (o.after calls).Sound :=
  after_invariant (fun _ _ h hchange => Sound.change h hchange) h calls

/-- It holds behind every sequence of calls. -/
theorem sound_after (calls : List Call) : (after {} calls).Sound :=
  sound_empty.after calls

/-! ## Dependency safety -/

/-- A task in a terminal state stays as it is, whatever is called. -/
theorem find_after_of_terminal {o : TaskOrchestrator} {x : String} {task : Task}
    (hfind : o.find x = some task) (hterminal : task.state.Terminal) (calls : List Call) :
    (o.after calls).find x = some task :=
  after_invariant (I := fun o => o.find x = some task)
    (fun _ _ h hchange => hchange.find_of_terminal h hterminal) hfind calls

/-- A task in SUCCESS stays there, whatever is called. -/
theorem Succeeded.after {o : TaskOrchestrator} {x : String} (hx : o.Succeeded x)
    (calls : List Call) : (o.after calls).Succeeded x := by
  obtain ⟨t, hfind, hstate⟩ := hx
  exact ⟨t, find_after_of_terminal hfind (.inl hstate) calls, hstate⟩

/-- A task in SUCCESS has been queued before. -/
theorem Sound.queued_of_success {o : TaskOrchestrator} (h : o.Sound) {x : String} {task : Task}
    (hfind : o.find x = some task) (hstate : task.state = .success) : .queued ∈ task.history := by
  rcases h.queued x task hfind with hcreated | hcancelled | hqueued
  · exact absurd (hstate.symm.trans hcreated) nofun
  · exact absurd (hstate.symm.trans hcancelled) nofun
  · exact hqueued

/-- A task that has been queued has all its dependencies in SUCCESS, however far away. -/
theorem Sound.succeeded_of_queued {o : TaskOrchestrator} (h : o.Sound) {x : String} {task : Task}
    (hfind : o.find x = some task) (hqueued : .queued ∈ task.history) :
    ∀ dep, TransGen o.DependsOn x dep → o.Succeeded dep := by
  -- along the relation: a dependency in SUCCESS was queued itself, behind its own dependencies
  refine forall_transGen ?_ ?_
  · rintro y ⟨t, hy, hstate⟩ dep ⟨t', hy', hdep⟩
    obtain rfl := Option.some.inj (hy.symm.trans hy')
    exact h.satisfied y t hy (h.queued_of_success hy hstate) dep hdep
  · rintro dep ⟨t, hx, hdep⟩
    obtain rfl := Option.some.inj (hfind.symm.trans hx)
    exact h.satisfied x task hfind hqueued dep hdep

/-- **Dependency safety.** After any calls: no task depends on itself; the dependencies of a task
    that has ever been queued are in SUCCESS, then and after any further calls; and a terminal
    state is never left. -/
theorem dependency_safety (pre post : List Call) :
    (∀ x, ¬ TransGen (after {} pre).DependsOn x x) ∧
    (∀ x task, (after {} pre).find x = some task → .queued ∈ task.history →
      ∀ dep, TransGen (after {} pre).DependsOn x dep →
        (after {} pre).Succeeded dep ∧ (after {} (pre ++ post)).Succeeded dep) ∧
    (∀ x task, (after {} pre).find x = some task → task.state.Terminal →
      ∃ task', (after {} (pre ++ post)).find x = some task' ∧ task'.state = task.state) := by
  have hsound := sound_after pre
  refine ⟨not_transGen_self hsound.wellFounded, ?_, ?_⟩
  · intro x task hfind hqueued dep hdep
    have hsucceeded := hsound.succeeded_of_queued hfind hqueued dep hdep
    exact ⟨hsucceeded, by rw [after_append]; exact hsucceeded.after post⟩
  · intro x task hfind hterminal
    rw [after_append]
    exact ⟨task, find_after_of_terminal hfind hterminal post, rfl⟩

end TaskOrchestrator

end DarkMed.Tasks
