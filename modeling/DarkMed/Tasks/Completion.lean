import DarkMed.Tasks.Dependencies

/-!
# Completion of Tasks

A task can still be driven to SUCCESS unless it, or one of its dependencies, has been
cancelled or has failed for good.  Half-finished failures, timeouts and recoveries all
have a way back to QUEUED; the dependencies come first, by induction along the
dependency relation.
-/

namespace DarkMed.Tasks

open DarkMed.Lib Relation

/-! ## Ways to SUCCESS -/

/-- The states that a task cannot leave for SUCCESS. -/
def TaskState.Blocked (s : TaskState) : Prop :=
  s = .cancelled ∨ s = .finalFailure

/-- The next state on the way to SUCCESS. -/
def TaskState.next : TaskState → TaskState
  | .created | .retry | .recovery => .queued
  | .queued => .running
  | .failure => .retry
  | .timeout => .recovery
  | _ => .success

/-- How many transitions SUCCESS is away. -/
def TaskState.distance : TaskState → Nat
  | .created | .retry | .recovery => 3
  | .queued => 2
  | .running => 1
  | .failure | .timeout => 4
  | _ => 0

/-- The way to SUCCESS is allowed step by step, stays clear of the blocked states and gets
    shorter. -/
theorem TaskState.next_spec {s : TaskState} (hsuccess : s ≠ .success) (hblocked : ¬ s.Blocked) :
    s.next ∈ transitions s ∧ ¬ s.next.Blocked ∧ s.next.distance < s.distance := by
  unfold TaskState.Blocked at hblocked ⊢
  cases s <;> simp [next, distance, transitions] at hsuccess hblocked ⊢

namespace TaskOrchestrator

/-- The task exists and is in a state that it cannot leave for SUCCESS. -/
def Blocked (o : TaskOrchestrator) (taskId : String) : Prop :=
  ∃ task, o.find taskId = some task ∧ task.state.Blocked

/-- What driving a task to SUCCESS does to the others: no task comes or goes, none gets new
    dependencies, and none gets blocked. -/
structure Keeps (o o' : TaskOrchestrator) : Prop where
  dependsOn : o'.DependsOn = o.DependsOn
  known : ∀ x, (∃ task, o.find x = some task) → ∃ task, o'.find x = some task
  blocked : ∀ x, o'.Blocked x → o.Blocked x

/-- No call changes nothing. -/
theorem Keeps.refl (o : TaskOrchestrator) : o.Keeps o :=
  ⟨rfl, fun _ h => h, fun _ h => h⟩

/-- What calls keep one after the other. -/
theorem Keeps.trans {o₁ o₂ o₃ : TaskOrchestrator} (h : o₁.Keeps o₂) (h' : o₂.Keeps o₃) :
    o₁.Keeps o₃ :=
  ⟨h'.dependsOn.trans h.dependsOn, fun x hx => h'.known x (h.known x hx),
    fun x hx => h.blocked x (h'.blocked x hx)⟩

section Driving

variable {o : TaskOrchestrator} {x : String} {task : Task}

/-- A transition that is enabled is made. -/
theorem after_transition {target : TaskState} (henabled : o.Enabled task target) :
    o.after [.transition task.taskId target ""] = o.moved task target "" := by
  simp [TaskOrchestrator.after, step, call, transition_of_enabled henabled "", ofExcept]

/-- A transition to a state that is not blocked blocks no task. -/
theorem keeps_moved {target : TaskState} (hfind : o.find task.taskId = some task)
    (htarget : ¬ target.Blocked) : o.Keeps (o.moved task target "") := by
  refine ⟨dependsOn_moved hfind, fun x hx => ?_, fun x => ?_⟩
  · rw [find_moved hfind]
    split
    · exact ⟨_, rfl⟩
    · exact hx
  · rintro ⟨t, ht, hblocked⟩
    rw [find_moved hfind] at ht
    split at ht
    · obtain rfl := Option.some.inj ht
      exact absurd hblocked htarget
    · exact ⟨t, ht, hblocked⟩

/-- A task with its dependencies in SUCCESS gets there, by the distance that is left. -/
theorem exists_calls_of_satisfied (hsound : o.Sound) (hfind : o.find x = some task)
    (hblocked : ¬ task.state.Blocked) (hdeps : ∀ dep ∈ task.dependencies, o.Succeeded dep) :
    ∃ calls, (o.after calls).Succeeded x ∧ o.Keeps (o.after calls) := by
  -- on the distance to SUCCESS, one transition at a time
  obtain ⟨n, hn⟩ : ∃ n, task.state.distance = n := ⟨_, rfl⟩
  induction n using Nat.strong_induction_on generalizing o task with
  | h n ih =>
    by_cases hsuccess : task.state = .success
    · exact ⟨[], ⟨task, hfind, hsuccess⟩, .refl o⟩
    · obtain ⟨hallowed, hopen, hcloser⟩ := TaskState.next_spec hsuccess hblocked
      obtain rfl := taskId_of_find hfind
      -- a task is in the set of running tasks only while its state is RUNNING
      have hsingle : task.state.next = .running → task.taskId ∉ o.running := by
        intro hnext hmem
        obtain ⟨t, ht, hrunning⟩ := (hsound.running _).mp hmem
        obtain rfl := Option.some.inj (hfind.symm.trans ht)
        rw [hrunning] at hnext
        cases hnext
      have henabled : o.Enabled task task.state.next := ⟨hfind, hallowed, fun _ => hdeps, hsingle⟩
      have hchange : o.Change (o.moved task task.state.next "") := .move _ _ _ henabled
      have hfind' : (o.moved task task.state.next "").find task.taskId =
          some (task.moved task.state.next "") := by
        rw [find_moved hfind, if_pos rfl]
      -- one transition nearer, with the same dependencies
      obtain ⟨calls, hsucceeded, hkeeps⟩ := ih _ (hn ▸ hcloser) (hsound.change hchange) hfind' hopen
        (fun dep hdep => (hdeps dep hdep).change hchange) rfl
      refine ⟨.transition task.taskId task.state.next "" :: calls, ?_⟩
      have hafter : o.after (.transition task.taskId task.state.next "" :: calls) =
          (o.moved task task.state.next "").after calls := by
        rw [← List.singleton_append, after_append, after_transition henabled]
      rw [hafter]
      exact ⟨hsucceeded, (keeps_moved hfind hopen).trans hkeeps⟩

end Driving

/-- The dependencies of a task one after another. -/
theorem exists_calls_of_forall {needs : String → String → Prop} {o : TaskOrchestrator} {x : String}
    (hdrive : ∀ dep, needs x dep → ∀ o : TaskOrchestrator, o.Sound → o.DependsOn = needs →
      (∃ task, o.find dep = some task) → ¬ o.Blocked dep →
      (∀ y, TransGen needs dep y → ¬ o.Blocked y) →
      ∃ calls, (o.after calls).Succeeded dep ∧ o.Keeps (o.after calls))
    (hsound : o.Sound) (hneeds : o.DependsOn = needs)
    (hopen : ∀ y, TransGen needs x y → ¬ o.Blocked y) {deps : List String}
    (hdeps : ∀ dep ∈ deps, needs x dep) :
    ∃ calls, (∀ dep ∈ deps, (o.after calls).Succeeded dep) ∧ o.Keeps (o.after calls) := by
  -- a dependency that has been driven to SUCCESS stays there while the next one is driven
  induction deps generalizing o with
  | nil => exact ⟨[], nofun, .refl o⟩
  | cons dep deps ih =>
    have hdep : needs x dep := hdeps dep List.mem_cons_self
    have hknown : ∃ task, o.find dep = some task := hsound.known x dep (hneeds ▸ hdep)
    obtain ⟨first, hfirst, hkeeps⟩ :=
      hdrive dep hdep o hsound hneeds hknown (hopen dep (.single hdep))
      fun y hy => hopen y (.head hdep hy)
    obtain ⟨rest, hrest, hkeeps'⟩ := ih (hsound.after first) (hkeeps.dependsOn.trans hneeds)
      (fun y hy hblocked => hopen y hy (hkeeps.blocked y hblocked))
      fun d hd => hdeps d (List.mem_cons_of_mem _ hd)
    refine ⟨first ++ rest, ?_, ?_⟩
    · rw [after_append, List.forall_mem_cons]
      exact ⟨hfirst.after rest, hrest⟩
    · rw [after_append]
      exact hkeeps.trans hkeeps'

/-- **A task that nothing blocks gets to SUCCESS**, its dependencies first. -/
theorem exists_calls_succeeded {needs : String → String → Prop}
    (hwf : WellFounded (Function.swap needs)) (x : String) :
    ∀ o : TaskOrchestrator, o.Sound → o.DependsOn = needs → (∃ task, o.find x = some task) →
      ¬ o.Blocked x → (∀ y, TransGen needs x y → ¬ o.Blocked y) →
      ∃ calls, (o.after calls).Succeeded x ∧ o.Keeps (o.after calls) := by
  -- along the dependency relation: the dependencies first, then the task's own transitions
  induction x using hwf.induction with
  | h x ih =>
    rintro o hsound hneeds ⟨task, hfind⟩ hblocked hopen
    have hdeps : ∀ dep ∈ task.dependencies, needs x dep := fun dep hdep =>
      hneeds ▸ ⟨task, hfind, hdep⟩
    obtain ⟨first, hsatisfied, hkeeps⟩ := exists_calls_of_forall (fun dep hdep => ih dep hdep)
      hsound hneeds hopen hdeps
    obtain ⟨task', hfind'⟩ := hkeeps.known x ⟨task, hfind⟩
    have hblocked' : ¬ task'.state.Blocked :=
      fun h => hblocked (hkeeps.blocked x ⟨task', hfind', h⟩)
    have hdeps' : ∀ dep ∈ task'.dependencies, (o.after first).Succeeded dep := fun dep hdep => by
      have hneeded : o.DependsOn x dep := hkeeps.dependsOn ▸ ⟨task', hfind', hdep⟩
      obtain ⟨t, ht, hmem⟩ := hneeded
      obtain rfl := Option.some.inj (hfind.symm.trans ht)
      exact hsatisfied dep hmem
    obtain ⟨rest, hsucceeded, hkeeps'⟩ :=
      exists_calls_of_satisfied (hsound.after first) hfind' hblocked' hdeps'
    refine ⟨first ++ rest, ?_⟩
    rw [after_append]
    exact ⟨hsucceeded, hkeeps.trans hkeeps'⟩

/-! ## The way is open exactly when nothing blocks it -/

/-- No change takes a dependency away. -/
theorem DependsOn.change {o o' : TaskOrchestrator} (hchange : o.Change o') {x dep : String}
    (h : o.DependsOn x dep) : o'.DependsOn x dep := by
  cases hchange with
  | create taskId agent dependencies maxRetries hfresh _ _ =>
    obtain ⟨t, hfind, hdep⟩ := h
    exact ⟨t, by rw [find_created hfresh, if_neg (ne_of_find hfind hfresh), hfind], hdep⟩
  | move task target error henabled =>
    rw [dependsOn_moved henabled.found]
    exact h

/-- Nor does any sequence of calls. -/
theorem DependsOn.after {o : TaskOrchestrator} {x dep : String} (h : o.DependsOn x dep)
    (calls : List Call) : (o.after calls).DependsOn x dep :=
  after_invariant (I := fun o => o.DependsOn x dep) (fun _ _ h hchange => h.change hchange) h calls

/-- What is blocked never succeeds. -/
theorem Blocked.not_succeeded {o : TaskOrchestrator} {x : String} (h : o.Blocked x)
    (calls : List Call) : ¬ (o.after calls).Succeeded x := by
  rintro ⟨t, hfind, hstate⟩
  obtain ⟨task, hfind', hblocked⟩ := h
  have hkept := find_after_of_terminal hfind' (.inr hblocked) calls
  obtain rfl := Option.some.inj (hkept.symm.trans hfind)
  rcases hblocked with hcancelled | hfailed
  · exact absurd (hstate.symm.trans hcancelled) nofun
  · exact absurd (hstate.symm.trans hfailed) nofun

/-- **No task is stranded without cause.** After any calls, a task can still be driven to SUCCESS
    exactly when neither it nor any of its dependencies is cancelled or has failed for good. -/
theorem can_succeed_iff (calls : List Call) {x : String} {task : Task}
    (hfind : (after {} calls).find x = some task) :
    (∃ more, ((after {} calls).after more).Succeeded x) ↔
      ¬ (after {} calls).Blocked x ∧
        ∀ dep, TransGen (after {} calls).DependsOn x dep → ¬ (after {} calls).Blocked dep := by
  have hsound := sound_after calls
  constructor
  · rintro ⟨more, hsucceeded⟩
    refine ⟨fun hblocked => hblocked.not_succeeded more hsucceeded, fun dep hdep hblocked => ?_⟩
    obtain ⟨t, ht, hstate⟩ := hsucceeded
    have hsound' := hsound.after more
    -- by then all dependencies of the task are in SUCCESS, and this one was one of them already
    have hqueued : .queued ∈ t.history := hsound'.queued_of_success ht hstate
    have hdep' : TransGen ((after {} calls).after more).DependsOn x dep :=
      TransGen.mono (fun _ _ (h : DependsOn _ _ _) => h.after more) x dep hdep
    exact hblocked.not_succeeded more (hsound'.succeeded_of_queued ht hqueued dep hdep')
  · rintro ⟨hblocked, hopen⟩
    obtain ⟨more, hsucceeded, -⟩ := exists_calls_succeeded hsound.wellFounded x _ hsound rfl
      ⟨task, hfind⟩ hblocked hopen
    exact ⟨more, hsucceeded⟩

/-- A dependency that is cancelled before it has run. -/
def cancelledPending : List Call :=
  [.create "pending" "QA" [] 0, .create "second" "Security" ["pending"] 0, .cancel "pending"]

/-- A dependency that has been cancelled keeps the task from SUCCESS. -/
theorem can_succeed_iff_cancelledPending :
    (∃ more, ((after {} cancelledPending).after more).Succeeded "second") ↔
      ¬ (after {} cancelledPending).Blocked "second" ∧
        ∀ dep, TransGen (after {} cancelledPending).DependsOn "second" dep →
          ¬ (after {} cancelledPending).Blocked dep :=
  @can_succeed_iff cancelledPending "second"
    { taskId := "second", agent := "Security", dependencies := ["pending"] } (by decide +kernel)

end TaskOrchestrator

end DarkMed.Tasks
