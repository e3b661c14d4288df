import DarkMed.Tasks.Retries

/-!
# Failing under Concurrency

Threads call the orchestrator at the same time.  Every method but `fail` is one section
under the lock; `fail` is a lookup, a transition, an unlocked read of the attempts and a
second transition, and the sections of other calls fall between these.

The main result says which interleavings leave every `fail` atomic.
-/

namespace DarkMed.Tasks

open DarkMed.Lib.Transition Relation

/-! ## Calls of `fail` -/

/-- What a call of `fail` does next, or how it has ended. -/
inductive FailStage where
  | getting
  | failing
  | reading
  | choosing (target : TaskState)
  | returned
  | raised
  deriving DecidableEq, Repr

structure FailCall where
  taskId : String
  error : String
  stage : FailStage := .getting
  /-- The places in the task's history where the call has made its entries; no section reads
      them. -/
  entries : List Nat := []
  /-- The attempts of the run that has failed, at the transition to FAILURE; no section reads
      them. -/
  failedAttempts : Nat := 0
  deriving DecidableEq, Repr

/-- The orchestrator, and the calls of `fail` that any thread has made. -/
structure Threads where
  orchestrator : TaskOrchestrator := {}
  fails : List FailCall := []
  deriving DecidableEq

inductive Action where
  /-- A call that is one section. -/
  | call (c : Call)
  /-- A thread calls `fail`. -/
  | fail (taskId error : String)
  /-- The next section of a call of `fail`. -/
  | advance (n : Nat)
  deriving DecidableEq, Repr

/-- A call of `fail`. -/
def Call.isFail : Call → Bool
  | .fail .. => true
  | _ => false

/-- A transition of a call: its entry is the last one in the history. -/
def FailCall.transitioned (f : FailCall) (o : TaskOrchestrator) (target : TaskState)
    (next : Task → FailCall) : TaskOrchestrator × FailCall :=
  match o.transition f.taskId target f.error with
  | .error _ => (o, { f with stage := .raised })
  | .ok (o, task) =>
    (o, { next task with entries := f.entries ++ [task.history.length - 1] })

/-- The next section of a call of `fail`. -/
def FailCall.advance (f : FailCall) (o : TaskOrchestrator) : Option (TaskOrchestrator × FailCall) :=
  match f.stage with
  -- `self.get(task_id)`
  | .getting =>
    match o.get f.taskId with
    | .error _ => some (o, { f with stage := .raised })
    | .ok _ => some (o, { f with stage := .failing })
  | .failing =>
    some (f.transitioned o .failure fun task =>
      { f with stage := .reading, failedAttempts := task.attempts })
  | .reading =>
    -- not under the lock
    (o.find f.taskId).map fun task =>
      (o, { f with stage := .choosing (TaskOrchestrator.failTarget task.attempts task.maxRetries) })
  | .choosing target => some (f.transitioned o target fun _ => { f with stage := .returned })
  | .returned | .raised => none

def Threads.step (s : Threads) : Action → Option Threads
  | .call c => if c.isFail then none else some { s with orchestrator := s.orchestrator.step c }
  | .fail taskId error => some { s with fails := s.fails ++ [{ taskId, error }] }
  | .advance n =>
    match s.fails[n]? with
    | none => none
    | some f =>
      (f.advance s.orchestrator).map fun (orchestrator, f) =>
        { orchestrator, fails := s.fails.set n f }

/-! ## Atomicity -/

/-- What a call that has ended has done: a call that has raised has made no entry, and a call
    that has returned has made two, one behind the other. -/
structure FailCall.Atomic (f : FailCall) (o : TaskOrchestrator) : Prop where
  raised : f.stage = .raised → f.entries = []
  returned : f.stage = .returned → ∃ i task, f.entries = [i, i + 1] ∧
    o.find f.taskId = some task ∧ task.history[i]? = some .failure ∧
    task.history[i + 1]? =
      some (TaskOrchestrator.failTarget f.failedAttempts task.maxRetries)

/-- After the action every call of `fail` is atomic, and a section without an entry has changed
    nothing. -/
def FailsAtomically (s : Threads) (a : Action) : Prop :=
  ∀ t, s.step a = some t →
    (∀ f ∈ t.fails, f.Atomic t.orchestrator) ∧
    ∀ n f f', a = .advance n → s.fails[n]? = some f → t.fails[n]? = some f' →
      f'.entries = f.entries → t.orchestrator = s.orchestrator

/-- Between the transitions of a call of `fail`, no other call has moved its task: the FAILURE
    entry of the call is the last one when its second transition comes. -/
def Undisturbed (s : Threads) (a : Action) : Prop :=
  ∀ n f target, a = .advance n → s.fails[n]? = some f → f.stage = .choosing target →
    ∀ i task, f.entries = [i] → s.orchestrator.find f.taskId = some task →
      task.history.length = i + 1

/-! ## Histories only grow -/

namespace TaskOrchestrator

/-- A task's state is the last entry of its history. -/
def Logged (o : TaskOrchestrator) : Prop :=
  ∀ x task, o.find x = some task → task.history.getLast? = some task.state

/-- The task is as it was, or its history is longer. -/
def Grows (o o' : TaskOrchestrator) : Prop :=
  ∀ x task, o.find x = some task → ∃ task', o'.find x = some task' ∧
    task.history <+: task'.history ∧ task'.maxRetries = task.maxRetries ∧
    (task'.history.length = task.history.length → task' = task)

/-- Nothing has happened. -/
theorem Grows.refl (o : TaskOrchestrator) : o.Grows o :=
  fun _ task hfind => ⟨task, hfind, List.prefix_rfl, rfl, fun _ => rfl⟩

/-- One after the other. -/
theorem Grows.trans {o₁ o₂ o₃ : TaskOrchestrator} (h : o₁.Grows o₂) (h' : o₂.Grows o₃) :
    o₁.Grows o₃ := by
  intro x task hfind
  obtain ⟨task₂, hfind₂, hprefix, hmax, hsame⟩ := h x task hfind
  obtain ⟨task₃, hfind₃, hprefix', hmax', hsame'⟩ := h' x task₂ hfind₂
  refine ⟨task₃, hfind₃, hprefix.trans hprefix', hmax'.trans hmax, fun hlength => ?_⟩
  -- equal lengths at both ends leave no growth in between
  have hle := hprefix.length_le
  have hle' := hprefix'.length_le
  rw [hsame' (by omega), hsame (by omega)]

/-- A transition makes one history longer. -/
theorem grows_moved {o : TaskOrchestrator} {task : Task} (hfind : o.find task.taskId = some task)
    (target : TaskState) (error : String) : o.Grows (o.moved task target error) := by
  intro x t ht
  rw [find_moved hfind]
  split
  · next hx =>
    subst hx
    obtain rfl := Option.some.inj (hfind.symm.trans ht)
    refine ⟨_, rfl, List.prefix_append _ _, rfl, fun hlength => ?_⟩
    simp [Task.moved] at hlength
  · exact ⟨t, ht, List.prefix_rfl, rfl, fun _ => rfl⟩

/-- A change makes histories longer, never shorter or different. -/
theorem Change.grows {o o' : TaskOrchestrator} (hchange : o.Change o') : o.Grows o' := by
  cases hchange with
  | create taskId agent dependencies maxRetries hfresh _ _ =>
    intro x t ht
    refine ⟨t, ?_, List.prefix_rfl, rfl, fun _ => rfl⟩
    rw [find_created hfresh, if_neg (ne_of_find ht hfresh), ht]
  | move task target error henabled => exact grows_moved henabled.found target error

/-- A state that is entered is the last of its history. -/
theorem Change.logged {o o' : TaskOrchestrator} (h : o.Logged) (hchange : o.Change o') :
    o'.Logged := by
  intro x t ht
  cases hchange with
  | create taskId agent dependencies maxRetries hfresh _ _ =>
    rw [find_created hfresh] at ht
    split at ht
    · obtain rfl := Option.some.inj ht
      rfl
    · exact h x t ht
  | move task target error henabled =>
    rw [find_moved henabled.found] at ht
    split at ht
    · obtain rfl := Option.some.inj ht
      simp [Task.moved]
    · exact h x t ht

/-- So do any number of changes. -/
theorem grows_of_changes {o o' : TaskOrchestrator} (hchanges : ReflTransGen Change o o') :
    o.Grows o' := by
  induction hchanges with
  | refl => exact .refl o
  | tail _ hlast ih => exact ih.trans hlast.grows

end TaskOrchestrator

/-! ## Sections of a call -/

namespace FailCall

open TaskOrchestrator

variable {f f' : FailCall} {o o' : TaskOrchestrator}

/-- A section makes one change at most. -/
theorem transitioned_cases (f : FailCall) (o : TaskOrchestrator) (target : TaskState)
    (next : Task → FailCall) :
    f.transitioned o target next = (o, { f with stage := .raised }) ∨
    ∃ task, task.taskId = f.taskId ∧ o.Enabled task target ∧
      f.transitioned o target next = (o.moved task target f.error,
        { next (task.moved target f.error) with entries := f.entries ++ [task.history.length] }) := by
  unfold transitioned
  cases hresult : o.transition f.taskId target f.error with
  | error e => exact .inl rfl
  | ok r =>
    obtain ⟨task, hid, henabled, rfl⟩ := transition_eq_ok_iff.mp hresult
    refine .inr ⟨task, hid, henabled, ?_⟩
    simp [Task.moved]

/-- A section leaves the orchestrator alone, or makes an entry of its call. -/
theorem advance_cases (h : f.advance o = some (o', f')) :
    o' = o ∨ ∃ task target, o.Enabled task target ∧ o' = o.moved task target f.error ∧
      f'.entries = f.entries ++ [task.history.length] := by
  -- either of the two transitions raises or is one change
  have htransitioned : ∀ target next, f.transitioned o target next = (o', f') →
      o' = o ∨ ∃ task target, o.Enabled task target ∧ o' = o.moved task target f.error ∧
        f'.entries = f.entries ++ [task.history.length] := by
    intro target next heq
    rcases transitioned_cases f o target next with hraised | ⟨task, -, henabled, hmoved⟩
    · exact .inl (Prod.mk.inj (hraised.symm.trans heq)).1.symm
    · obtain ⟨rfl, rfl⟩ := Prod.mk.inj (hmoved.symm.trans heq)
      exact .inr ⟨task, target, henabled, rfl, rfl⟩
  unfold advance at h
  split at h
  · -- the lookup
    split at h <;> (cases h; exact .inl rfl)
  · exact htransitioned _ _ (Option.some.inj h)
  · -- the unlocked read
    obtain ⟨task, -, heq⟩ := Option.map_eq_some_iff.mp h
    cases heq
    exact .inl rfl
  · exact htransitioned _ _ (Option.some.inj h)
  · cases h
  · cases h

/-- A section of `fail` is one change at most. -/
theorem advance_changes (h : f.advance o = some (o', f')) : ReflTransGen Change o o' := by
  rcases advance_cases h with rfl | ⟨task, target, henabled, rfl, -⟩
  · exact .refl
  · exact .single (.move task target f.error henabled)

/-- A section without an entry has changed nothing. -/
theorem advance_silent (h : f.advance o = some (o', f')) (hentries : f'.entries = f.entries) :
    o' = o := by
  rcases advance_cases h with hsame | ⟨task, target, -, -, hmade⟩
  · exact hsame
  · rw [hentries] at hmade
    simp at hmade

/-! ## The invariant of a call -/

/-- The FAILURE entry of a call between its transitions.  As long as it is the last one, the
    attempts are those of the run that has failed. -/
structure Open (f : FailCall) (o : TaskOrchestrator) (i : Nat) (task : Task) : Prop where
  entries : f.entries = [i]
  found : o.find f.taskId = some task
  failure : task.history[i]? = some .failure
  attempts : task.history.length = i + 1 → task.attempts = f.failedAttempts
  chosen : task.history.length = i + 1 → ∀ target, f.stage = .choosing target →
    target = failTarget f.failedAttempts task.maxRetries

structure Fits (f : FailCall) (o : TaskOrchestrator) : Prop where
  early : f.stage = .getting ∨ f.stage = .failing → f.entries = []
  between : f.stage = .reading ∨ (∃ target, f.stage = .choosing target) →
    ∃ i task, f.Open o i task
  atomic : f.Atomic o

/-- What a history has at a place, a longer one has there too. -/
theorem getElem?_of_prefix {l l' : List TaskState} (h : l <+: l') {i : Nat} {a : TaskState}
    (hget : l[i]? = some a) : l'[i]? = some a := by
  obtain ⟨suffix, rfl⟩ := h
  obtain ⟨hi, -⟩ := List.getElem?_eq_some_iff.mp hget
  rwa [List.getElem?_append_left hi]

/-- What has been atomic stays so while histories grow. -/
theorem Atomic.grows (h : f.Atomic o) (hgrows : o.Grows o') : f.Atomic o' := by
  refine ⟨h.raised, fun hreturned => ?_⟩
  obtain ⟨i, task, hentries, hfind, hfailure, htarget⟩ := h.returned hreturned
  obtain ⟨task', hfind', hprefix, hmax, -⟩ := hgrows _ task hfind
  exact ⟨i, task', hentries, hfind', getElem?_of_prefix hprefix hfailure,
    by rw [hmax]; exact getElem?_of_prefix hprefix htarget⟩

/-- A call between its two transitions stays there while others go on. -/
theorem Open.grows {i : Nat} {task : Task} (h : f.Open o i task) (hgrows : o.Grows o') :
    ∃ task', f.Open o' i task' := by
  obtain ⟨task', hfind, hprefix, hmax, hsame⟩ := hgrows _ task h.found
  obtain ⟨hi, -⟩ := List.getElem?_eq_some_iff.mp h.failure
  have hle := hprefix.length_le
  -- a history that still ends at the entry has not grown
  have hkept : task'.history.length = i + 1 → task' = task ∧ task.history.length = i + 1 :=
    fun hlength => ⟨hsame (by omega), by omega⟩
  refine ⟨task', h.entries, hfind, getElem?_of_prefix hprefix h.failure, fun hlength => ?_,
    fun hlength => ?_⟩
  · obtain ⟨rfl, hlength⟩ := hkept hlength
    exact h.attempts hlength
  · obtain ⟨rfl, hlength⟩ := hkept hlength
    exact h.chosen hlength

/-- What is known of a call does not depend on what others do. -/
theorem Fits.grows (h : f.Fits o) (hgrows : o.Grows o') : f.Fits o' := by
  refine ⟨h.early, fun hstage => ?_, h.atomic.grows hgrows⟩
  obtain ⟨i, task, hopen⟩ := h.between hstage
  obtain ⟨task', hopen'⟩ := hopen.grows hgrows
  exact ⟨i, task', hopen'⟩

/-- A call that has raised before its first entry. -/
theorem fits_of_raised (hstage : f.stage = .raised) (hentries : f.entries = []) : f.Fits o := by
  refine ⟨fun h => ?_, fun h => ?_, fun _ => hentries, fun h => ?_⟩ <;> simp [hstage] at h

/-- Every section but the last keeps the invariant of its call. -/
theorem Fits.advance (h : f.Fits o) (hadvance : f.advance o = some (o', f'))
    (hstage : ∀ target, f.stage ≠ .choosing target) : f'.Fits o' := by
  unfold FailCall.advance at hadvance
  split at hadvance
  · next hgetting =>
    have hentries := h.early (.inl hgetting)
    split at hadvance
    · cases hadvance
      exact fits_of_raised rfl hentries
    · cases hadvance
      exact ⟨fun _ => hentries, by simp, by simp, by simp⟩
  · next hfailing =>
    have hentries := h.early (.inr hfailing)
    have hresult := Option.some.inj hadvance
    rcases transitioned_cases f o .failure fun task =>
        { f with stage := .reading, failedAttempts := task.attempts } with
      hraised | ⟨task, hid, henabled, hmoved⟩
    · obtain ⟨rfl, rfl⟩ := Prod.mk.inj (hraised.symm.trans hresult)
      exact fits_of_raised rfl hentries
    · obtain ⟨rfl, rfl⟩ := Prod.mk.inj (hmoved.symm.trans hresult)
      -- the call is now between its two transitions, and its entry is the last of the history
      refine ⟨by simp, fun _ => ⟨task.history.length, task.moved .failure f.error, ?_⟩, by simp,
        by simp⟩
      refine ⟨by simp [hentries], ?_, by simp [Task.moved], fun _ => rfl, by simp⟩
      rw [find_moved henabled.found, if_pos hid.symm]
  · next hreading =>
    obtain ⟨i, task, hopen⟩ := h.between (.inl hreading)
    obtain ⟨t, hfind, heq⟩ := Option.map_eq_some_iff.mp hadvance
    obtain rfl := Option.some.inj (hopen.found.symm.trans hfind)
    cases heq
    refine ⟨by simp, fun _ => ⟨i, task, ?_⟩, by simp, by simp⟩
    refine ⟨hopen.entries, hopen.found, hopen.failure, hopen.attempts,
      fun hlength target hstage => ?_⟩
    -- nobody has moved the task, so the attempts just read are those of the failed run
    rw [← hopen.attempts hlength]
    exact (FailStage.choosing.inj hstage).symm
  · next target hchoosing => exact absurd hchoosing (hstage target)
  · cases hadvance
  · cases hadvance

/-- **The last section is atomic exactly when** the FAILURE entry is still the last one. -/
theorem atomic_iff_of_choosing {target : TaskState} {i : Nat} {task : Task}
    (hlogged : o.Logged) (hopen : f.Open o i task) (hstage : f.stage = .choosing target)
    (hadvance : f.advance o = some (o', f')) :
    f'.Atomic o' ↔ task.history.length = i + 1 := by
  have hresult : f.transitioned o target (fun _ => { f with stage := .returned }) = (o', f') := by
    rw [advance, hstage] at hadvance
    exact Option.some.inj hadvance
  have hentries := hopen.entries
  constructor
  · intro hatomic
    -- a call that raises here keeps its first entry; one that returns has its second one where
    -- the history ended
    rcases transitioned_cases f o target fun _ => { f with stage := .returned } with
      hraised | ⟨t, hid, henabled, hmoved⟩
    · obtain ⟨-, rfl⟩ := Prod.mk.inj (hraised.symm.trans hresult)
      exact absurd (hatomic.raised rfl) (by simp [hentries])
    · obtain ⟨-, rfl⟩ := Prod.mk.inj (hmoved.symm.trans hresult)
      obtain rfl := Option.some.inj (hopen.found.symm.trans (hid ▸ henabled.found))
      obtain ⟨j, -, hplaces, -⟩ := hatomic.returned rfl
      simp only [hentries, List.singleton_append, List.cons.injEq, and_true] at hplaces
      omega
  · intro hlength
    -- the task is still in FAILURE, and the target the one of its own run
    have htarget := hopen.chosen hlength target hstage
    have hstate : task.state = .failure := by
      have hlast := hlogged _ task hopen.found
      rw [List.getLast?_eq_getElem?, hlength, Nat.add_sub_cancel, hopen.failure] at hlast
      exact (Option.some.inj hlast).symm
    have hid : task.taskId = f.taskId := taskId_of_find hopen.found
    have henabled : o.Enabled task target := by
      refine ⟨hid ▸ hopen.found, ?_, ?_, ?_⟩
      · rw [hstate, htarget]
        unfold failTarget
        split <;> simp [transitions]
      · exact fun h => absurd (htarget ▸ h) (failTarget_ne _ _).1
      · exact fun h => absurd (htarget ▸ h) (failTarget_ne _ _).2
    have htransition := transition_of_enabled henabled f.error
    rw [hid] at htransition
    simp only [transitioned, htransition] at hresult
    obtain ⟨rfl, rfl⟩ := Prod.mk.inj hresult
    have hmoved : (task.moved target f.error).history = task.history ++ [target] := rfl
    refine ⟨by simp, fun _ => ⟨i, task.moved target f.error, ?_, ?_, ?_, ?_⟩⟩
    · simp [hentries, hmoved, hlength]
    · rw [find_moved henabled.found, if_pos hid.symm]
    · rw [hmoved, List.getElem?_append_left (by omega), hopen.failure]
    · rw [hmoved, ← hlength, List.getElem?_append_right (Nat.le_refl _), Nat.sub_self]
      simp [← htarget, Task.moved]

end FailCall

/-! ## Runs -/

namespace Threads

open TaskOrchestrator

structure Inv (s : Threads) : Prop where
  logged : s.orchestrator.Logged
  fits : ∀ f ∈ s.fails, f.Fits s.orchestrator

/-- Histories end with their states behind any number of changes. -/
theorem logged_of_changes {o o' : TaskOrchestrator} (h : o.Logged)
    (hchanges : ReflTransGen Change o o') : o'.Logged :=
  invariant_of_changes (fun _ _ h hchange => hchange.logged h) h hchanges

/-- What a section of the `n`-th call does to the calls. -/
theorem forall_mem_set {P : FailCall → Prop} {fails : List FailCall} {n : Nat} {f' : FailCall}
    (hothers : ∀ f ∈ fails, P f) (hf' : P f') : ∀ f ∈ fails.set n f', P f := by
  intro f hf
  rcases List.mem_or_eq_of_mem_set hf with hmem | rfl
  · exact hothers f hmem
  · exact hf'

/-- The section that comes next decides what the action does to the calls. -/
theorem failsAtomically_advance_iff {s : Threads} {n : Nat} {f f' : FailCall}
    {o' : TaskOrchestrator} (h : s.Inv) (hf : s.fails[n]? = some f)
    (hadvance : f.advance s.orchestrator = some (o', f')) :
    FailsAtomically s (.advance n) ↔ f'.Atomic o' := by
  have hstep : s.step (.advance n) = some { orchestrator := o', fails := s.fails.set n f' } := by
    simp [step, hf, hadvance]
  have hn : n < s.fails.length := (List.getElem?_eq_some_iff.mp hf).1
  have hgrows : s.orchestrator.Grows o' := grows_of_changes (FailCall.advance_changes hadvance)
  constructor
  · intro hall
    exact (hall _ hstep).1 f' (List.mem_set hn f')
  · intro hatomic t ht
    obtain rfl := Option.some.inj (hstep.symm.trans ht)
    refine ⟨forall_mem_set (fun g hg => (h.fits g hg).atomic.grows hgrows) hatomic, ?_⟩
    rintro m g g' hm hg hg' hentries
    obtain rfl := Action.advance.inj hm
    obtain rfl := Option.some.inj (hf.symm.trans hg)
    rw [List.getElem?_set_self hn] at hg'
    obtain rfl := Option.some.inj hg'
    -- a section that adds no entry changes nothing
    exact FailCall.advance_silent hadvance hentries

/-- What must not have happened, for the call that goes on. -/
theorem undisturbed_advance_iff {s : Threads} {n : Nat} {f : FailCall}
    (hf : s.fails[n]? = some f) :
    Undisturbed s (.advance n) ↔ ∀ target, f.stage = .choosing target →
      ∀ i task, f.entries = [i] → s.orchestrator.find f.taskId = some task →
        task.history.length = i + 1 := by
  constructor
  · exact fun h target hstage => h n f target rfl hf hstage
  · intro h m g target hm hg
    obtain rfl := Action.advance.inj hm
    obtain rfl := Option.some.inj (hf.symm.trans hg)
    exact h target

/-- The last section of `fail` ends the call. -/
theorem advance_of_choosing {f : FailCall} {o : TaskOrchestrator} {target : TaskState}
    (hstage : f.stage = .choosing target) :
    ∃ o' f', f.advance o = some (o', f') ∧ (f'.stage = .returned ∨ f'.stage = .raised) := by
  have hadvance : f.advance o =
      some (f.transitioned o target fun _ => { f with stage := .returned }) := by
    rw [FailCall.advance, hstage]
  rcases FailCall.transitioned_cases f o target fun _ => { f with stage := .returned } with
    hraised | ⟨task, -, -, hmoved⟩
  · exact ⟨_, _, hadvance.trans (congrArg some hraised), .inr rfl⟩
  · exact ⟨_, _, hadvance.trans (congrArg some hmoved), .inl rfl⟩

/-- One step: the calls are atomic behind it exactly when it is undisturbed. -/
theorem failsAtomically_iff {s : Threads} (h : s.Inv) (a : Action) :
    FailsAtomically s a ↔ Undisturbed s a := by
  cases a with
  | call c =>
    -- another call only lengthens histories, which no ended call minds
    refine ⟨fun _ _ _ _ ha => absurd ha nofun,
      fun _ t ht => ⟨fun f hf => ?_, fun _ _ _ ha => absurd ha nofun⟩⟩
    simp only [step] at ht
    split at ht
    · cases ht
    · cases ht
      exact (h.fits f hf).atomic.grows (grows_of_changes (step_changes _ c))
  | fail taskId error =>
    refine ⟨fun _ _ _ _ ha => absurd ha nofun,
      fun _ t ht => ⟨fun f hf => ?_, fun _ _ _ ha => absurd ha nofun⟩⟩
    cases ht
    rcases List.mem_append.mp hf with hf | hf
    · exact (h.fits f hf).atomic
    · rw [List.mem_singleton.mp hf]
      exact ⟨nofun, nofun⟩
  | advance n =>
    cases hf : s.fails[n]? with
    | none =>
      have hstep : s.step (.advance n) = none := by simp [step, hf]
      refine ⟨fun _ m f target hm hmf => ?_, fun _ t ht => absurd (hstep.symm.trans ht) nofun⟩
      obtain rfl := Action.advance.inj hm
      exact absurd (hf.symm.trans hmf) nofun
    | some f =>
      rw [undisturbed_advance_iff hf]
      have hfits := h.fits f (List.mem_of_getElem? hf)
      -- only the last section can break atomicity
      by_cases hchoosing : ∃ target, f.stage = .choosing target
      · obtain ⟨target, hstage⟩ := hchoosing
        obtain ⟨o', f', hadvance, -⟩ := advance_of_choosing (o := s.orchestrator) hstage
        obtain ⟨i, task, hopen⟩ := hfits.between (.inr ⟨target, hstage⟩)
        rw [failsAtomically_advance_iff h hf hadvance,
          FailCall.atomic_iff_of_choosing h.logged hopen hstage hadvance]
        refine ⟨fun hlength _ _ j t hj ht => ?_, fun hall =>
          hall target hstage i task hopen.entries hopen.found⟩
        obtain rfl : i = j := by simpa using hopen.entries.symm.trans hj
        obtain rfl := Option.some.inj (hopen.found.symm.trans ht)
        exact hlength
      · refine ⟨fun _ target hstage => absurd ⟨target, hstage⟩ hchoosing, fun _ => ?_⟩
        cases hadvance : f.advance s.orchestrator with
        | none =>
          have hstep : s.step (.advance n) = none := by simp [step, hf, hadvance]
          exact fun t ht => absurd (hstep.symm.trans ht) nofun
        | some r =>
          refine (failsAtomically_advance_iff h hf hadvance).mpr ?_
          exact (hfits.advance hadvance fun target hstage => hchoosing ⟨target, hstage⟩).atomic

/-- A step behind which the calls are atomic keeps the invariant. -/
theorem Inv.step {s t : Threads} {a : Action} (h : s.Inv) (hatomic : FailsAtomically s a)
    (ht : s.step a = some t) : t.Inv := by
  have hcalls := (hatomic t ht).1
  cases a with
  | call c =>
    simp only [Threads.step] at ht
    split at ht
    · cases ht
    · cases ht
      have hchanges := step_changes s.orchestrator c
      exact ⟨logged_of_changes h.logged hchanges,
        fun f hf => (h.fits f hf).grows (grows_of_changes hchanges)⟩
  | fail taskId error =>
    cases ht
    refine ⟨h.logged, fun f hf => ?_⟩
    rcases List.mem_append.mp hf with hf | hf
    · exact h.fits f hf
    · rw [List.mem_singleton.mp hf]
      exact ⟨fun _ => rfl, by simp, nofun, nofun⟩
  | advance n =>
    simp only [Threads.step] at ht
    split at ht
    · cases ht
    · next f hf =>
      obtain ⟨⟨o', f'⟩, hadvance, rfl⟩ := Option.map_eq_some_iff.mp ht
      have hn : n < s.fails.length := (List.getElem?_eq_some_iff.mp hf).1
      have hchanges := FailCall.advance_changes hadvance
      have hfits := h.fits f (List.mem_of_getElem? hf)
      refine ⟨logged_of_changes h.logged hchanges, forall_mem_set
        (fun g hg => (h.fits g hg).grows (grows_of_changes hchanges)) ?_⟩
      by_cases hchoosing : ∃ target, f.stage = .choosing target
      · -- the call has ended, and nothing is asked of it but that it was atomic
        obtain ⟨target, hstage⟩ := hchoosing
        obtain ⟨o₂, f₂, hadvance', hended⟩ := advance_of_choosing (o := s.orchestrator) hstage
        obtain ⟨rfl, rfl⟩ := Prod.mk.inj (Option.some.inj (hadvance.symm.trans hadvance'))
        refine ⟨fun hearly => ?_, fun hbetween => ?_, hcalls f' (List.mem_set hn f')⟩
        · rcases hended with hended | hended <;> simp [hended] at hearly
        · rcases hended with hended | hended <;> simp [hended] at hbetween
      · exact hfits.advance hadvance fun target hstage => hchoosing ⟨target, hstage⟩

/-- At the beginning no call is under way. -/
theorem inv_empty : Inv {} :=
  ⟨nofun, nofun⟩

/-- **`fail` is atomic in exactly the undisturbed interleavings.** Every call of `fail` that
    raises has changed nothing, and every call that returns has made its entries one behind the
    other, by the attempts of the run that has failed, exactly when no second transition of a
    `fail` comes behind another entry than its own FAILURE. -/
theorem fail_atomic_iff (actions : List Action) :
    AllSteps step FailsAtomically {} actions ↔ AllSteps step Undisturbed {} actions :=
  allSteps_congr (fun _ a h => failsAtomically_iff h a)
    (fun _ _ _ h hatomic ht => h.step hatomic ht) inv_empty actions

/-- Another thread recovers a task between the transitions of a `fail`. -/
def recoveredBetween : List Action :=
  [.call (.create "first" "QA" [] 1), .call (.queue "first"), .call (.start "first"),
    .fail "first" "controlled failure", .advance 0, .advance 0, .call (.recover "first"),
    .advance 0]

/-- The call raises, with its FAILURE entry in the history. -/
theorem recoveredBetween_raises :
    ¬ AllSteps step FailsAtomically {} (recoveredBetween ++ [.advance 0]) := by
  intro h
  have hraised : (run step {} (recoveredBetween ++ [.advance 0])).any
      (fun t => t.fails.any fun f => f.stage == .raised && f.entries != []) = true := by
    decide +kernel
  obtain ⟨t, ht, hany⟩ := (Option.any_eq_true _ _).mp hraised
  obtain ⟨s, hs, hlast⟩ := run_concat ht
  obtain ⟨f, hf, hcall⟩ := List.any_eq_true.mp hany
  obtain ⟨hstage, hentries⟩ : f.stage = .raised ∧ f.entries ≠ [] := by simpa using hcall
  exact hentries ((((h.after_run hs) t hlast).1 f hf).raised hstage)

end Threads

end DarkMed.Tasks
