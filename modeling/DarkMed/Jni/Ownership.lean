import DarkMed.Jni.Steps

/-!
# Who Owns the Bridge

The worker that the bridge has to join, and the call whose Java objects the
globals hold.  `g_mutex` serialises the bodies of `startNative` and
`stopNative`, so both are determined by the statement that the holder of the
mutex executes next: the invariant `Held` is a table over its program counter,
and every action of either party keeps it.

From it: there is at most one worker, and the globals are its own as long as it
runs.
-/

namespace DarkMed.Jni

open DarkMed.Lib.Transition

/-! ## The table -/

/-- The worker that is to be joined: `g_worker`, or the local of `stopNative` it was moved to. -/
def State.handle (s : State) : Option Nat :=
  match s.holder with
  | some (.stop (.join i)) => some i
  | _ => s.g.worker

/-- `g_vm`, `g_protect_method`, `g_protector` and `g_protect_callback`. -/
structure Globals.Hold (g : Globals) (vm protectMethod protector : Option Nat) (callback : Bool) :
    Prop where
  vm : g.vm = vm
  protectMethod : g.protectMethod = protectMethod
  protector : g.protector = protector
  protectCallback : g.protectCallback = callback

/-- All four are set for the same call, or all four are clear. -/
abbrev Globals.OwnedBy (g : Globals) (owner : Option Nat) : Prop :=
  g.Hold owner owner owner owner.isSome

/-- The globals while `startNative` number `call` executes `pc`. -/
def StartPc.Owns (g : Globals) (call : Nat) : StartPc → Prop
  | .testRunning | .release _ => g.OwnedBy g.worker
  | .getJavaVM => g.worker = none ∧ g.Hold none none none false
  | .getMethodID => g.worker = none ∧ g.Hold (some call) none none false
  | .newGlobalRef => g.worker = none ∧ g.Hold (some call) (some call) none false
  | .setProtectCallback => g.worker = none ∧ g.Hold (some call) (some call) (some call) false
  | .storeLastResult | .storeRunning | .spawn | .spawnFailed | .clearProtector =>
    g.worker = none ∧ g.OwnedBy (some call)

/-- The globals while `stopNative` executes `pc`. -/
def StopPc.Owns (g : Globals) : StopPc → Prop
  | .testJoinable => g.OwnedBy g.worker
  | .testRunning | .fetchOrWait | .fetchOrSent | .writeEvent | .fetchOrStop | .fetchAndWait
  | .moveWorker => g.worker ≠ none ∧ g.OwnedBy g.worker
  | .join i => g.worker = none ∧ g.OwnedBy (some i)
  | .storeRunning | .clearProtector => g.worker = none ∧ ∃ owner, g.OwnedBy owner
  | .done => g.worker = none ∧ g.OwnedBy none

/-- The globals between two statements of the holder of `g_mutex`. -/
def Globals.OwnedAt (g : Globals) : Option Body → Prop
  | none => g.OwnedBy g.worker
  | some (.start call pc) => pc.Owns g call
  | some (.stop pc) => pc.Owns g

/-- There is at most one worker, and the globals are as the table says. -/
structure Held (s : State) : Prop where
  thread : ∀ i, s.threads i ≠ none ↔ s.handle = some i
  globals : s.g.OwnedAt s.holder
  terminated : s.history.terminated = false
  running : ∀ call, s.holder = some (.start call .spawn) → s.g.running = true

/-! ## Steps keep the table -/

section Held

variable {s t : State}

/-- The globals may be said to be those of the handle. -/
theorem Globals.ownedBy_worker {g : Globals} {owner : Option Nat} (hworker : g.worker = owner)
    (h : g.OwnedBy owner) : g.OwnedBy g.worker :=
  hworker ▸ h

/-- Behind `clear_protector` they are nobody's. -/
theorem Globals.ownedBy_clearProtector (s : State) : s.clearProtector.g.OwnedBy none :=
  ⟨rfl, rfl, rfl, rfl⟩

/-- A `startNative` body moves on. -/
private theorem Held.atStart {call : Nat} {pc : StartPc}
    (hthread : ∀ i, s.threads i ≠ none ↔ s.g.worker = some i) (hglobals : pc.Owns s.g call)
    (hterm : s.history.terminated = false)
    (hspawn : pc = .spawn → s.g.running = true := by simp) : Held (s.atStart call pc) where
  thread := hthread
  globals := hglobals
  terminated := hterm
  running := by
    intro call' h
    cases h
    exact hspawn rfl

/-- A `stopNative` body moves on, without joining. -/
private theorem Held.atStop {pc : StopPc} (hhandle : (s.atStop pc).handle = s.g.worker)
    (hthread : ∀ i, s.threads i ≠ none ↔ s.g.worker = some i) (hglobals : pc.Owns s.g)
    (hterm : s.history.terminated = false) : Held (s.atStop pc) where
  thread := fun i => hhandle ▸ hthread i
  globals := hglobals
  terminated := hterm
  running := nofun

/-- A statement of `startNative` keeps the globals with their owner. -/
theorem Held.start {call : Nat} {pc : StartPc} (hs : Held s)
    (hholder : s.holder = some (.start call pc)) (ok : Bool) : Held (startStep s call pc ok) := by
  obtain ⟨hthread, hglobals, hterm, hrun⟩ := hs
  rw [hholder] at hglobals
  simp only [State.handle, hholder] at hthread
  cases pc with
  | testRunning =>
    simp only [startStep]
    split
    · exact .atStart hthread hglobals hterm
    · next hidle =>
      -- the body goes on only without a worker, and then the globals are nobody's
      have hworker : s.g.worker = none := by simp_all
      have howned : s.g.OwnedBy s.g.worker := hglobals
      rw [hworker] at howned
      exact .atStart hthread ⟨hworker, howned⟩ hterm
  | getJavaVM =>
    obtain ⟨hworker, hhold⟩ := hglobals
    cases ok with
    | true =>
      exact .atStart hthread
        ⟨hworker, rfl, hhold.protectMethod, hhold.protector, hhold.protectCallback⟩ hterm
    | false => exact .atStart hthread (Globals.ownedBy_worker hworker hhold) hterm
  | getMethodID =>
    obtain ⟨hworker, hhold⟩ := hglobals
    cases ok with
    | true =>
      exact .atStart hthread
        ⟨hworker, hhold.vm, rfl, hhold.protector, hhold.protectCallback⟩ hterm
    | false =>
      exact .atStart hthread (@Globals.ownedBy_worker _ none hworker
        ⟨rfl, rfl, hhold.protector, hhold.protectCallback⟩) hterm
  | newGlobalRef =>
    obtain ⟨hworker, hhold⟩ := hglobals
    cases ok with
    | true =>
      exact .atStart hthread
        ⟨hworker, hhold.vm, hhold.protectMethod, rfl, hhold.protectCallback⟩ hterm
    | false =>
      exact .atStart hthread (@Globals.ownedBy_worker _ none hworker
        ⟨rfl, rfl, rfl, hhold.protectCallback⟩) hterm
  | setProtectCallback =>
    obtain ⟨hworker, hhold⟩ := hglobals
    exact .atStart hthread
      ⟨hworker, hhold.vm, hhold.protectMethod, hhold.protector, rfl⟩ hterm
  | storeLastResult =>
    obtain ⟨hworker, hhold⟩ := hglobals
    exact .atStart hthread
      ⟨hworker, hhold.vm, hhold.protectMethod, hhold.protector, hhold.protectCallback⟩ hterm
  | storeRunning =>
    obtain ⟨hworker, hhold⟩ := hglobals
    exact .atStart hthread
      ⟨hworker, hhold.vm, hhold.protectMethod, hhold.protector, hhold.protectCallback⟩ hterm
      fun _ => rfl
  | spawn =>
    obtain ⟨hworker, hhold⟩ := hglobals
    cases ok with
    | true =>
      -- the new thread is the only one: there was no handle before
      have hnone : ∀ i, s.threads i = none := fun i => by simpa [hworker] using hthread i
      refine .atStart (fun i => ?_)
        ⟨hhold.vm, hhold.protectMethod, hhold.protector, hhold.protectCallback⟩
        (by simp [hterm, hworker])
      by_cases hi : i = call
      · simp [hi]
      · simp [Function.update_of_ne hi, hnone i, Ne.symm hi]
    | false => exact .atStart hthread ⟨hworker, hhold⟩ hterm
  | spawnFailed =>
    obtain ⟨hworker, hhold⟩ := hglobals
    exact .atStart hthread
      ⟨hworker, hhold.vm, hhold.protectMethod, hhold.protector, hhold.protectCallback⟩ hterm
  | clearProtector =>
    obtain ⟨hworker, -⟩ := hglobals
    exact .atStart hthread
      (@Globals.ownedBy_worker _ none hworker (Globals.ownedBy_clearProtector s))
      (by simpa [State.clearProtector_history] using hterm)
  -- the mutex is given back with the globals as they are
  | release result => exact ⟨hthread, hglobals, hterm, fun _ h => by cases h⟩

/-- So does one of `stopNative`. -/
theorem Held.stop {pc : StopPc} (hs : Held s) (hholder : s.holder = some (.stop pc))
    (h : stopStep s pc = some t) : Held t := by
  obtain ⟨hthread, hglobals, hterm, hrun⟩ := hs
  rw [hholder] at hglobals
  simp only [State.handle, hholder] at hthread
  cases pc with
  | testJoinable =>
    simp only [stopStep] at h
    split at h
    · next hworker =>
      cases h
      exact .atStop rfl hthread ⟨Option.isSome_iff_ne_none.mp hworker, hglobals⟩ hterm
    · next hworker =>
      cases h
      exact .atStop rfl hthread ⟨Option.not_isSome_iff_eq_none.mp hworker, _, hglobals⟩ hterm
  | testRunning =>
    simp only [stopStep] at h
    split at h <;> cases h <;> exact .atStop rfl hthread hglobals hterm
  | fetchOrWait =>
    simp only [stopStep] at h
    split at h
    · cases h
      exact ⟨by simpa only [State.handle, hholder] using hthread, hholder ▸ hglobals, hterm, hrun⟩
    · cases h
      split <;> exact .atStop rfl hthread hglobals hterm
  | fetchOrSent =>
    cases h
    split <;> exact .atStop rfl hthread hglobals hterm
  | writeEvent =>
    simp only [stopStep] at h
    split at h <;> cases h <;> exact .atStop rfl hthread hglobals hterm
  | fetchOrStop =>
    cases h
    exact .atStop rfl hthread hglobals hterm
  | fetchAndWait =>
    cases h
    exact .atStop rfl hthread hglobals hterm
  | moveWorker =>
    simp only [stopStep] at h
    split at h
    · next i hworker =>
      cases h
      obtain ⟨-, howned⟩ := hglobals
      rw [hworker] at howned hthread
      exact ⟨hthread, ⟨rfl, howned.vm, howned.protectMethod, howned.protector,
        howned.protectCallback⟩, hterm, fun _ h => by cases h⟩
    · cases h
  | join i =>
    simp only [stopStep] at h
    split at h
    · cases h
      obtain ⟨hworker, howned⟩ := hglobals
      -- the joined worker was the only thread
      refine .atStop rfl (fun j => ?_) ⟨hworker, _, howned⟩ hterm
      by_cases hj : j = i
      · simp [hj, hworker]
      · simpa [Function.update_of_ne hj, hworker, Ne.symm hj] using hthread j
    · cases h
  | storeRunning =>
    cases h
    obtain ⟨hworker, owner, howned⟩ := hglobals
    exact .atStop rfl hthread ⟨hworker, owner, howned.vm, howned.protectMethod, howned.protector,
      howned.protectCallback⟩ hterm
  | clearProtector =>
    cases h
    obtain ⟨hworker, -⟩ := hglobals
    exact .atStop rfl hthread ⟨hworker, Globals.ownedBy_clearProtector s⟩
      (by simpa [State.clearProtector_history] using hterm)
  | done =>
    cases h
    obtain ⟨hworker, howned⟩ := hglobals
    exact ⟨hthread, Globals.ownedBy_worker hworker howned, hterm, fun _ h => by cases h⟩

/-- The table only reads the worker, the callback and the Java objects. -/
theorem Globals.OwnedAt.congr {g g' : Globals} {holder : Option Body} (h : g.OwnedAt holder)
    (hworker : g'.worker = g.worker) (hvm : g'.vm = g.vm) (hprotector : g'.protector = g.protector)
    (hmethod : g'.protectMethod = g.protectMethod)
    (hcallback : g'.protectCallback = g.protectCallback) : g'.OwnedAt holder := by
  -- every row of the table is stated with `Hold` and the worker alone
  have hhold : ∀ vm method protector callback,
      g'.Hold vm method protector callback ↔ g.Hold vm method protector callback := by
    intro vm method protector callback
    constructor
    · rintro ⟨rfl, rfl, rfl, rfl⟩
      exact ⟨hvm.symm, hmethod.symm, hprotector.symm, hcallback.symm⟩
    · rintro ⟨rfl, rfl, rfl, rfl⟩
      exact ⟨hvm, hmethod, hprotector, hcallback⟩
  rcases holder with _ | ⟨call, pc⟩ | pc
  · simpa only [OwnedAt, OwnedBy, hworker, hhold] using h
  · cases pc <;> simpa only [OwnedAt, StartPc.Owns, OwnedBy, hworker, hhold] using h
  · cases pc <;> simpa only [OwnedAt, StopPc.Owns, OwnedBy, hworker, hhold] using h

/-- A body that has found no worker cannot run beside one. -/
theorem Globals.OwnedAt.of_worker {g : Globals} {holder : Option Body} {i : Nat}
    (h : g.OwnedAt holder) (hworker : g.worker = some i) : g.OwnedBy (some i) := by
  rcases holder with _ | ⟨call, pc⟩ | pc
  · exact hworker ▸ h
  · cases pc with
    | testRunning | release => exact hworker ▸ h
    | _ => exact absurd h.1 (by simp [hworker])
  · cases pc with
    | testJoinable => exact hworker ▸ h
    | join | storeRunning | clearProtector | done => exact absurd h.1 (by simp [hworker])
    | _ => exact hworker ▸ h.2

/-- The worker does not touch them. -/
theorem Held.worker {i : Nat} {pc pc' : WorkerPc} (hs : Held s) (hpc : s.threads i = some pc)
    (h : WorkerFrame s t i pc') : Held t := by
  obtain ⟨hthread, hglobals, hterm, hrun⟩ := hs
  have hhandle : t.handle = s.handle := by simp only [State.handle, h.holder, h.worker]
  constructor
  · intro j
    rw [h.threads, hhandle, ← hthread]
    by_cases hj : j = i
    · simp [hj, hpc]
    · simp [Function.update_of_ne hj]
  · rw [h.holder]
    exact hglobals.congr h.worker h.vm h.protector h.protectMethod h.protectCallback
  · exact h.terminated.trans hterm
  · -- while a thread is spawned there is no worker that could take a step
    intro call hspawn
    rw [h.holder] at hspawn
    rw [hspawn] at hglobals
    have hi : s.handle = some i := (hthread i).mp (by simp [hpc])
    simp [State.handle, hspawn, hglobals.1] at hi

/-- **The table is kept** by every action. -/
theorem Held.step {a : Action} (hs : Held s) (h : step s a = some t) : Held t := by
  cases step_inv h with
  | callStart path => exact ⟨hs.thread, hs.globals, hs.terminated, hs.running⟩
  | lockStart hfree hmem =>
    have hglobals := hs.globals
    have hthread := hs.thread
    simp only [State.handle, hfree] at hglobals hthread
    exact .atStart hthread hglobals hs.terminated
  | lockStop hfree =>
    have hglobals := hs.globals
    have hthread := hs.thread
    simp only [State.handle, hfree] at hglobals hthread
    exact .atStop rfl hthread hglobals hs.terminated
  | start ok hholder => exact hs.start hholder ok
  | stop ok hholder h => exact hs.stop hholder h
  | worker hpc h => exact hs.worker hpc h.toWorkerFrame

end Held

/-! ## Call numbers -/

/-- A call waits for the mutex once, and its thread comes after that. -/
structure Numbering (s : State) : Prop where
  waiting : ∀ call ∈ s.waiting, call < s.calls
  nodup : s.waiting.Nodup
  holder : ∀ call pc, s.holder = some (.start call pc) → call < s.calls ∧ call ∉ s.waiting
  thread : ∀ i, s.threads i ≠ none → i < s.calls ∧ i ∉ s.waiting

/-- Every call has a number of its own, in every interleaving. -/
theorem Numbering.step {s t : State} {a : Action} (hs : Numbering s) (h : step s a = some t) :
    Numbering t := by
  -- the next number has not been given out
  have hfresh : s.calls ∉ s.waiting := fun hmem => Nat.lt_irrefl _ (hs.waiting _ hmem)
  cases step_inv h with
  | callStart path =>
    -- an older call is not the new one
    have hold : ∀ i, i < s.calls ∧ i ∉ s.waiting →
        i < s.calls + 1 ∧ i ∉ s.waiting ++ [s.calls] := fun i hi =>
      ⟨Nat.lt_succ_of_lt hi.1, by simp [hi.2, Nat.ne_of_lt hi.1]⟩
    constructor
    · intro call hmem
      rcases List.mem_append.mp hmem with hmem | hmem
      · exact Nat.lt_succ_of_lt (hs.waiting call hmem)
      · rw [List.mem_singleton.mp hmem]
        exact Nat.lt_succ_self _
    · exact List.nodup_append.mpr ⟨hs.nodup, by simp, by
        rintro call hmem _ hlast rfl
        exact hfresh (List.mem_singleton.mp hlast ▸ hmem)⟩
    · exact fun call pc hholder => hold call (hs.holder call pc hholder)
    · exact fun i hi => hold i (hs.thread i hi)
  | lockStart hfree hmem =>
    constructor
    · exact fun call hcall => hs.waiting call (List.mem_of_mem_erase hcall)
    · exact hs.nodup.erase _
    · intro call pc hholder
      cases hholder
      exact ⟨hs.waiting _ hmem, hs.nodup.not_mem_erase⟩
    · exact fun i hi => ⟨(hs.thread i hi).1, fun hin => (hs.thread i hi).2 (List.mem_of_mem_erase hin)⟩
  | lockStop hfree => exact ⟨hs.waiting, hs.nodup, nofun, hs.thread⟩
  | @start call pc ok hholder =>
    have hframe := startStep_frame s call pc ok
    have hcall := hs.holder call pc hholder
    constructor
    · simpa only [hframe.waiting, hframe.calls] using hs.waiting
    · simpa only [hframe.waiting] using hs.nodup
    · intro call' pc' hholder'
      rw [hframe.waiting, hframe.calls]
      rcases hframe.holder with hnone | ⟨pc'', hsome⟩
      · simp [hnone] at hholder'
      · cases hsome.symm.trans hholder'
        exact hcall
    · intro i hi
      rw [hframe.waiting, hframe.calls]
      rcases hframe.threads i with hsame | ⟨rfl, -⟩
      · exact hs.thread i (hsame ▸ hi)
      · exact hcall
  | stop ok hholder h =>
    have hframe := stopStep_frame hholder h
    constructor
    · simpa only [hframe.waiting, hframe.calls] using hs.waiting
    · simpa only [hframe.waiting] using hs.nodup
    · intro call pc hholder'
      rcases hframe.holder with hnone | ⟨pc', hsome⟩
      · simp [hnone] at hholder'
      · cases hsome.symm.trans hholder'
    · intro i hi
      rw [hframe.waiting, hframe.calls]
      rcases hframe.threads i with hsame | ⟨-, hnone⟩
      · exact hs.thread i (hsame ▸ hi)
      · exact absurd hnone hi
  | @worker _ i _ _ _ hpc h =>
    constructor
    · simpa only [h.waiting, h.calls] using hs.waiting
    · simpa only [h.waiting] using hs.nodup
    · simpa only [h.holder, h.waiting, h.calls] using hs.holder
    · intro j hj
      rw [h.waiting, h.calls]
      by_cases hji : j = i
      · exact hs.thread j (by simp [hji, hpc])
      · exact hs.thread j (by simpa [h.threads, Function.update_of_ne hji] using hj)

/-! ## Every reachable state -/

/-- At the beginning the globals are nobody's. -/
theorem held_initial : Held {} where
  thread := by simp [State.handle]
  globals := ⟨rfl, rfl, rfl, rfl⟩
  terminated := rfl
  running := nofun

/-- And no call has been made. -/
theorem numbering_initial : Numbering {} :=
  ⟨nofun, List.nodup_nil, nofun, fun _ hi => absurd rfl hi⟩

/-- The handle is the only thread there is. -/
theorem Held.eq_of_threads {s : State} {i j : Nat} (hs : Held s) (hi : s.threads i ≠ none)
    (hj : s.threads j ≠ none) : i = j :=
  Option.some.inj (((hs.thread i).mp hi).symm.trans ((hs.thread j).mp hj))

/-- While there is a thread, the globals are those of the call that spawned it. -/
theorem Held.ownedBy_thread {s : State} {i : Nat} (hs : Held s) (hi : s.threads i ≠ none) :
    s.g.OwnedBy (some i) := by
  have hhandle := (hs.thread i).mp hi
  have hglobals := hs.globals
  unfold State.handle at hhandle
  split at hhandle
  -- a stopper that joins has taken the handle out of `g_worker`
  · next j hholder =>
    rw [hholder] at hglobals
    exact hhandle ▸ hglobals.2
  · exact hglobals.of_worker hhandle

end DarkMed.Jni
