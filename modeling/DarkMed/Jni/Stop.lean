import DarkMed.Jni.Ownership

/-!
# Stopping a Worker

The bridge runs the stop protocol of `DarkMed.Jni.Session`: every action is a
step of the session that the state projects to, or leaves it as it is.  What is
known of sessions is thereby known of the bridge, and the two orders of steps
that sessions have to avoid become two conditions on the schedule:

- a stop reaches its worker as long as no worker passes its check while a
  stopper is about to set `SYNC_STOP`;
- a worker is only turned away by a stop of its own as long as `SYNC_STOP` is
  not set for a worker that has failed or finished, and no worker fails while it
  is set.

The bridge does not enforce either.
-/

namespace DarkMed.Jni

open DarkMed.Lib.Transition

/-! ## The session of a state -/

def State.session (s : State) : Session where
  stop :=
    match s.holder with
    | some (.stop pc) => some pc
    | _ => none
  worker := (s.handle.bind s.threads).map WorkerPc.stage
  called := s.handle.any s.history.stopCalled
  signals := s.signals

section Simulation

variable {s t : State}

/-- The thread that there is is the worker of the session. -/
theorem Held.session_worker {i : Nat} {pc : WorkerPc} (hs : Held s) (hpc : s.threads i = some pc) :
    s.session.worker = some pc.stage := by
  have hhandle : s.handle = some i := (hs.thread i).mp (by simp [hpc])
  simp [State.session, hhandle, hpc]

/-- The session has no worker exactly if nobody has a handle. -/
theorem Held.session_worker_eq_none (hs : Held s) : s.session.worker = none ↔ s.handle = none := by
  cases hhandle : s.handle with
  | none => simp [State.session, hhandle]
  | some i =>
    have hthread : s.threads i ≠ none := (hs.thread i).mpr hhandle
    simpa [State.session, hhandle] using hthread

/-- A worker of the session is a thread. -/
theorem exists_thread {st : Stage} (hworker : s.session.worker = some st) :
    ∃ i pc, s.threads i = some pc ∧ pc.stage = st := by
  obtain ⟨pc, hpc, hstage⟩ := Option.map_eq_some_iff.mp hworker
  obtain ⟨i, -, hthread⟩ := Option.bind_eq_some_iff.mp hpc
  exact ⟨i, pc, hthread, hstage⟩

/-- In the middle of `startNative` there is no stopper. -/
theorem session_stop_of_start {call : Nat} {pc : StartPc}
    (hholder : s.holder = some (.start call pc)) : s.session.stop = none := by
  simp [State.session, hholder]

/-- In the middle of `stopNative` there is one, at the same statement. -/
theorem session_stop_of_stop {pc : StopPc} (hholder : s.holder = some (.stop pc)) :
    s.session.stop = some pc := by
  simp [State.session, hholder]

/-- In `startNative` the handle is where the globals have it. -/
theorem handle_of_start {call : Nat} {pc : StartPc} (hholder : s.holder = some (.start call pc)) :
    s.handle = s.g.worker := by
  simp [State.handle, hholder]

/-- What changes nothing of the session is a step of it. -/
theorem Session.Step.of_eq {v v' : Session} (h : v' = v) : Session.Step v v' :=
  h ▸ .stutter v

/-- **`startNative` runs the protocol.** -/
theorem Held.simulates_start {call : Nat} {pc : StartPc} (hs : Held s)
    (hholder : s.holder = some (.start call pc)) (ok : Bool) :
    Session.Step s.session (startStep s call pc ok).session := by
  have hglobals := hs.globals
  rw [hholder] at hglobals
  have hstop := session_stop_of_start hholder
  -- the session does not see a body of `startNative`, except where it stores a shared word
  have hidle : s.g.worker = none → s.session.worker = none := fun hworker =>
    hs.session_worker_eq_none.mpr ((handle_of_start hholder).trans hworker)
  cases pc with
  | testRunning =>
    simp only [startStep]
    split <;>
      exact .of_eq (by simp [State.session, State.handle, State.atStart, State.signals, hholder])
  | storeRunning =>
    have hstep := Session.Step.setRunning true hstop (hidle hglobals.1)
    simpa [startStep, State.session, State.handle, State.atStart, State.signals, hholder]
      using hstep
  | spawn =>
    cases ok with
    -- a thread that is made is the worker of the session
    | true =>
      have hstep := Session.Step.spawn hstop (hidle hglobals.1) (hs.running call hholder)
      simpa [startStep, State.session, State.handle, State.atStart, State.signals, hholder,
        WorkerPc.stage] using hstep
    | false =>
      exact .of_eq (by
        simp [startStep, State.session, State.handle, State.atStart, State.signals, hholder])
  | spawnFailed =>
    have hstep := Session.Step.setRunning false hstop (hidle hglobals.1)
    simpa [startStep, State.session, State.handle, State.atStart, State.signals, hholder]
      using hstep
  | clearProtector =>
    exact .of_eq (by
      simp [startStep, State.session, State.handle, State.atStart, State.signals, hholder])
  | release result =>
    exact .of_eq (by
      simp [startStep, State.session, State.handle, State.signals, hholder])
  | _ =>
    cases ok <;>
      exact .of_eq (by
        simp [startStep, State.session, State.handle, State.atStart, State.signals, hholder])

/-- A `stopNative` body that moves on changes the stopper and the shared words of the session. -/
theorem session_atStop {u : State} {pc : StopPc} (hhandle : (u.atStop pc).handle = s.handle)
    (hthreads : u.threads = s.threads) (hcalled : u.history.stopCalled = s.history.stopCalled) :
    (u.atStop pc).session = { s.session with stop := some pc, signals := u.signals } := by
  have hthreads' : (u.atStop pc).threads = s.threads := hthreads
  have hcalled' : (u.atStop pc).history.stopCalled = s.history.stopCalled := hcalled
  simp only [State.session, hhandle, hthreads', hcalled']
  rfl

/-- **`stopNative` runs the protocol.** -/
theorem Held.simulates_stop {pc : StopPc} (hs : Held s) (hholder : s.holder = some (.stop pc))
    (h : stopStep s pc = some t) : Session.Step s.session t.session := by
  have hglobals := hs.globals
  rw [hholder] at hglobals
  have hstop := session_stop_of_stop hholder
  -- up to the join, the worker's handle is `g_worker`
  have hhandle : (∀ i, pc ≠ .join i) → s.g.worker = s.handle := by
    intro hjoin
    cases pc with
    | join i => exact absurd rfl (hjoin i)
    | _ => simp [State.handle, hholder]
  -- what the session sees of the other statements is their effect on the words
  have hsees : ∀ {pc' : StopPc} {u : State}, (u.atStop pc').handle = s.handle →
      u.threads = s.threads → u.history.stopCalled = s.history.stopCalled →
      StopEffect s.signals pc pc' u.signals → Session.Step s.session (u.atStop pc').session := by
    intro pc' u hsame hthreads hcalled heffect
    rw [session_atStop hsame hthreads hcalled]
    exact .signal hstop heffect
  cases pc with
  | testJoinable =>
    -- `joinable` is what the session sees as a worker
    have hworker := hs.session_worker_eq_none
    rw [← hhandle (by simp)] at hworker
    simp only [stopStep] at h
    split at h
    · next hjoinable =>
      cases h
      rw [@session_atStop s s .testRunning (hhandle (by simp)) rfl rfl]
      exact .joinable hstop fun hnone => by simp [hworker.mp hnone] at hjoinable
    · next hjoinable =>
      cases h
      rw [@session_atStop s s .storeRunning (hhandle (by simp)) rfl rfl]
      exact .notJoinable hstop (hworker.mpr (Option.not_isSome_iff_eq_none.mp hjoinable))
  | testRunning =>
    simp only [stopStep] at h
    split at h
    · next hrunning =>
      cases h
      exact hsees (hhandle (by simp)) rfl rfl (.quit hrunning)
    · next hrunning =>
      cases h
      exact hsees (hhandle (by simp)) rfl rfl (.skip (Bool.eq_false_iff.mpr hrunning))
  | fetchOrWait =>
    simp only [stopStep] at h
    split at h
    · -- `SYNC_WAIT` was set already: the stopper tries again
      cases h
      exact .stutter _
    · next hwait =>
      cases h
      have hwait' := Bool.eq_false_iff.mpr hwait
      split
      · next hsend => exact hsees (hhandle (by simp)) rfl rfl (.seesSend hwait' hsend)
      · next hsend =>
        exact hsees (hhandle (by simp)) rfl rfl (.seesNoSend hwait' (Bool.eq_false_iff.mpr hsend))
  | fetchOrSent =>
    cases h
    split
    · next hsent => exact hsees (hhandle (by simp)) rfl rfl (.alreadySent hsent)
    · next hsent => exact hsees (hhandle (by simp)) rfl rfl (.setSent (Bool.eq_false_iff.mpr hsent))
  | writeEvent =>
    simp only [stopStep] at h
    split at h
    · next hfds =>
      cases h
      exact hsees (hhandle (by simp)) rfl rfl (.write hfds)
    · next hfds =>
      cases h
      exact hsees (hhandle (by simp)) rfl rfl (.writeFails hfds)
  | fetchOrStop =>
    cases h
    exact hsees (hhandle (by simp)) rfl rfl .setStop
  | fetchAndWait =>
    cases h
    exact hsees (hhandle (by simp)) rfl rfl .clearWait
  | moveWorker =>
    simp only [stopStep] at h
    split at h
    · next i hworker =>
      -- the handle moves from `g_worker` to the local of `stopNative`
      cases h
      exact hsees (hworker.symm.trans (hhandle (by simp))) rfl rfl (.move i)
    · cases h
  | join i =>
    simp only [stopStep] at h
    split at h
    · next hfinished =>
      cases h
      have hstep := Session.Step.join hstop (hs.session_worker hfinished)
      simpa [State.session, State.handle, State.atStop, State.signals, hglobals.1] using hstep
    · cases h
  | storeRunning =>
    cases h
    rw [@session_atStop s { s with g := { s.g with running := false } } .clearProtector
      (hhandle (by simp)) rfl rfl]
    exact .storeRunning hstop
  | clearProtector =>
    cases h
    rw [@session_atStop s s.clearProtector .done (hhandle (by simp)) rfl (by simp)]
    exact .clearProtector hstop
  | done =>
    cases h
    have hstep := Session.Step.done hstop
    simpa [State.session, State.handle, State.signals, hholder] using hstep

/-- The session has a worker exactly if somebody has a handle. -/
theorem Held.session_worker_isSome (hs : Held s) :
    s.session.worker.isSome = s.handle.isSome := by
  rw [Bool.eq_iff_iff, Option.isSome_iff_ne_none, Option.isSome_iff_ne_none]
  exact hs.session_worker_eq_none.not

/-- **Simulation**: every action of the bridge is a step of its session. -/
theorem session_step {a : Action} (hs : Held s) (h : step s a = some t) :
    Session.Step s.session t.session := by
  cases step_inv h with
  | callStart path => exact .stutter _
  | lockStart hfree hmem =>
    exact .of_eq (by simp [State.session, State.handle, State.atStart, State.signals, hfree])
  | lockStop hfree =>
    have hstep := Session.Step.callStop (v := s.session) (by simp [State.session, hfree])
    rw [hs.session_worker_isSome] at hstep
    have hany : ∀ o : Option Nat, o.any (fun _ => true) = o.isSome := by
      intro o
      cases o <;> rfl
    simpa [State.session, State.handle, State.atStop, State.signals, hfree, hany] using hstep
  | start ok hholder => exact hs.simulates_start hholder ok
  | stop ok hholder h => exact hs.simulates_stop hholder h
  | @worker _ i pc pc' _ hpc h =>
    have hstep := Session.Step.worker (hs.session_worker hpc) h.effect
    have hhandle : s.handle = some i := (hs.thread i).mp (by simp [hpc])
    have hhandle' : t.handle = s.handle := by simp only [State.handle, h.holder, h.worker]
    simpa [State.session, hhandle, hhandle', h.holder, h.threads, h.stopCalled] using hstep

/-- The stage of an unfinished worker changes by the worker's own steps only. -/
theorem worker_moves {a : Action} {st : Stage} (hs : Held s) (h : step s a = some t)
    (hfrom : s.session.worker = some st) (hst : st ≠ .finished) :
    t.session.worker = some st ∨ t.session.worker = some .opening ∨
      ∃ i input pc pc', a = .worker i input ∧ s.threads i = some pc ∧ pc.stage = st ∧
        t.threads i = some pc' ∧ t.session.worker = some pc'.stage ∧ WorkerStep s t i pc pc' := by
  obtain ⟨i, pc, hpc, hstage⟩ := exists_thread hfrom
  have hheld := hs.step h
  by_cases hworker : ∃ k input, a = .worker k input
  -- there is one thread at most, so the worker that moves is the one of the session
  · obtain ⟨k, input, rfl⟩ := hworker
    cases step_inv h with
    | @worker _ _ _ pc' _ hk hstep =>
      obtain rfl : i = k := hs.eq_of_threads (by simp [hpc]) (by simp [hk])
      cases hpc.symm.trans hk
      have hpc' : t.threads i = some pc' := by simp [hstep.threads]
      exact .inr (.inr ⟨i, input, pc, pc', rfl, hpc, hstage, hpc', hheld.session_worker hpc', hstep⟩)
  · have hother : ∀ k input, a ≠ .worker k input := fun k input ha => hworker ⟨k, input, ha⟩
    rcases threads_of_not_worker h hother i with hsame | hnew | hfinished
    · exact .inl (hstage ▸ hheld.session_worker (hsame.trans hpc))
    · exact .inr (.inl (hheld.session_worker hnew))
    · cases hpc.symm.trans hfinished
      exact absurd hstage.symm hst

/-- A stopper of the session holds the mutex. -/
theorem holder_of_session_stop {pc : StopPc} (hstop : s.session.stop = some pc) :
    s.holder = some (.stop pc) := by
  simp only [State.session] at hstop
  split at hstop
  · next hholder => rw [hholder, Option.some.inj hstop]
  · cases hstop

end Simulation

/-- The protocol begins with neither a worker nor a stopper. -/
theorem protocol_initial : Session.Protocol (State.session {}) := by
  refine ⟨?_, ?_, ?_⟩ <;> constructor <;> simp [State.session, State.handle, State.signals]

/-! ## A stop reaches the worker -/

/-- The worker does not pass its `SYNC_STOP` check between the stopper's look at `SYNC_SEND` and
    its setting of `SYNC_STOP`. -/
def NotOvertaken (s : State) : Action → Prop
  | .worker i _ =>
    s.holder = some (.stop .fetchOrStop) → s.threads i = some .stopCheck → s.tsync.stop = true
  | _ => True

instance (s : State) (a : Action) : Decidable (NotOvertaken s a) :=
  match a with
  | .worker i _ =>
    inferInstanceAs (Decidable (s.holder = some (.stop .fetchOrStop) →
      s.threads i = some .stopCheck → s.tsync.stop = true))
  | .callStart _ | .lockStart _ | .lockStop | .caller _ => inferInstanceAs (Decidable True)

/-- A stop byte is queued on `event_fds`. -/
def State.byteQueued (s : State) : Bool :=
  s.eventFds.any (0 < ·)

/-- The worker that a stopper joins is on its way out, or will be told to go. -/
def StopArrives (s : State) : Prop :=
  ∀ i pc, s.holder = some (.stop (.join i)) → s.threads i = some pc →
    (∀ phase socket, pc = .eventLoop phase socket → phase ≠ .waiting ∨ s.byteQueued = true) ∧
    (pc.beforeCheck = true → s.tsync.stop = true ∨ s.byteQueued = true)

/-- A step that is not overtaken lets no worker into its loop past a stop. -/
theorem not_missesStop {s t : State} {a : Action} (hs : Held s) (hok : NotOvertaken s a)
    (h : step s a = some t) : ¬ Session.MissesStop s.session t.session := by
  rintro ⟨hstop, hchecking, hlooping⟩
  rcases worker_moves hs h hchecking nofun with
    hsame | hnew | ⟨i, input, pc, pc', rfl, hpc, hfrom, hpc', hto, hstep⟩
  · cases hsame.symm.trans hlooping
  · cases hnew.symm.trans hlooping
  · -- with the flag set, the check does not let the worker into its loop
    have hset : s.tsync.stop = true :=
      hok (holder_of_session_stop hstop) (WorkerPc.stage_eq_checking.mp hfrom ▸ hpc)
    have heffect := hstep.effect
    rw [hfrom, Option.some.inj (hto.symm.trans hlooping)] at heffect
    generalize t.signals = w at heffect
    cases heffect with
    | quiet h => cases h
    | enter hclear => cases hset.symm.trans hclear

/-- In a run without overtaking a worker that has been stopped is on its way out. -/
theorem leaving_of_run {as : List Action} {s : State} (hok : AllSteps step NotOvertaken {} as)
    (h : run step {} as = some s) : Held s ∧ s.session.Protocol ∧ s.session.Leaving := by
  refine run_invariant_of_allSteps (I := fun s => Held s ∧ s.session.Protocol ∧ s.session.Leaving)
    ?_ ⟨held_initial, protocol_initial, ?_⟩ hok h
  · rintro s a t ⟨hheld, hprotocol, hleaving⟩ hok ht
    have hstep := session_step hheld ht
    exact ⟨hheld.step ht, hprotocol.step hstep,
      hleaving.step hprotocol hstep (not_missesStop hheld hok ht)⟩
  · constructor <;> simp [State.session, State.handle]

/-- **Stopping never hangs on a lost quit**, in a run in which no worker overtakes the stopper. -/
theorem stop_arrives {as : List Action} {s : State} (hok : AllSteps step NotOvertaken {} as)
    (h : run step {} as = some s) : StopArrives s := by
  obtain ⟨hheld, -, hleaving⟩ := leaving_of_run hok h
  intro i pc hjoin hpc
  have hworker := hheld.session_worker hpc
  have hsignalled : s.session.stop.any StopPc.signalled := by
    simp [session_stop_of_stop hjoin]
  constructor
  · rintro phase socket rfl
    by_cases hphase : phase = .waiting
    · subst hphase
      exact .inr (hleaving.looping hsignalled hworker)
    · exact .inl hphase
  · intro hbefore
    refine hleaving.beforeCheck hsignalled ?_
    rw [hworker, Option.any_some, WorkerPc.beforeCheck_stage]
    exact hbefore

/-- The stop byte of a worker in its event loop wakes it up. -/
theorem stop_arrives_session :
    ∃ s, run step {} (startActions 0 ++ [.caller true] ++ openActions 0 ++
        List.replicate 2 (.worker 0 (.proceed true)) ++ [.lockStop] ++
        List.replicate 7 (.caller true)) = some s ∧
      s.holder = some (.stop (.join 0)) ∧ s.threads 0 = some (.eventLoop .waiting .idle) ∧
      StopArrives s := by
  have hrun : (run step {} (startActions 0 ++ [.caller true] ++ openActions 0 ++
      List.replicate 2 (.worker 0 (.proceed true)) ++ [.lockStop] ++
      List.replicate 7 (.caller true))).map (fun s => (s.holder, s.threads 0)) =
      some (some (.stop (.join 0)), some (.eventLoop .waiting .idle)) := by decide
  obtain ⟨s, hs, hrecord⟩ := Option.map_eq_some_iff.mp hrun
  obtain ⟨hholder, hthread⟩ := Prod.mk.inj hrecord
  exact ⟨s, hs, hholder, hthread, stop_arrives (by decide) hs⟩

/-- The stopper sees no `SYNC_SEND`, the worker sets it and passes its check, and only then does
    the stopper set `SYNC_STOP`. -/
def lostQuit : List Action :=
  startActions 0 ++ [.caller true] ++ openActions 0 ++ [.lockStop] ++
    List.replicate 3 (.caller true) ++ List.replicate 2 (.worker 0 (.proceed true)) ++
    List.replicate 3 (.caller true)

/-- The stop is lost: the joined worker waits in its event loop and no byte is queued. -/
theorem lostQuit_hangs : ¬ ∀ as s, run step {} as = some s → StopArrives s := by
  intro hall
  have hrun : (run step {} lostQuit).map (fun s => (s.holder, s.threads 0, s.byteQueued)) =
      some (some (.stop (.join 0)), some (.eventLoop .waiting .idle), false) := by decide
  obtain ⟨s, hs, hrecord⟩ := Option.map_eq_some_iff.mp hrun
  obtain ⟨hholder, hrest⟩ := Prod.mk.inj hrecord
  obtain ⟨hthread, hqueued⟩ := Prod.mk.inj hrest
  have hloop := (hall _ s hs 0 _ hholder hthread).1 _ _ rfl
  simp [hqueued] at hloop

/-! ## A worker is turned away by its own stop only -/

/-- `SYNC_STOP` is set for a worker that has not failed or finished, and no worker fails while
    it is set. -/
def FlagConsumed (s : State) : Action → Prop
  | .caller _ =>
    s.holder = some (.stop .fetchOrStop) →
      (s.g.worker.bind s.threads).any (fun pc => pc.beforeCheck || pc.stage.inLoop) = true
  | .worker i (.proceed false) =>
    s.tsync.stop = true → (s.threads i).any WorkerPc.canFail = false
  | _ => True

instance (s : State) (a : Action) : Decidable (FlagConsumed s a) :=
  match a with
  | .caller _ =>
    inferInstanceAs (Decidable (s.holder = some (.stop .fetchOrStop) →
      (s.g.worker.bind s.threads).any (fun pc => pc.beforeCheck || pc.stage.inLoop) = true))
  | .worker i (.proceed false) =>
    inferInstanceAs (Decidable (s.tsync.stop = true → (s.threads i).any WorkerPc.canFail = false))
  | .worker _ (.proceed true) | .worker _ (.openSocket _) | .worker _ .readCallback
  | .worker _ (.protect _) | .callStart _ | .lockStart _ | .lockStop =>
    inferInstanceAs (Decidable True)

/-- A worker whose configuration load and tunnel init have succeeded enters the event loop,
    unless a stop was called since its start. -/
def EntersUnlessStopped (s : State) : Prop :=
  ∀ i ok, s.threads i = some .stopCheck → s.history.stopCalled i = false →
    (step s (.worker i (.proceed ok))).map (·.threads i) =
      some (some (.eventLoop .waiting .idle))

/-- Where the flag is consumed, no stop comes too late for the check. -/
theorem not_stopsLate {s t : State} {a : Action} (hok : FlagConsumed s a)
    (h : step s a = some t) : ¬ Session.StopsLate s.session t.session := by
  rintro ⟨hstop, hstop', hworker⟩
  have hholder := holder_of_session_stop hstop
  have hholder' := holder_of_session_stop hstop'
  have hhandle : s.handle = s.g.worker := by simp [State.handle, hholder]
  cases step_inv h with
  | callStart path => cases hholder.symm.trans hholder'
  | lockStart hfree hmem => cases hfree.symm.trans hholder
  | lockStop hfree => cases hfree.symm.trans hholder
  | start ok hstart => cases hstart.symm.trans hholder
  | stop ok hstop'' hstep =>
    -- the condition speaks of `g_worker`, which is the handle until the join
    have hfresh := hok hholder
    simp only [← WorkerPc.beforeCheck_stage] at hfresh
    refine hworker ?_
    simp only [State.session, hhandle, Option.any_map]
    exact hfresh
  | worker hpc hstep => cases hholder.symm.trans (hstep.holder.symm.trans hholder')

/-- Nor does a worker fail before it with the flag set. -/
theorem not_failsStopped {s t : State} {a : Action} (hs : Held s) (hok : FlagConsumed s a)
    (h : step s a = some t) : ¬ Session.FailsStopped s.session t.session := by
  rintro ⟨hset, hbefore, hafter⟩
  obtain ⟨st, hst, hkind⟩ := (Option.any_eq_true _ _).mp hbefore
  obtain ⟨hkind, hnot⟩ := Bool.and_eq_true_iff.mp hkind
  rcases worker_moves hs h hst (by rintro rfl; cases hkind) with
    hsame | hnew | ⟨i, input, pc, pc', rfl, hpc, hfrom, hpc', hto, hstep⟩
  · rw [hsame, Option.any_some] at hafter
    exact hafter hkind
  · rw [hnew, Option.any_some] at hafter
    exact hafter rfl
  -- the worker itself leaves the part before its check, other than through the check
  · rw [hto, Option.any_some, WorkerPc.beforeCheck_stage, Bool.not_eq_true] at hafter
    rw [← hfrom, WorkerPc.beforeCheck_stage] at hkind
    have hcheck : pc ≠ .stopCheck := by
      rintro rfl
      rw [← hfrom] at hnot
      exact absurd hnot (by decide)
    simp only [step, hpc] at h
    obtain ⟨rfl, hfails⟩ := workerStep_fails h hpc' hkind hcheck hafter
    have hnone := hok hset
    rw [hpc, Option.any_some, hfails] at hnone
    cases hnone

/-- In such a run no worker finds a flag that was meant for another. -/
theorem notStale_of_run {as : List Action} {s : State} (hok : AllSteps step FlagConsumed {} as)
    (h : run step {} as = some s) : Held s ∧ s.session.Protocol ∧ s.session.NotStale := by
  refine run_invariant_of_allSteps
    (I := fun s => Held s ∧ s.session.Protocol ∧ s.session.NotStale)
    ?_ ⟨held_initial, protocol_initial, nofun⟩ hok h
  rintro s a t ⟨hheld, hprotocol, hstale⟩ hok ht
  have hstep := session_step hheld ht
  exact ⟨hheld.step ht, hprotocol.step hstep,
    hstale.step hprotocol hstep (not_stopsLate hok ht) (not_failsStopped hheld hok ht)⟩

/-- **No stale stop request**, in a run in which every stop flag is consumed by the worker it
    was set for. -/
theorem enters_unless_stopped {as : List Action} {s : State}
    (hok : AllSteps step FlagConsumed {} as) (h : run step {} as = some s) :
    EntersUnlessStopped s := by
  obtain ⟨hheld, -, hstale⟩ := notStale_of_run hok h
  intro i ok hpc hnot
  have hworker := hheld.session_worker hpc
  have hhandle : s.handle = some i := (hheld.thread i).mp (by simp [hpc])
  cases hset : s.tsync.stop with
  | false => simp [step, hpc, workerStep, hset, State.setThread]
  | true =>
    rcases hstale hset with ⟨-, hcalled⟩ | hstuck
    · simp [State.session, hhandle, hnot] at hcalled
    · cases hworker.symm.trans hstuck.worker

/-- Worker 0 is stopped while it loads its configuration, and worker 1 comes after it. -/
def stoppedEarly : List Action :=
  startActions 0 ++ [.caller true, .lockStop] ++ List.replicate 6 (.caller true) ++
    List.replicate 14 (.worker 0 (.proceed true)) ++ List.replicate 4 (.caller true) ++
    startActions 1 ++ [.caller true] ++ List.replicate 9 (.worker 1 (.proceed true))

/-- A worker that comes behind one that was stopped early finds no flag. -/
theorem enters_unless_stopped_stoppedEarly :
    ∃ s, run step {} stoppedEarly = some s ∧ s.threads 1 = some .stopCheck ∧
      s.history.stopCalled 1 = false ∧ EntersUnlessStopped s := by
  have hrun : (run step {} stoppedEarly).map (fun s => (s.threads 1, s.history.stopCalled 1)) =
      some (some .stopCheck, false) := by decide
  obtain ⟨s, hs, hrecord⟩ := Option.map_eq_some_iff.mp hrun
  obtain ⟨hthread, hcalled⟩ := Prod.mk.inj hrecord
  exact ⟨s, hs, hthread, hcalled, enters_unless_stopped (by decide) hs⟩

/-- Worker 0 fails before its check; a stop that still sees `g_running` sets `SYNC_STOP` for it;
    worker 1 is started after that stop has returned. -/
def staleStop : List Action :=
  startActions 0 ++ [.caller true, .worker 0 (.proceed false), .lockStop] ++
    List.replicate 6 (.caller true) ++ List.replicate 2 (.worker 0 (.proceed true)) ++
    List.replicate 4 (.caller true) ++ startActions 1 ++ [.caller true] ++
    List.replicate 9 (.worker 1 (.proceed true))

/-- Worker 1 leaves at its check, and no stop was called since its start. -/
theorem staleStop_refuses : ¬ ∀ as s, run step {} as = some s → EntersUnlessStopped s := by
  intro hall
  have hrun : (run step {} staleStop).map (fun s => (s.threads 1, s.history.stopCalled 1,
      (step s (.worker 1 (.proceed true))).map (·.threads 1))) =
      some (some .stopCheck, false, some (some (.finiRetry 0))) := by decide
  obtain ⟨s, hs, hrecord⟩ := Option.map_eq_some_iff.mp hrun
  obtain ⟨hthread, hrest⟩ := Prod.mk.inj hrecord
  obtain ⟨hcalled, hleaves⟩ := Prod.mk.inj hrest
  have henters := hall _ s hs 1 true hthread hcalled
  exact absurd (hleaves.symm.trans henters) (by decide)

end DarkMed.Jni
