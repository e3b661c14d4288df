import DarkMed.Jni.Ownership

/-!
# Protected Sockets and Global References

`protect_socket` is how a socket of the tunnel is kept out of the tunnel.  Here:
what the records of a run say about the sockets that the worker obtained and
about the global references to the protectors.
-/

namespace DarkMed.Jni

open DarkMed.Lib.Transition

/-! ## Global references -/

/-- A `startNative` call that has not created its global reference yet. -/
def StartPc.beforeRef : StartPc → Bool
  | .testRunning | .getJavaVM | .getMethodID | .newGlobalRef => true
  | _ => false

/-- The call has not reached `NewGlobalRef`. -/
def State.BeforeRef (s : State) (call : Nat) : Prop :=
  call ∈ s.waiting ∨ s.calls ≤ call ∨
    ∃ pc, s.holder = some (.start call pc) ∧ pc.beforeRef = true

/-- One reference a call, and the outstanding one is `g_protector`. -/
structure Refs (s : State) : Prop where
  fresh : ∀ call, s.BeforeRef call → s.history.newRefs call = 0
  once : ∀ call, s.history.newRefs call ≤ 1
  balance : ∀ call, s.history.newRefs call =
    s.history.deletedRefs call + if s.g.protector = some call then 1 else 0

section Refs

variable {s t : State}

/-- A step that creates and deletes no reference. -/
private theorem Refs.frame (hs : Refs s) (hbefore : ∀ call, t.BeforeRef call → s.BeforeRef call)
    (hprotector : t.g.protector = s.g.protector) (hnew : t.history.newRefs = s.history.newRefs)
    (hdeleted : t.history.deletedRefs = s.history.deletedRefs) : Refs t where
  fresh := fun call h => hnew ▸ hs.fresh call (hbefore call h)
  once := fun call => hnew ▸ hs.once call
  balance := fun call => by rw [hnew, hdeleted, hprotector, hs.balance call]

/-- `clear_protector` deletes the outstanding reference. -/
private theorem Refs.clearProtector (hs : Refs s)
    (hbefore : ∀ call, t.BeforeRef call → s.BeforeRef call)
    (hg : t.g = s.clearProtector.g) (hhistory : t.history = s.clearProtector.history) :
    Refs t where
  fresh := fun call h => by
    rw [hhistory, State.clearProtector_history]
    exact hs.fresh call (hbefore call h)
  once := fun call => by
    rw [hhistory, State.clearProtector_history]
    exact hs.once call
  balance := fun call => by
    rw [hhistory, hg, State.clearProtector_history]
    simpa [State.clearProtector] using hs.balance call

/-- A call that goes on within `startNative` does not come before `NewGlobalRef` again. -/
private theorem beforeRef_of_holder {call : Nat} {pc pc' : StartPc}
    (hholder : s.holder = some (.start call pc)) (hwaiting : t.waiting = s.waiting)
    (hcalls : t.calls = s.calls) (hholder' : t.holder = some (.start call pc'))
    (hpc : pc'.beforeRef → pc.beforeRef) (other : Nat) (h : t.BeforeRef other) :
    s.BeforeRef other := by
  rcases h with hmem | hle | ⟨pc'', hstart, hpc''⟩
  · exact .inl (hwaiting ▸ hmem)
  · exact .inr (.inl (hcalls ▸ hle))
  · cases hholder'.symm.trans hstart
    exact .inr (.inr ⟨pc, hholder, hpc hpc''⟩)

/-- Where no call is inside `startNative`, none comes before `NewGlobalRef` that was not there. -/
private theorem beforeRef_of_not_start (hwaiting : t.waiting = s.waiting) (hcalls : t.calls = s.calls)
    (hholder : ∀ call pc, t.holder ≠ some (.start call pc)) (other : Nat)
    (h : t.BeforeRef other) : s.BeforeRef other := by
  rcases h with hmem | hle | ⟨pc, hstart, -⟩
  · exact .inl (hwaiting ▸ hmem)
  · exact .inr (.inl (hcalls ▸ hle))
  · exact absurd hstart (hholder other pc)

/-- A statement of `startNative` keeps the count of references. -/
theorem Refs.start {call : Nat} {pc : StartPc} (hs : Refs s) (hheld : Held s) (hnum : Numbering s)
    (hholder : s.holder = some (.start call pc)) (ok : Bool) : Refs (startStep s call pc ok) := by
  have hglobals := hheld.globals
  rw [hholder] at hglobals
  cases pc with
  | testRunning =>
    simp only [startStep]
    split <;>
      exact hs.frame (beforeRef_of_holder hholder rfl rfl rfl (by decide)) rfl rfl rfl
  | newGlobalRef =>
    obtain ⟨-, hhold⟩ := hglobals
    cases ok with
    | true =>
      -- the call has created no reference yet, and `g_protector` is clear
      have hcall := hnum.holder call _ hholder
      have hzero : s.history.newRefs call = 0 := hs.fresh call (.inr (.inr ⟨_, hholder, rfl⟩))
      refine ⟨fun other h => ?_, fun other => ?_, fun other => ?_⟩ <;>
        by_cases hother : other = call
      · -- the call itself is past `NewGlobalRef` now
        subst hother
        rcases h with hmem | hle | ⟨pc, hstart, hpc⟩
        · exact absurd hmem hcall.2
        · exact absurd hcall.1 (Nat.not_lt.mpr hle)
        · cases hstart
          exact absurd hpc (by decide)
      · have hbefore : s.BeforeRef other := by
          rcases h with hmem | hle | ⟨pc, hstart, -⟩
          · exact .inl hmem
          · exact .inr (.inl hle)
          · cases hstart
            exact absurd rfl hother
        simpa [startStep, State.atStart, Function.update_of_ne hother] using hs.fresh other hbefore
      · simp [startStep, State.atStart, hother, hzero]
      · simpa [startStep, State.atStart, Function.update_of_ne hother] using hs.once other
      · have hbalance := hs.balance call
        rw [hzero, hhold.protector] at hbalance
        have hdeleted : s.history.deletedRefs call = 0 := by simpa using hbalance.symm
        simp [startStep, State.atStart, hother, hzero, hdeleted]
      · have hbalance := hs.balance other
        rw [hhold.protector] at hbalance
        simpa [startStep, State.atStart, Function.update_of_ne hother, Ne.symm hother] using hbalance
    | false =>
      exact hs.frame (beforeRef_of_holder hholder rfl rfl rfl (by decide)) hhold.protector.symm
        rfl rfl
  -- the error path of `startNative` deletes what it has made
  | clearProtector =>
    exact hs.clearProtector (beforeRef_of_holder hholder rfl rfl rfl (by decide)) rfl rfl
  | release result => exact hs.frame (beforeRef_of_not_start rfl rfl fun _ _ h => by cases h) rfl rfl rfl
  | _ =>
    cases ok <;> exact hs.frame (beforeRef_of_holder hholder rfl rfl rfl (by decide)) rfl rfl rfl

/-- A statement of `stopNative` keeps it. -/
theorem Refs.stop {pc : StopPc} (hs : Refs s) (hholder : s.holder = some (.stop pc))
    (h : stopStep s pc = some t) : Refs t := by
  have hframe := stopStep_frame hholder h
  have hbefore := beforeRef_of_not_start (s := s) (t := t) hframe.waiting hframe.calls (by
    intro call pc' hstart
    rcases hframe.holder with hnone | ⟨pc'', hsome⟩
    · simp [hnone] at hstart
    · cases hsome.symm.trans hstart)
  -- the one statement of a stop that deletes a reference
  by_cases hclear : pc = .clearProtector
  · subst hclear
    cases h
    exact hs.clearProtector hbefore rfl rfl
  · obtain ⟨hprotector, hdeleted⟩ := hframe.protector hclear
    exact hs.frame hbefore hprotector hframe.newRefs hdeleted

/-- The worker touches no global reference. -/
theorem Refs.worker {i : Nat} {pc : WorkerPc} (hs : Refs s) (h : WorkerFrame s t i pc) :
    Refs t := by
  refine hs.frame (fun call hbefore => ?_) h.protector h.newRefs h.deletedRefs
  simpa only [State.BeforeRef, h.waiting, h.calls, h.holder] using hbefore

/-- **One step** keeps the count, in every interleaving of callers and worker. -/
theorem Refs.step {a : Action} (hs : Refs s) (hheld : Held s) (hnum : Numbering s)
    (h : step s a = some t) : Refs t := by
  cases step_inv h with
  -- a new call comes before `NewGlobalRef`, with a number that none has had
  | callStart path =>
    refine hs.frame (fun call hbefore => ?_) rfl rfl rfl
    rcases hbefore with hmem | hle | hstart
    · rcases List.mem_append.mp hmem with hmem | hlast
      · exact .inl hmem
      · exact .inr (.inl (List.mem_singleton.mp hlast).ge)
    · exact .inr (.inl (Nat.le_of_succ_le hle))
    · exact .inr (.inr hstart)
  -- the call leaves the queue, and is still before `NewGlobalRef`
  | lockStart hfree hmem =>
    refine hs.frame (fun call hbefore => ?_) rfl rfl rfl
    rcases hbefore with hin | hle | ⟨pc, hstart, -⟩
    · exact .inl (List.mem_of_mem_erase hin)
    · exact .inr (.inl hle)
    · cases hstart
      exact .inl hmem
  | lockStop hfree => exact hs.frame (beforeRef_of_not_start rfl rfl nofun) rfl rfl rfl
  | start ok hholder => exact hs.start hheld hnum hholder ok
  | stop ok hholder h => exact hs.stop hholder h
  | worker hpc h => exact hs.worker h.toWorkerFrame

end Refs

theorem refs_initial : Refs {} :=
  ⟨fun _ _ => rfl, fun _ => Nat.zero_le 1, fun _ => rfl⟩

/-! ## Sockets -/

/-- A descriptor that the worker gets is protected or closed, at each step. -/
theorem sockets_step {s t : State} {a : Action} (hheld : Held s)
    (hs : ∀ call ∈ s.history.sockets, call.ProtectedOrClosed) (h : step s a = some t) :
    ∀ call ∈ t.history.sockets, call.ProtectedOrClosed := by
  cases step_inv h with
  | callStart path => exact hs
  | lockStart hfree hmem => exact hs
  | lockStop hfree => exact hs
  | start ok hholder => exact (startStep_frame s _ _ ok).sockets ▸ hs
  | stop ok hholder h => exact (stopStep_frame hholder h).sockets ▸ hs
  | @worker _ i _ _ _ hpc h =>
    rcases h.sockets with hsame | ⟨new, hnew, hsafe⟩
    · exact hsame ▸ hs
    -- the worker is the only thread, so the globals hold its own protector
    · have howned := hheld.ownedBy_thread (i := i) (by simp [hpc])
      intro call hmem
      rw [hnew] at hmem
      rcases List.mem_append.mp hmem with hmem | hlast
      · exact hs call hmem
      · rw [List.mem_singleton.mp hlast]
        exact hsafe howned.protectCallback howned.protector

/-! ## Every reachable state -/

/-- The worker thread has been spawned and has not returned. -/
def State.Alive (s : State) (i : Nat) : Prop :=
  ∃ pc, s.threads i = some pc ∧ pc ≠ .finished

/-- The count of references is right in every state of every run. -/
theorem refs_of_run {as : List Action} {s : State} (h : run step {} as = some s) :
    Held s ∧ Numbering s ∧ Refs s :=
  run_invariant (I := fun s => Held s ∧ Numbering s ∧ Refs s)
    (fun _ _ _ hs ht => ⟨hs.1.step ht, hs.2.1.step ht, hs.2.2.step hs.1 hs.2.1 ht⟩)
    ⟨held_initial, numbering_initial, refs_initial⟩ h

/-- No socket of a run has been left unprotected and open. -/
theorem sockets_of_run {as : List Action} {s : State} (h : run step {} as = some s) :
    ∀ call ∈ s.history.sockets, call.ProtectedOrClosed :=
  (run_invariant (I := fun s => Held s ∧ ∀ call ∈ s.history.sockets, call.ProtectedOrClosed)
    (fun _ _ _ hs ht => ⟨hs.1.step ht, sockets_step hs.1 hs.2 ht⟩)
    ⟨held_initial, nofun⟩ h).2

/-- What the bridge owes to the VPN service in state `s`. -/
structure SocketsProtected (s : State) : Prop where
  oneWorker : ∀ i j, s.Alive i → s.Alive j → i = j
  globals : ∀ i, s.Alive i → s.g.protectCallback = true ∧ s.g.vm = some i ∧
    s.g.protector = some i ∧ s.g.protectMethod = some i
  sockets : ∀ call ∈ s.history.sockets, (0 ≤ call.result → call.protectedBy = some call.worker) ∧
    (call.result < 0 → call.closed = true)
  deletedOnce : ∀ i, s.history.newRefs i ≤ 1 ∧ s.history.deletedRefs i ≤ s.history.newRefs i
  noneLeft : ∀ ok t, s.holder = some (.stop .done) → step s (.caller ok) = some t →
    ∀ i, t.history.newRefs i = t.history.deletedRefs i

/-- **Every upstream socket is protected or closed.**  In every state of every run there is at
    most one worker, the callback and the globals are those of the call that spawned it, a
    descriptor is only returned to it when that call's protector has accepted it, and no global
    reference is deleted twice or left when `stopNative` returns. -/
theorem upstream_sockets_protected {as : List Action} {s : State}
    (h : run step {} as = some s) : SocketsProtected s := by
  obtain ⟨hheld, -, hrefs⟩ := refs_of_run h
  have hthread : ∀ i, s.Alive i → s.threads i ≠ none := by
    rintro i ⟨pc, hpc, -⟩
    simp [hpc]
  constructor
  · exact fun i j hi hj => hheld.eq_of_threads (hthread i hi) (hthread j hj)
  · intro i hi
    have howned := hheld.ownedBy_thread (hthread i hi)
    exact ⟨howned.protectCallback, howned.vm, howned.protector, howned.protectMethod⟩
  · -- what was recorded when the socket was made
    exact sockets_of_run h
  · intro i
    refine ⟨hrefs.once i, ?_⟩
    rw [hrefs.balance i]
    exact Nat.le_add_right _ _
  · -- when `stopNative` returns, `g_protector` is clear and the balance is even
    intro ok t hdone ht i
    have hglobals := hheld.globals
    rw [hdone] at hglobals
    have hbalance := hrefs.balance i
    simp only [hglobals.2.protector, reduceCtorEq, if_false, Nat.add_zero] at hbalance
    simp only [step, hdone, stopStep, Option.some.injEq] at ht
    subst ht
    exact hbalance

/-- A worker that opens one socket, which is protected, and is stopped. -/
def stoppedSession : List Action :=
  startActions 0 ++ [.caller true] ++ openActions 0 ++
    [.worker 0 (.proceed true), .worker 0 (.proceed true), .worker 0 (.openSocket 7),
      .worker 0 .readCallback, .worker 0 (.protect (.answered true)), .lockStop] ++
    List.replicate 7 (.caller true) ++
    List.replicate 7 (.worker 0 (.proceed true)) ++ List.replicate 3 (.caller true)

/-- One protected socket, and at the end no reference is left. -/
theorem upstream_sockets_protected_stoppedSession :
    ∃ s, run step {} stoppedSession = some s ∧
      s.history.sockets = [⟨0, 7, 7, some 0, false⟩] ∧ s.holder = some (.stop .done) ∧
      SocketsProtected s := by
  have hrun : ((run step {} stoppedSession).map fun s => (s.history.sockets, s.holder)) =
      some ([⟨0, 7, 7, some 0, false⟩], some (.stop .done)) := by decide
  obtain ⟨s, hs, hrecord⟩ := Option.map_eq_some_iff.mp hrun
  obtain ⟨hsockets, hholder⟩ := Prod.mk.inj hrecord
  exact ⟨s, hs, hsockets, hholder, upstream_sockets_protected hs⟩

end DarkMed.Jni
