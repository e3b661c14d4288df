import DarkMed.Jni.Session

/-!
# What a Step Changes

The inversion lemmas of `step`.  For each party: which part of the state its
statements leave alone, what they do to the words that worker and stopper share,
and what they add to the records.  No later module unfolds `workerStep`.
-/

namespace DarkMed.Jni

/-! ## The worker's statements -/

/-- The words that the worker shares with the stopper. -/
def State.signals (s : State) : Signals := ⟨s.tsync, s.eventFds, s.g.running⟩

/-- The part of the state that a step of worker `i` to `pc` leaves alone. -/
structure WorkerFrame (s t : State) (i : Nat) (pc : WorkerPc) : Prop where
  threads : t.threads = Function.update s.threads i (some pc)
  calls : t.calls = s.calls
  configPath : t.configPath = s.configPath
  utfChars : t.utfChars = s.utfChars
  waiting : t.waiting = s.waiting
  holder : t.holder = s.holder
  worker : t.g.worker = s.g.worker
  vm : t.g.vm = s.g.vm
  protector : t.g.protector = s.g.protector
  protectMethod : t.g.protectMethod = s.g.protectMethod
  protectCallback : t.g.protectCallback = s.g.protectCallback
  stopCalled : t.history.stopCalled = s.history.stopCalled
  newRefs : t.history.newRefs = s.history.newRefs
  deletedRefs : t.history.deletedRefs = s.history.deletedRefs
  terminated : t.history.terminated = s.history.terminated
  writeFailed : t.history.writeFailed = s.history.writeFailed

/-- The socket is one that its worker's own protector has accepted, or it is closed. -/
def SocketCall.ProtectedOrClosed (call : SocketCall) : Prop :=
  (0 ≤ call.result → call.protectedBy = some call.worker) ∧ (call.result < 0 → call.closed = true)

/-- What a step of worker `i` from `pc` to `pc'` does. -/
structure WorkerStep (s t : State) (i : Nat) (pc pc' : WorkerPc) : Prop
    extends WorkerFrame s t i pc' where
  effect : WorkerEffect s.signals pc.stage pc'.stage t.signals
  readsPath : pc'.readsPath → pc.readsPath
  pathReads : t.history.pathReads = s.history.pathReads ∨
    pc.readsPath ∧ t.history.pathReads = s.history.pathReads ++ [(i, s.utfChars i)]
  sockets : t.history.sockets = s.history.sockets ∨
    ∃ call, t.history.sockets = s.history.sockets ++ [call] ∧
      (s.g.protectCallback → s.g.protector = some i → call.ProtectedOrClosed)

section Worker

variable {s t : State} {i : Nat} {pc pc' : WorkerPc}

/-- A statement that only writes the shared words. -/
private theorem WorkerStep.signal (w : Signals)
    (heffect : WorkerEffect s.signals pc.stage pc'.stage w) (hreads : pc'.readsPath → pc.readsPath) :
    WorkerStep s
      ({ s with
        tsync := w.tsync
        eventFds := w.eventFds
        g := { s.g with running := w.running } }.setThread i pc') i pc pc' where
  toWorkerFrame := by constructor <;> rfl
  effect := heffect
  readsPath := hreads
  pathReads := .inl rfl
  sockets := .inl rfl

/-- A statement of the worker that touches no shared word. -/
private theorem WorkerStep.quiet (hquiet : Quiet pc.stage pc'.stage)
    (hreads : pc'.readsPath → pc.readsPath) : WorkerStep s (s.setThread i pc') i pc pc' :=
  .signal s.signals (.quiet hquiet) hreads

/-- A statement that reads `config_path`. -/
private theorem WorkerStep.read (hpc : pc.readsPath) (hquiet : Quiet pc.stage pc'.stage) :
    WorkerStep s ((s.readPath i).setThread i pc') i pc pc' where
  toWorkerFrame := by constructor <;> rfl
  effect := .quiet hquiet
  readsPath := fun _ => hpc
  pathReads := .inr ⟨hpc, rfl⟩
  sockets := .inl rfl

/-- A return of `hev_task_io_socket_socket`. -/
private theorem WorkerStep.socket {phase : LoopPhase} {socket : SocketPc} {call : SocketCall}
    (hcall : s.g.protectCallback → s.g.protector = some i → call.ProtectedOrClosed) :
    WorkerStep s ((s.socketReturns call).setThread i (.eventLoop phase .idle)) i
      (.eventLoop phase socket) (.eventLoop phase .idle) where
  toWorkerFrame := by constructor <;> rfl
  effect := .quiet (.looping phase)
  readsPath := id
  pathReads := .inl rfl
  sockets := .inr ⟨call, rfl, hcall⟩

/-- `protect_socket` accepts only through the protector that the globals hold. -/
theorem protectSocket_eq_true {answer : ProtectAnswer} (h : (s.protectSocket answer).1 = true) :
    (s.protectSocket answer).2 = s.g.protector := by
  unfold State.protectSocket at h ⊢
  split
  · split <;> simp_all
  · simp_all

/-- What a statement of the event loop can do. -/
theorem loopStep_inv {phase : LoopPhase} {socket : SocketPc} {input : WorkerInput}
    (h : loopStep s i phase socket input = some t) :
    ∃ pc', WorkerStep s t i (.eventLoop phase socket) pc' := by
  unfold loopStep at h
  split at h
  · split at h
    · next hfds =>
      cases h
      exact ⟨_, .signal { s.signals with eventFds := some _ } (.readByte hfds) id⟩
    · cases h
  · cases h
    exact ⟨_, .signal { s.signals with tsync := { s.tsync with sent := false } } .clearSent id⟩
  · cases h
    exact ⟨_, .quiet .woundUp id⟩
  · cases h
    exact ⟨_, .quiet (.looping _) id⟩
  · split at h
    · cases h
      exact ⟨_, .quiet (.looping _) id⟩
    · next hcallback =>
      cases h
      exact ⟨_, .socket fun hset => absurd hset hcallback⟩
  · next fd answer =>
    -- the socket is returned as it is if the protector accepts it, and is closed otherwise
    have haccepted := @protectSocket_eq_true s answer
    rcases hanswer : s.protectSocket answer with ⟨accepted, protectedBy⟩
    simp only [hanswer] at h haccepted
    cases accepted with
    | true =>
      cases h
      refine ⟨_, .socket fun _ hprotector => ⟨fun _ => ?_, fun hneg => ?_⟩⟩
      · exact (haccepted rfl).trans hprotector
      · exact absurd hneg (by simp)
    | false =>
      cases h
      exact ⟨_, .socket fun _ _ => ⟨fun hpos => absurd hpos (by simp), fun _ => rfl⟩⟩
  · cases h

/-- **Inversion of `workerStep`.** -/
theorem workerStep_inv {input : WorkerInput} (h : workerStep s i pc input = some t) :
    ∃ pc', WorkerStep s t i pc pc' := by
  unfold workerStep at h
  split at h
  · exact loopStep_inv h
  -- `hev_config_init_from_file`
  · next ok => cases ok <;> cases h <;> exact ⟨_, .quiet (by constructor) (by decide)⟩
  · next ok => cases ok <;> cases h <;> exact ⟨_, .read rfl (by constructor)⟩
  · cases h
    exact ⟨_, .read rfl .leaving⟩
  · next ok => cases ok <;> cases h <;> exact ⟨_, .quiet (by constructor) (by decide)⟩
  · cases h
    exact ⟨_, .read rfl .leaving⟩
  · next ok => cases ok <;> cases h <;> exact ⟨_, .quiet (by constructor) (by decide)⟩
  -- `hev_socks5_tunnel_init`
  · next ok => cases ok <;> cases h <;> exact ⟨_, .quiet (by constructor) (by decide)⟩
  · next ok => cases ok <;> cases h <;> exact ⟨_, .quiet (by constructor) (by decide)⟩
  · split at h
    · cases h
      exact ⟨_, .signal { s.signals with eventFds := some 0 } .openFds (by decide)⟩
    · cases h
      exact ⟨_, .quiet .openingFails (by decide)⟩
  · next ok => cases ok <;> cases h <;> exact ⟨_, .quiet (by constructor) (by decide)⟩
  · cases h
    exact ⟨_, .signal { s.signals with tsync := { s.tsync with send := true } } .setSend
      (by decide)⟩
  -- `hev_socks5_tunnel_run`
  · cases hstop : s.tsync.stop with
    | true =>
      rw [hstop] at h
      cases h
      exact ⟨_, .signal { s.signals with tsync := { s.tsync with stop := false } }
        (.refuse hstop) (by decide)⟩
    | false =>
      rw [hstop] at h
      cases h
      exact ⟨_, .signal { s.signals with tsync := { s.tsync with stop := false } }
        (.enter hstop) (by decide)⟩
  -- `hev_socks5_tunnel_fini`
  · split at h
    · next hwait =>
      cases h
      exact ⟨_, .signal { s.signals with tsync := { s.tsync with send := false, sent := false } }
        (.retry hwait) id⟩
    · next hwait =>
      cases h
      exact ⟨_, .signal { s.signals with tsync := { s.tsync with send := false, sent := false } }
        (.pass (Bool.eq_false_iff.mpr hwait)) id⟩
  · cases h
    exact ⟨_, .signal { s.signals with eventFds := none } .closeFds id⟩
  -- the rest of `run_tunnel`
  · cases h
    exact ⟨.storeRunning, {
      toWorkerFrame := by constructor <;> rfl
      effect := .quiet .leaving
      readsPath := id
      pathReads := .inl rfl
      sockets := .inl rfl }⟩
  · cases h
    exact ⟨_, .signal { s.signals with running := false } .storeRunning id⟩
  · cases h

/-- A worker leaves the statements before its check by failing, or through the check. -/
theorem workerStep_fails {input : WorkerInput} (h : workerStep s i pc input = some t)
    (hpc' : t.threads i = some pc') (hbefore : pc.beforeCheck = true) (hnot : pc ≠ .stopCheck)
    (hafter : pc'.beforeCheck = false) : input = .proceed false ∧ pc.canFail = true := by
  cases input with
  | proceed ok =>
    -- the statement that sets `SYNC_SEND` leads to the check, whatever its library call returns
    by_cases hsend : pc = .fetchOrSend
    · subst hsend
      cases h
      have hnext : pc' = .stopCheck := by simpa [State.setThread, eq_comm] using hpc'
      simp [hnext, WorkerPc.beforeCheck] at hafter
    · cases ok with
      | false => cases pc <;> simp_all [WorkerPc.beforeCheck, WorkerPc.canFail]
      | true =>
        exfalso
        cases pc <;> simp only [workerStep, WorkerPc.beforeCheck, Bool.false_eq_true, ne_eq,
            not_true] at h hbefore hnot <;>
          cases h <;> simp [State.setThread, State.readPath] at hpc' <;> subst hpc' <;>
          cases hafter
  | _ => cases pc <;> simp_all [workerStep, WorkerPc.beforeCheck]

end Worker

/-! ## The statements of the bodies -/

/-- The part of the state that the statement `pc` of `startNative` number `call` leaves alone. -/
structure StartFrame (s t : State) (call : Nat) (pc : StartPc) : Prop where
  calls : t.calls = s.calls
  configPath : t.configPath = s.configPath
  waiting : t.waiting = s.waiting
  tsync : t.tsync = s.tsync
  eventFds : t.eventFds = s.eventFds
  pathReads : t.history.pathReads = s.history.pathReads
  sockets : t.history.sockets = s.history.sockets
  holder : t.holder = none ∨ ∃ pc, t.holder = some (.start call pc)
  worker : t.g.worker = s.g.worker ∨ t.g.worker = some call
  threads : ∀ i, t.threads i = s.threads i ∨
    i = call ∧ t.threads i = some .parserInitialize ∧ t.holder = some (.start call (.release true))
  utfChars : (∀ result, pc ≠ .release result) → t.utfChars = s.utfChars

/-- The part of the state that the statement `pc` of `stopNative` leaves alone. -/
structure StopFrame (s t : State) (pc : StopPc) : Prop where
  calls : t.calls = s.calls
  configPath : t.configPath = s.configPath
  utfChars : t.utfChars = s.utfChars
  waiting : t.waiting = s.waiting
  holder : t.holder = none ∨ ∃ pc, t.holder = some (.stop pc)
  threads : ∀ i, t.threads i = s.threads i ∨ s.threads i = some .finished ∧ t.threads i = none
  newRefs : t.history.newRefs = s.history.newRefs
  stopCalled : t.history.stopCalled = s.history.stopCalled
  pathReads : t.history.pathReads = s.history.pathReads
  sockets : t.history.sockets = s.history.sockets
  protector : pc ≠ .clearProtector →
    t.g.protector = s.g.protector ∧ t.history.deletedRefs = s.history.deletedRefs

/-- Deleting the reference is recorded, for the protector that there is. -/
theorem State.clearProtector_history (s : State) :
    s.clearProtector.history = { s.history with
      deletedRefs := fun i =>
        s.history.deletedRefs i + if s.g.protector = some i then 1 else 0 } := by
  unfold clearProtector
  split
  · next j hprotector =>
    have hrefs : Function.update s.history.deletedRefs j (s.history.deletedRefs j + 1) =
        fun i => s.history.deletedRefs i + if s.g.protector = some i then 1 else 0 := by
      funext i
      by_cases hi : i = j
      · simp [hi, hprotector]
      · simp [Function.update_of_ne hi, hprotector, Ne.symm hi]
    rw [hrefs]
  · next hprotector => simp [hprotector]

@[simp] theorem State.clearProtector_stopCalled (s : State) :
    s.clearProtector.history.stopCalled = s.history.stopCalled := by
  rw [clearProtector_history]

@[simp] theorem State.clearProtector_worker (s : State) :
    s.clearProtector.g.worker = s.g.worker := rfl

@[simp] theorem State.clearProtector_running (s : State) :
    s.clearProtector.g.running = s.g.running := rfl

@[simp] theorem State.clearProtector_threads (s : State) :
    s.clearProtector.threads = s.threads := rfl

@[simp] theorem State.clearProtector_tsync (s : State) :
    s.clearProtector.tsync = s.tsync := rfl

@[simp] theorem State.clearProtector_eventFds (s : State) :
    s.clearProtector.eventFds = s.eventFds := rfl

/-- What a statement of `startNative` leaves as it is. -/
theorem startStep_frame (s : State) (call : Nat) (pc : StartPc) (ok : Bool) :
    StartFrame s (startStep s call pc ok) call pc := by
  cases pc with
  | testRunning =>
    simp only [startStep]
    split <;>
      exact ⟨rfl, rfl, rfl, rfl, rfl, rfl, rfl, .inr ⟨_, rfl⟩, .inl rfl, fun _ => .inl rfl,
        fun _ => rfl⟩
  | spawn =>
    cases ok with
    | true =>
      -- the one statement of a start that makes a thread
      refine ⟨rfl, rfl, rfl, rfl, rfl, rfl, rfl, .inr ⟨_, rfl⟩, .inr rfl, fun i => ?_,
        fun _ => rfl⟩
      by_cases hi : i = call
      · exact .inr ⟨hi, by simp [startStep, State.atStart, hi], rfl⟩
      · exact .inl (Function.update_of_ne hi _ _)
    | false =>
      exact ⟨rfl, rfl, rfl, rfl, rfl, rfl, rfl, .inr ⟨_, rfl⟩, .inl rfl, fun _ => .inl rfl,
        fun _ => rfl⟩
  | clearProtector =>
    have hhistory := s.clearProtector_history
    constructor <;> simp [startStep, State.atStart, hhistory] <;> simp [State.clearProtector]
  | release result =>
    exact ⟨rfl, rfl, rfl, rfl, rfl, rfl, rfl, .inl rfl, .inl rfl, fun _ => .inl rfl,
      fun hnot => absurd rfl (hnot result)⟩
  | _ =>
    cases ok <;>
      exact ⟨rfl, rfl, rfl, rfl, rfl, rfl, rfl, .inr ⟨_, rfl⟩, .inl rfl, fun _ => .inl rfl,
        fun _ => rfl⟩

/-- What a statement of `stopNative` leaves as it is. -/
theorem stopStep_frame {s t : State} {pc : StopPc} (hholder : s.holder = some (.stop pc))
    (h : stopStep s pc = some t) : StopFrame s t pc := by
  have hsame : ∀ i, s.threads i = s.threads i ∨
      s.threads i = some .finished ∧ s.threads i = none := fun _ => .inl rfl
  have hkept : pc ≠ .clearProtector → s.g.protector = s.g.protector ∧
      s.history.deletedRefs = s.history.deletedRefs := fun _ => ⟨rfl, rfl⟩
  cases pc with
  | clearProtector =>
    cases h
    have hhistory := s.clearProtector_history
    constructor <;> simp [State.atStop, hhistory] <;> simp [State.clearProtector]
  | fetchOrWait =>
    simp only [stopStep] at h
    split at h
    · cases h
      exact ⟨rfl, rfl, rfl, rfl, .inr ⟨_, hholder⟩, hsame, rfl, rfl, rfl, rfl, hkept⟩
    · cases h
      split <;> exact ⟨rfl, rfl, rfl, rfl, .inr ⟨_, rfl⟩, hsame, rfl, rfl, rfl, rfl, hkept⟩
  | fetchOrSent =>
    cases h
    split <;> exact ⟨rfl, rfl, rfl, rfl, .inr ⟨_, rfl⟩, hsame, rfl, rfl, rfl, rfl, hkept⟩
  | join i =>
    simp only [stopStep] at h
    split at h
    · next hfinished =>
      cases h
      refine ⟨rfl, rfl, rfl, rfl, .inr ⟨_, rfl⟩, fun j => ?_, rfl, rfl, rfl, rfl, hkept⟩
      by_cases hj : j = i
      · exact .inr ⟨hj ▸ hfinished, by simp [State.atStop, hj]⟩
      · exact .inl (Function.update_of_ne hj _ _)
    · cases h
  | done =>
    cases h
    exact ⟨rfl, rfl, rfl, rfl, .inl rfl, hsame, rfl, rfl, rfl, rfl, hkept⟩
  | fetchOrStop | fetchAndWait | storeRunning =>
    cases h
    exact ⟨rfl, rfl, rfl, rfl, .inr ⟨_, rfl⟩, hsame, rfl, rfl, rfl, rfl, hkept⟩
  | testJoinable | testRunning | writeEvent | moveWorker =>
    simp only [stopStep] at h
    split at h <;> cases h <;>
      exact ⟨rfl, rfl, rfl, rfl, .inr ⟨_, rfl⟩, hsame, rfl, rfl, rfl, rfl, hkept⟩

/-! ## Actions -/

/-- What each kind of action does. -/
inductive Step (s : State) : Action → State → Prop where
  | callStart (path : String) :
      Step s (.callStart path) { s with
        calls := s.calls + 1
        configPath := Function.update s.configPath s.calls path
        utfChars := Function.update s.utfChars s.calls (some path)
        waiting := s.waiting ++ [s.calls] }
  | lockStart {call : Nat} (hfree : s.holder = none) (hmem : call ∈ s.waiting) :
      Step s (.lockStart call)
        ({ s with waiting := s.waiting.erase call }.atStart call .testRunning)
  | lockStop (hfree : s.holder = none) :
      Step s .lockStop
        ({ s with history := { s.history with stopCalled := fun _ => true } }.atStop .testJoinable)
  | start {call : Nat} {pc : StartPc} (ok : Bool) (hholder : s.holder = some (.start call pc)) :
      Step s (.caller ok) (startStep s call pc ok)
  | stop {t : State} {pc : StopPc} (ok : Bool) (hholder : s.holder = some (.stop pc))
      (h : stopStep s pc = some t) : Step s (.caller ok) t
  | worker {t : State} {i : Nat} {pc pc' : WorkerPc} {input : WorkerInput}
      (hpc : s.threads i = some pc) (h : WorkerStep s t i pc pc') : Step s (.worker i input) t

/-- **Inversion of `step`.** -/
theorem step_inv {s t : State} {a : Action} (h : step s a = some t) : Step s a t := by
  cases a with
  | callStart path =>
    cases h
    exact .callStart path
  | lockStart call =>
    simp only [step] at h
    split at h
    · next hfree =>
      cases h
      exact .lockStart hfree.1 hfree.2
    · cases h
  | lockStop =>
    simp only [step] at h
    split at h
    · next hfree =>
      cases h
      exact .lockStop hfree
    · cases h
  | caller ok =>
    simp only [step] at h
    split at h
    · next hholder =>
      cases h
      exact .start ok hholder
    · next hholder => exact .stop ok hholder h
    · cases h
  | worker i input =>
    simp only [step] at h
    split at h
    · next pc hpc =>
      obtain ⟨pc', hstep⟩ := workerStep_inv h
      exact .worker hpc hstep
    · cases h

/-- Only the worker itself changes its position, from its start to its return. -/
theorem threads_of_not_worker {s t : State} {a : Action} (h : step s a = some t)
    (ha : ∀ i input, a ≠ .worker i input) (i : Nat) :
    t.threads i = s.threads i ∨ t.threads i = some .parserInitialize ∨
      s.threads i = some .finished := by
  cases step_inv h with
  | callStart path => exact .inl rfl
  | lockStart hfree hmem => exact .inl rfl
  | lockStop hfree => exact .inl rfl
  | start ok hholder =>
    rcases (startStep_frame s _ _ ok).threads i with hsame | ⟨-, hnew, -⟩
    · exact .inl hsame
    · exact .inr (.inl hnew)
  | stop ok hholder h =>
    rcases (stopStep_frame hholder h).threads i with hsame | ⟨hfinished, -⟩
    · exact .inl hsame
    · exact .inr (.inr hfinished)
  | worker hpc h => exact absurd rfl (ha _ _)

end DarkMed.Jni
