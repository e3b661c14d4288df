import DarkMed.Jni.Bridge

/-!
# The Stop Protocol of a Session

One worker and one stopper talk through two words: `tsync` with its four bits,
and `event_fds`, which carries the stop byte.  This module states that protocol
without the rest of the bridge: the worker is reduced to the stage it has
reached, the stopper to its program counter.

- `WorkerEffect` and `StopEffect` say what one statement of either party does
  to the shared words.
- `Protocol` is what holds in every state of every session.
- `Leaving` (a stop in progress has reached the worker) and `NotStale` (a stop
  flag is there for the worker that it was raised for) hold as long as the
  session avoids one order of steps each.

`DarkMed.Jni.Stop` shows that the bridge runs this protocol.
-/

namespace DarkMed.Jni

/-! ## The worker's stages -/

/-- How far a worker has got, as far as a stop is concerned. -/
inductive Stage where
  /-- Before `event_fds` exist. -/
  | opening
  /-- `event_fds` exist, `SYNC_SEND` is not set yet. -/
  | opened
  /-- At the `SYNC_STOP` check. -/
  | checking
  | looping (phase : LoopPhase)
  /-- At the retry loop of `hev_socks5_tunnel_fini`. -/
  | fini
  | closing
  /-- On the way out, with `event_fds` closed or never opened. -/
  | leaving
  | finished
  deriving DecidableEq, Repr

def WorkerPc.stage : WorkerPc → Stage
  | .parserInitialize | .openConfig | .loadConfig | .parseDoc | .mainInner | .tunnelInit
  | .eventTaskInit => .opening
  | .taskInit | .fetchOrSend => .opened
  | .stopCheck => .checking
  | .eventLoop phase _ => .looping phase
  | .finiRetry _ => .fini
  | .finiClose _ => .closing
  | .openFailed | .loadFailed | .storeResult _ | .storeRunning => .leaving
  | .finished => .finished

namespace Stage

@[simp, grind] def beforeCheck : Stage → Bool
  | .opening | .opened | .checking => true
  | _ => false

@[simp, grind] def inLoop : Stage → Bool
  | .looping _ => true
  | _ => false

/-- The event task has read a stop byte. -/
@[simp, grind] def windsDown : Stage → Bool
  | .looping .byteRead | .looping .windingUp => true
  | _ => false

/-- `SYNC_SEND` may be set. -/
@[simp, grind] def maySend : Stage → Bool
  | .checking | .looping _ | .fini => true
  | _ => false

/-- `SYNC_SEND` is set. -/
@[simp, grind] def sends : Stage → Bool
  | .checking | .looping _ => true
  | _ => false

/-- `event_fds` may be open. -/
@[simp, grind] def mayHaveFds : Stage → Bool
  | .opened | .checking | .looping _ | .fini | .closing => true
  | _ => false

/-- `event_fds` are open. -/
@[simp, grind] def hasFds : Stage → Bool
  | .opened | .checking | .looping _ => true
  | _ => false

/-- A worker in its loop has let the stopper send. -/
theorem any_sends_of_any_inLoop {worker : Option Stage} (h : worker.any inLoop) :
    worker.any sends := by
  cases worker with
  | none => simp at h
  | some st => cases st <;> simp_all

end Stage

/-- The stage says whether the check is still to come. -/
@[simp] theorem WorkerPc.beforeCheck_stage (pc : WorkerPc) :
    pc.stage.beforeCheck = pc.beforeCheck := by
  cases pc <;> rfl

/-- Only the check itself is the stage of checking. -/
theorem WorkerPc.stage_eq_checking {pc : WorkerPc} : pc.stage = .checking ↔ pc = .stopCheck := by
  cases pc <;> simp [stage]

namespace StopPc

/-- The stopper holds `SYNC_WAIT`. -/
@[simp, grind] def holdsWait : StopPc → Bool
  | .fetchOrSent | .writeEvent | .fetchOrStop | .fetchAndWait => true
  | _ => false

/-- The stopper has seen `SYNC_SEND` and will write the stop byte. -/
@[simp, grind] def willWrite : StopPc → Bool
  | .fetchOrSent | .writeEvent => true
  | _ => false

/-- The stopper has given its signal and has not joined the worker yet. -/
@[simp, grind] def signalled : StopPc → Bool
  | .fetchAndWait | .moveWorker | .join _ => true
  | _ => false

/-- The stopper has found a worker and has not joined it yet. -/
@[simp, grind] def hasWorker : StopPc → Bool
  | .testRunning | .fetchOrWait | .fetchOrSent | .writeEvent | .fetchOrStop | .fetchAndWait
  | .moveWorker | .join _ => true
  | _ => false

/-- The stopper has found no worker, or has joined it. -/
@[simp, grind] def hasNoWorker : StopPc → Bool
  | .storeRunning | .clearProtector | .done => true
  | _ => false

/-- A stopper that is about to write holds `SYNC_WAIT`. -/
theorem holdsWait_of_willWrite {pc : StopPc} (h : pc.willWrite) : pc.holdsWait := by
  cases pc <;> simp_all

end StopPc

/-! ## The protocol -/

/-- The shared words. -/
structure Signals where
  tsync : Tsync
  eventFds : Option Nat
  running : Bool

/-- A stage change that leaves the shared words alone. -/
inductive Quiet : Stage → Stage → Prop where
  | opening : Quiet .opening .opening
  | loadFails : Quiet .opening .leaving
  | openingFails : Quiet .opening .fini
  | opened : Quiet .opened .opened
  | openedFails : Quiet .opened .fini
  | looping (phase : LoopPhase) : Quiet (.looping phase) (.looping phase)
  | woundUp : Quiet (.looping .windingUp) .fini
  | leaving : Quiet .leaving .leaving

/-- A quiet stage change keeps what a stage may have, and adds nothing to what it must have. -/
theorem Quiet.mono {st st' : Stage} (h : Quiet st st') :
    (st.maySend → st'.maySend) ∧ (st'.sends → st.sends) ∧ (st.mayHaveFds → st'.mayHaveFds) ∧
      (st'.hasFds → st.hasFds) ∧ (st'.windsDown → st.windsDown) := by
  cases h <;> simp

/-- Nor does it bring a stage back to where the check, the loop or the end comes. -/
theorem Quiet.stages {st st' : Stage} (h : Quiet st st') :
    (st'.beforeCheck → st.beforeCheck) ∧ (st'.inLoop → st.inLoop) ∧
      (st' = .looping .waiting → st = .looping .waiting) ∧ st ≠ .finished ∧ st' ≠ .finished := by
  cases h <;> simp

/-- What one statement of the worker does. -/
inductive WorkerEffect (w : Signals) : Stage → Stage → Signals → Prop where
  | quiet {st st' : Stage} (h : Quiet st st') : WorkerEffect w st st' w
  | openFds : WorkerEffect w .opening .opened { w with eventFds := some 0 }
  | setSend :
      WorkerEffect w .opened .checking { w with tsync := { w.tsync with send := true } }
  | refuse (hstop : w.tsync.stop = true) :
      WorkerEffect w .checking .fini { w with tsync := { w.tsync with stop := false } }
  | enter (hstop : w.tsync.stop = false) :
      WorkerEffect w .checking (.looping .waiting)
        { w with tsync := { w.tsync with stop := false } }
  | readByte {n : Nat} (hfds : w.eventFds = some (n + 1)) :
      WorkerEffect w (.looping .waiting) (.looping .byteRead) { w with eventFds := some n }
  | clearSent :
      WorkerEffect w (.looping .byteRead) (.looping .windingUp)
        { w with tsync := { w.tsync with sent := false } }
  | retry (hwait : w.tsync.wait = true) :
      WorkerEffect w .fini .fini { w with tsync := { w.tsync with send := false, sent := false } }
  | pass (hwait : w.tsync.wait = false) :
      WorkerEffect w .fini .closing
        { w with tsync := { w.tsync with send := false, sent := false } }
  | closeFds : WorkerEffect w .closing .leaving { w with eventFds := none }
  | storeRunning : WorkerEffect w .leaving .finished { w with running := false }

/-- What one statement of the stopper does between the `joinable` test and the join. -/
inductive StopEffect (w : Signals) : StopPc → StopPc → Signals → Prop where
  | quit (hrunning : w.running = true) : StopEffect w .testRunning .fetchOrWait w
  | skip (hrunning : w.running = false) : StopEffect w .testRunning .moveWorker w
  | retry (hwait : w.tsync.wait = true) : StopEffect w .fetchOrWait .fetchOrWait w
  | seesSend (hwait : w.tsync.wait = false) (hsend : w.tsync.send = true) :
      StopEffect w .fetchOrWait .fetchOrSent { w with tsync := { w.tsync with wait := true } }
  | seesNoSend (hwait : w.tsync.wait = false) (hsend : w.tsync.send = false) :
      StopEffect w .fetchOrWait .fetchOrStop { w with tsync := { w.tsync with wait := true } }
  | alreadySent (hsent : w.tsync.sent = true) :
      StopEffect w .fetchOrSent .fetchAndWait { w with tsync := { w.tsync with sent := true } }
  | setSent (hsent : w.tsync.sent = false) :
      StopEffect w .fetchOrSent .writeEvent { w with tsync := { w.tsync with sent := true } }
  | write {n : Nat} (hfds : w.eventFds = some n) :
      StopEffect w .writeEvent .fetchAndWait { w with eventFds := some (n + 1) }
  | writeFails (hfds : w.eventFds = none) : StopEffect w .writeEvent .fetchAndWait w
  | setStop :
      StopEffect w .fetchOrStop .fetchAndWait { w with tsync := { w.tsync with stop := true } }
  | clearWait :
      StopEffect w .fetchAndWait .moveWorker { w with tsync := { w.tsync with wait := false } }
  | move (i : Nat) : StopEffect w .moveWorker (.join i) w

/-- The stopper leaves `SYNC_SEND` and the opening of `event_fds` to the worker. -/
theorem StopEffect.frame {w w' : Signals} {pc pc' : StopPc} (h : StopEffect w pc pc' w') :
    w'.tsync.send = w.tsync.send ∧ (w'.eventFds ≠ none ↔ w.eventFds ≠ none) := by
  cases h with
  | write hfds => exact ⟨rfl, iff_of_true nofun (by rw [hfds]; nofun)⟩
  | _ => exact ⟨rfl, Iff.rfl⟩

/-- It comes to its write from where it has seen `SYNC_SEND`. -/
theorem StopEffect.willWrite {w w' : Signals} {pc pc' : StopPc} (h : StopEffect w pc pc' w') :
    pc'.willWrite → pc.willWrite ∨ w.tsync.send := by
  cases h with
  | seesSend _ hsend => exact fun _ => .inr hsend
  | setSent => exact fun _ => .inl rfl
  | _ => simp

/-- From its test to its join the stopper has found a worker, and leaves `g_running` to it. -/
theorem StopEffect.positions {w w' : Signals} {pc pc' : StopPc} (h : StopEffect w pc pc' w') :
    pc.hasWorker ∧ pc'.hasNoWorker = false ∧ w'.running = w.running := by
  cases h <;> simp

/-- `SYNC_WAIT` is its own. -/
theorem StopEffect.wait {w w' : Signals} {pc pc' : StopPc} (h : StopEffect w pc pc' w')
    (hwait : w.tsync.wait ↔ pc.holdsWait) : w'.tsync.wait ↔ pc'.holdsWait := by
  cases h <;> simp_all

/-- The state of a session: the stopper inside `stopNative`, the worker that is not joined yet,
    and whether a stop was called since its start. -/
structure Session where
  stop : Option StopPc
  worker : Option Stage
  called : Bool
  signals : Signals

namespace Session

inductive Step : Session → Session → Prop where
  | stutter (v : Session) : Step v v
  /-- `g_running.store` by a starter that has found no worker. -/
  | setRunning {v : Session} (running : Bool) (hstop : v.stop = none) (hworker : v.worker = none) :
      Step v { v with signals := { v.signals with running } }
  | spawn {v : Session} (hstop : v.stop = none) (hworker : v.worker = none)
      (hrunning : v.signals.running = true) :
      Step v { v with worker := some .opening, called := false }
  | worker {v : Session} {st st' : Stage} {w : Signals} (hworker : v.worker = some st)
      (h : WorkerEffect v.signals st st' w) :
      Step v { v with worker := some st', signals := w }
  | callStop {v : Session} (hstop : v.stop = none) :
      Step v { v with stop := some .testJoinable, called := v.worker.isSome }
  | joinable {v : Session} (hstop : v.stop = some .testJoinable) (hworker : v.worker ≠ none) :
      Step v { v with stop := some .testRunning }
  | notJoinable {v : Session} (hstop : v.stop = some .testJoinable) (hworker : v.worker = none) :
      Step v { v with stop := some .storeRunning }
  | signal {v : Session} {pc pc' : StopPc} {w : Signals} (hstop : v.stop = some pc)
      (h : StopEffect v.signals pc pc' w) :
      Step v { v with stop := some pc', signals := w }
  | join {v : Session} {i : Nat} (hstop : v.stop = some (.join i))
      (hworker : v.worker = some .finished) :
      Step v { v with stop := some .storeRunning, worker := none, called := false }
  | storeRunning {v : Session} (hstop : v.stop = some .storeRunning) :
      Step v { v with
        stop := some .clearProtector, signals := { v.signals with running := false } }
  | clearProtector {v : Session} (hstop : v.stop = some .clearProtector) :
      Step v { v with stop := some .done }
  | done {v : Session} (hstop : v.stop = some .done) : Step v { v with stop := none }

/-! ## What holds in every state -/

/-- The two parties agree on whether there is a worker, and the stopper on what it holds. -/
structure Positions (v : Session) : Prop where
  hasWorker : v.stop.any StopPc.hasWorker → v.worker ≠ none
  hasNoWorker : v.stop.any StopPc.hasNoWorker → v.worker = none
  /-- A stopper that faces a worker counts as called since the worker's start. -/
  called : v.stop ≠ none → v.worker ≠ none → v.called
  running : ∀ st, v.worker = some st → (v.signals.running ↔ st ≠ .finished)
  wait : v.signals.tsync.wait ↔ v.stop.any StopPc.holdsWait

/-- `SYNC_SEND` is set only while `event_fds` are open, and `SYNC_WAIT` keeps them open for a
    stopper that has seen it. -/
structure SendWindow (v : Session) : Prop where
  maySend : v.signals.tsync.send → v.worker.any Stage.maySend
  sends : v.worker.any Stage.sends → v.signals.tsync.send
  sendFds : v.signals.tsync.send → v.signals.eventFds ≠ none
  mayHaveFds : v.signals.eventFds ≠ none → v.worker.any Stage.mayHaveFds
  hasFds : v.worker.any Stage.hasFds → v.signals.eventFds ≠ none
  writeFds : v.stop.any StopPc.willWrite → v.signals.eventFds ≠ none
  writeWorker : v.stop.any StopPc.willWrite → v.worker.any Stage.maySend

/-- `SYNC_SENT`, the stop byte and its reading belong to the stop that is in progress. -/
structure StopByte (v : Session) : Prop where
  sentWorker : v.signals.tsync.sent → v.worker.any Stage.maySend
  sentStop : v.signals.tsync.sent → v.stop.any fun pc => pc == .writeEvent || pc.signalled
  byte : v.signals.eventFds.any (0 < ·) → v.stop.any StopPc.signalled
  windsDown : v.worker.any Stage.windsDown → v.stop.any StopPc.signalled

section Invariants

variable {v v' : Session}

/-- So the bit is set. -/
theorem Positions.wait_of_willWrite (hv : Positions v) (h : v.stop.any StopPc.willWrite) :
    v.signals.tsync.wait := by
  rw [hv.wait]
  cases hstop : v.stop with
  | none => simp [hstop] at h
  | some pc =>
    rw [hstop] at h
    exact StopPc.holdsWait_of_willWrite h

/-- The worker's statements keep what the positions say. -/
theorem Positions.worker {st st' : Stage} {w : Signals} (hv : Positions v)
    (hworker : v.worker = some st) (h : WorkerEffect v.signals st st' w) :
    Positions { v with worker := some st', signals := w } := by
  obtain ⟨hhas, hno, hcalled, hrun, hwait⟩ := hv
  have hrunning := hrun st hworker
  have hnoWorker : ¬ v.stop.any StopPc.hasNoWorker := fun hany => by
    simpa [hworker] using hno hany
  have hcalled' : v.stop ≠ none → v.called := fun hstop => hcalled hstop (by simp [hworker])
  clear hhas hno hcalled hrun hworker
  cases h with
  | quiet h =>
    -- neither end of a quiet change is the end of the worker, so `g_running` is right as it is
    obtain ⟨-, -, -, hst, hst'⟩ := h.stages
    refine ⟨fun _ => nofun, fun hany => absurd hany hnoWorker, fun hstop _ => hcalled' hstop, ?_, hwait⟩
    intro st₁ hst₁
    obtain rfl := Option.some.inj hst₁
    exact hrunning.trans (iff_of_true hst hst')
  | _ => constructor <;> simp_all

/-- So do the stopper's. -/
theorem Positions.stop {pc pc' : StopPc} {w : Signals} (hv : Positions v)
    (hstop : v.stop = some pc) (h : StopEffect v.signals pc pc' w) :
    Positions { v with stop := some pc', signals := w } := by
  obtain ⟨hhas, -, hcalled, hrun, hwait⟩ := hv
  -- each statement decides by its position alone what the stopper holds
  obtain ⟨hworker, hnoWorker, hrunning⟩ := h.positions
  have hthere : v.worker ≠ none := hhas (by rw [hstop]; exact hworker)
  refine ⟨fun _ => hthere, fun hany => absurd hany (Bool.eq_false_iff.mp hnoWorker),
    fun _ => hcalled (by simp [hstop]), ?_, ?_⟩
  · show ∀ st, v.worker = some st → (w.running ↔ st ≠ .finished)
    rw [hrunning]
    exact hrun
  · apply h.wait
    rw [hwait, hstop]
    rfl

/-- **One step** keeps what the positions say. -/
theorem Positions.step (hv : Positions v) (h : Step v v') : Positions v' := by
  cases h with
  | stutter => exact hv
  | worker hworker h => exact hv.worker hworker h
  | signal hstop h => exact hv.stop hstop h
  | _ =>
    obtain ⟨hhas, hno, hcalled, hrun, hwait⟩ := hv
    constructor <;> simp_all [Option.isSome_iff_ne_none]

/-- The worker opens the window for the stop signal, and closes it when nobody is in it. -/
theorem SendWindow.worker {st st' : Stage} {w : Signals} (hp : Positions v) (hv : SendWindow v)
    (hworker : v.worker = some st) (h : WorkerEffect v.signals st st' w) :
    SendWindow { v with worker := some st', signals := w } := by
  -- a stopper that will write holds `SYNC_WAIT`, and so the worker does not pass `fini`
  have hwrite := hp.wait_of_willWrite
  obtain ⟨hmay, hsends, hsendFds, hmayFds, hfds, hwriteFds, hwriteWorker⟩ := hv
  rw [hworker] at hmay hsends hmayFds hfds hwriteWorker
  clear hworker hp
  cases h with
  | quiet h =>
    obtain ⟨hmay', hsends', hmayFds', hfds', -⟩ := h.mono
    exact ⟨hmay' ∘ hmay, hsends ∘ hsends', hsendFds, hmayFds' ∘ hmayFds, hfds ∘ hfds', hwriteFds,
      hmay' ∘ hwriteWorker⟩
  | _ => constructor <;> simp_all

/-- The stopper comes to its write through the window. -/
theorem SendWindow.stop {pc pc' : StopPc} {w : Signals} (hv : SendWindow v)
    (hstop : v.stop = some pc) (h : StopEffect v.signals pc pc' w) :
    SendWindow { v with stop := some pc', signals := w } := by
  obtain ⟨hsend, hopen⟩ := h.frame
  -- the stopper changes nothing of the window; it only comes to its write through it
  have hset : w.tsync.send → v.signals.tsync.send := fun h => hsend.symm.trans h
  have hwrites : pc'.willWrite → v.stop.any StopPc.willWrite ∨ v.signals.tsync.send :=
    fun hwrite => (h.willWrite hwrite).imp_left fun hbefore => by rw [hstop]; exact hbefore
  exact {
    maySend := fun h => hv.maySend (hset h)
    sends := fun hany => hsend.trans (hv.sends hany)
    sendFds := fun h => hopen.mpr (hv.sendFds (hset h))
    mayHaveFds := fun hfds => hv.mayHaveFds (hopen.mp hfds)
    hasFds := fun hany => hopen.mpr (hv.hasFds hany)
    writeFds := fun hwrite => hopen.mpr ((hwrites hwrite).elim hv.writeFds hv.sendFds)
    writeWorker := fun hwrite => (hwrites hwrite).elim hv.writeWorker hv.maySend }

/-- A step that leaves the worker, its flag and its descriptors alone may move the stopper, if not
    to its write. -/
theorem SendWindow.frame (hv : SendWindow v)
    (hsend : v'.signals.tsync.send = v.signals.tsync.send)
    (hfds : v'.signals.eventFds = v.signals.eventFds) (hworker : v'.worker = v.worker)
    (hwrites : v'.stop.any StopPc.willWrite → v.stop.any StopPc.willWrite) : SendWindow v' := by
  obtain ⟨hmay, hsends, hsendFds, hmayFds, hfds', hwriteFds, hwriteWorker⟩ := hv
  rw [← hsend, ← hworker] at hmay hsends
  rw [← hsend, ← hfds] at hsendFds
  rw [← hfds, ← hworker] at hmayFds hfds'
  rw [← hfds] at hwriteFds
  rw [← hworker] at hwriteWorker
  exact ⟨hmay, hsends, hsendFds, hmayFds, hfds', hwriteFds ∘ hwrites, hwriteWorker ∘ hwrites⟩

/-- **One step** keeps the window. -/
theorem SendWindow.step (hp : Positions v) (hv : SendWindow v) (h : Step v v') :
    SendWindow v' := by
  cases h with
  | stutter => exact hv
  | worker hworker h => exact hv.worker hp hworker h
  | signal hstop h => exact hv.stop hstop h
  -- the two steps that change whether there is a worker
  | spawn | join =>
    obtain ⟨hmay, hsends, hsendFds, hmayFds, hfds, hwriteFds, hwriteWorker⟩ := hv
    constructor <;> simp_all
  | setRunning => exact hv.frame rfl rfl rfl id
  | _ => exact hv.frame rfl rfl rfl (by simp)

/-- Only the worker reads the byte that has been written to it. -/
theorem StopByte.worker {st st' : Stage} {w : Signals} (hw : SendWindow v) (hv : StopByte v)
    (hworker : v.worker = some st) (h : WorkerEffect v.signals st st' w) :
    StopByte { v with worker := some st', signals := w } := by
  -- new descriptors are empty, and only a byte that has been written is read
  have hmayFds := hw.mayHaveFds
  obtain ⟨hworkerSent, hsent, hbyte, hwinds⟩ := hv
  rw [hworker] at hmayFds hworkerSent hwinds
  clear hworker hw
  cases h with
  | quiet h =>
    obtain ⟨hmay', -, -, -, hwinds'⟩ := h.mono
    exact ⟨hmay' ∘ hworkerSent, hsent, hbyte, hwinds ∘ hwinds'⟩
  | _ => constructor <;> simp_all

/-- The stopper writes one byte, and says so. -/
theorem StopByte.stop {pc pc' : StopPc} {w : Signals} (hw : SendWindow v) (hv : StopByte v)
    (hstop : v.stop = some pc) (h : StopEffect v.signals pc pc' w) :
    StopByte { v with stop := some pc', signals := w } := by
  -- the stopper sets `SYNC_SENT` only for a worker that is still there
  have hwriteWorker := hw.writeWorker
  obtain ⟨hworkerSent, hsent, hbyte, hwinds⟩ := hv
  rw [hstop] at hwriteWorker hsent hbyte hwinds
  clear hstop hw
  cases h <;> constructor <;> simp_all

/-- **One step** keeps the account of the byte. -/
theorem StopByte.step (hw : SendWindow v) (hv : StopByte v) (h : Step v v') : StopByte v' := by
  cases h with
  | stutter => exact hv
  | worker hworker h => exact hv.worker hw hworker h
  | signal hstop h => exact hv.stop hw hstop h
  | _ =>
    have hmayFds := hw.mayHaveFds
    obtain ⟨hworkerSent, hsent, hbyte, hwinds⟩ := hv
    constructor <;> simp_all

end Invariants

/-- The three groups together. -/
structure Protocol (v : Session) : Prop where
  positions : Positions v
  sendWindow : SendWindow v
  stopByte : StopByte v

/-- **The protocol is kept** by every statement of either party, in any order. -/
theorem Protocol.step {v v' : Session} (hv : Protocol v) (h : Step v v') : Protocol v' where
  positions := hv.positions.step h
  sendWindow := hv.sendWindow.step hv.positions h
  stopByte := hv.stopByte.step hv.sendWindow h

/-- The stop byte is never written to a closed descriptor. -/
theorem Protocol.eventFds_of_writeEvent {v : Session} (hv : Protocol v)
    (hstop : v.stop = some .writeEvent) : v.signals.eventFds ≠ none :=
  hv.sendWindow.writeFds (by simp [hstop])

/-! ## A stop reaches the worker -/

/-- The worker passes its check while the stopper, who has seen no `SYNC_SEND`, is about to set
    `SYNC_STOP`. -/
def MissesStop (v v' : Session) : Prop :=
  v.stop = some .fetchOrStop ∧ v.worker = some .checking ∧ v'.worker = some (.looping .waiting)

/-- A stopper that has given its signal waits for a worker that will see it. -/
structure Leaving (v : Session) : Prop where
  aboutToStop : v.stop = some .fetchOrStop → ¬ v.worker.any Stage.inLoop
  looping : v.stop.any StopPc.signalled → v.worker = some (.looping .waiting) →
    v.signals.eventFds.any (0 < ·)
  beforeCheck : v.stop.any StopPc.signalled → v.worker.any Stage.beforeCheck →
    v.signals.tsync.stop ∨ v.signals.eventFds.any (0 < ·)

/-- A stopper that has given no signal, and is not about to, may leave the worker as it is. -/
theorem Leaving.of_idle {v : Session} (habout : v.stop ≠ some .fetchOrStop)
    (hsignalled : v.stop.any StopPc.signalled = false) : Leaving v where
  aboutToStop h := absurd h habout
  looping h := absurd h (Bool.eq_false_iff.mp hsignalled)
  beforeCheck h := absurd h (Bool.eq_false_iff.mp hsignalled)

/-- **One step** in which no worker misses a stop keeps those that have been stopped leaving. -/
theorem Leaving.step {v v' : Session} (hp : Protocol v) (hv : Leaving v) (h : Step v v')
    (hmiss : ¬ MissesStop v v') : Leaving v' := by
  obtain ⟨habout, hlooping, hbefore⟩ := hv
  cases h with
  | stutter => exact ⟨habout, hlooping, hbefore⟩
  | worker hworker h =>
    have hmayFds := hp.sendWindow.mayHaveFds
    rw [hworker] at habout hlooping hbefore hmayFds
    rw [MissesStop, hworker] at hmiss
    clear hworker hp
    cases h with
    | quiet h =>
      obtain ⟨hbefore', hloop', hwaiting', -, -⟩ := h.stages
      exact ⟨fun hstop hin => habout hstop (hloop' hin),
        fun hany hin => hlooping hany (congrArg some (hwaiting' (Option.some.inj hin))),
        fun hany hin => hbefore hany (hbefore' hin)⟩
    | _ => constructor <;> simp_all
  | signal hstop h =>
    have hsentStop := hp.stopByte.sentStop
    have hwriteFds := hp.sendWindow.writeFds
    cases h with
    | quit | retry | seesSend | setSent => exact .of_idle (by simp) (by simp)
    | clearWait | move =>
      -- the signal has been given already
      exact ⟨by simp, fun _ => hlooping (by simp [hstop]), fun _ => hbefore (by simp [hstop])⟩
    | skip hrunning =>
      -- `g_running` is false although there is a worker: it has finished
      have hfinished : ∀ st, v.worker = some st → st = .finished := by
        intro st hst
        simpa [hrunning] using hp.positions.running st hst
      constructor <;> cases hworker : v.worker <;> simp_all
    | seesNoSend hwait hsend =>
      have hloop : ¬ v.worker.any Stage.inLoop := fun hin => by
        have hset := hp.sendWindow.sends (Stage.any_sends_of_any_inLoop hin)
        simp [hsend] at hset
      constructor <;> simp_all
    | setStop =>
      -- the flag is set for a worker that is not in its loop, which has its check before it
      have hloop : v.worker ≠ some (.looping .waiting) := fun hin => by simp_all
      constructor <;> simp_all
    | _ => constructor <;> simp_all
  | setRunning _ hstop | spawn hstop => exact .of_idle (by simp [hstop]) (by simp [hstop])
  | _ => exact .of_idle (by simp) (by simp)

/-! ## A stop flag is for the worker that is there -/

/-- The stopper sets `SYNC_STOP` when the worker has failed or finished. -/
def StopsLate (v v' : Session) : Prop :=
  v.stop = some .fetchOrStop ∧ v'.stop = some .fetchAndWait ∧
    ¬ v.worker.any fun st => st.beforeCheck || st.inLoop

/-- The worker fails before its check with `SYNC_STOP` set. -/
def FailsStopped (v v' : Session) : Prop :=
  v.signals.tsync.stop ∧ v.worker.any (fun st => st.beforeCheck && st != .checking) ∧
    ¬ v'.worker.any Stage.beforeCheck

/-- The worker sleeps in its event loop, and no byte will come. -/
structure Stuck (v : Session) : Prop where
  worker : v.worker = some (.looping .waiting)
  eventFds : v.signals.eventFds = some 0
  stop : v.stop.any StopPc.signalled

/-- `SYNC_STOP` is set only for a worker that was stopped and has not checked yet, or in a
    session that does not end. -/
def NotStale (v : Session) : Prop :=
  v.signals.tsync.stop → (v.worker.any Stage.beforeCheck ∧ v.called) ∨ Stuck v

/-- A stopper that is about to set `SYNC_STOP` has sent nothing to a worker in its loop. -/
theorem Protocol.idle_of_aboutToStop {v : Session} {phase : LoopPhase} (hv : Protocol v)
    (hstop : v.stop = some .fetchOrStop) (hworker : v.worker = some (.looping phase)) :
    phase = .waiting ∧ v.signals.eventFds = some 0 := by
  have hwinds := hv.stopByte.windsDown
  have hbyte := hv.stopByte.byte
  have hopen := hv.sendWindow.hasFds
  simp only [hstop, hworker, Option.any_some, StopPc.signalled] at hwinds hbyte hopen
  constructor
  · cases phase <;> simp_all
  · cases hfds : v.signals.eventFds with
    | none => simp_all
    | some n => cases n <;> simp_all

/-- **One step** in which no flag is left behind keeps the flag for the worker it is meant for. -/
theorem NotStale.step {v v' : Session} (hp : Protocol v) (hv : NotStale v) (h : Step v v')
    (hlate : ¬ StopsLate v v') (hfails : ¬ FailsStopped v v') : NotStale v' := by
  intro hset
  cases h with
  | stutter => exact hv hset
  | worker hworker h =>
    cases h with
    | quiet h =>
      rcases hv hset with ⟨hbefore, hcalled⟩ | ⟨hloop, hfds, hstop⟩
      -- a worker before its check gets on, or fails with the flag set
      · cases h <;> simp_all [FailsStopped]
      · cases h with
        | looping phase => exact .inr ⟨hworker.symm.trans hloop, hfds, hstop⟩
        | _ => simp_all
    | _ =>
      rcases hv (by simp_all) with ⟨hbefore, hcalled⟩ | ⟨hloop, hfds, hstop⟩ <;> simp_all
  | signal hstop h =>
    cases h with
    | setStop =>
      have hcalled := hp.positions.called
      cases hworker : v.worker with
      | none => simp_all [StopsLate]
      | some st =>
        cases st with
        -- the worker has passed its check before the flag was set: it is stuck
        | looping phase =>
          obtain ⟨hwaiting, hfds⟩ := hp.idle_of_aboutToStop hstop hworker
          exact .inr ⟨by rw [← hwaiting, ← hworker], hfds, by simp⟩
        | _ => simp_all [StopsLate]
    | clearWait =>
      rcases hv hset with hbefore | ⟨hloop, hfds, -⟩
      · exact .inl hbefore
      · exact .inr ⟨hloop, hfds, by simp⟩
    | move i =>
      rcases hv hset with hbefore | ⟨hloop, hfds, -⟩
      · exact .inl hbefore
      · exact .inr ⟨hloop, hfds, by simp⟩
    | _ =>
      rcases hv (by simp_all) with ⟨hbefore, hcalled⟩ | ⟨hloop, hfds, hstop⟩ <;> simp_all
  | callStop hstop =>
    rcases hv hset with ⟨hbefore, -⟩ | ⟨-, -, hnone⟩
    · exact .inl ⟨hbefore, Option.isSome_of_any hbefore⟩
    · simp [hstop] at hnone
  | _ =>
    rcases hv (by simp_all) with ⟨hbefore, hcalled⟩ | ⟨hloop, hfds, hstop⟩ <;> simp_all

end Session

end DarkMed.Jni
