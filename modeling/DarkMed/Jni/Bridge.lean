import DarkMed.Lib.Transition
import Mathlib.Logic.Function.Basic

/-!
# The JNI Bridge and the Tunnel Engine

`darkmed_tun2socks_jni.cpp` over `hev-main.c` and `hev-socks5-tunnel.c`, as one
transition system.  The parties are the callers of `startNative` and `stopNative`,
whose bodies `g_mutex` serialises, and the worker threads that `startNative`
spawns.  One action is one access to state that two threads share: a global, an
atomic word, a socket pair, a string buffer.

A program counter names the statement that is executed next, so each constructor
below can be found in the source.  What the operating system, the Java VM or the
configuration file decides is an argument of the action.

Left out: the tun descriptor (see `DarkMed.Vpn.Descriptor`), the statistics, and
the logger, lwIP and task objects, which only one thread touches.
-/

namespace DarkMed.Jni

open DarkMed.Lib.Transition

/-! ## Program counters -/

/-- The body of `startNative`, from the point where it holds `g_mutex`. -/
inductive StartPc where
  /-- `if (g_running.load() || g_worker.joinable())` -/
  | testRunning
  | getJavaVM
  | getMethodID
  | newGlobalRef
  /-- `hev_task_io_socket_set_protect_callback(protect_socket)` -/
  | setProtectCallback
  | storeLastResult
  /-- `g_running.store(true)` -/
  | storeRunning
  /-- `g_worker = std::thread(run_tunnel, path, tun_fd)` -/
  | spawn
  /-- The `catch` block: `g_running.store(false)`, then `clear_protector(env)`. -/
  | spawnFailed
  | clearProtector
  /-- `ReleaseStringUTFChars(config_path, path)`, then `return` -/
  | release (result : Bool)
  deriving DecidableEq, Repr

/-- The body of `stopNative`, with `hev_socks5_tunnel_stop` inlined. -/
inductive StopPc where
  /-- `if (g_worker.joinable())` -/
  | testJoinable
  /-- `if (g_running.load()) hev_socks5_tunnel_quit()` -/
  | testRunning
  /-- `atomic_fetch_or (&tsync, SYNC_WAIT)` -/
  | fetchOrWait
  /-- `atomic_fetch_or (&tsync, SYNC_SENT)` -/
  | fetchOrSent
  /-- `write (event_fds[1], &res, 1)` -/
  | writeEvent
  /-- `atomic_fetch_or (&tsync, SYNC_STOP)` -/
  | fetchOrStop
  /-- `atomic_fetch_and (&tsync, ~SYNC_WAIT)` -/
  | fetchAndWait
  /-- `std::thread worker = std::move(g_worker)` -/
  | moveWorker
  /-- `worker.join()` -/
  | join (worker : Nat)
  | storeRunning
  | clearProtector
  | done
  deriving DecidableEq, Repr

/-- A `startNative` or `stopNative` body that holds `g_mutex`. -/
inductive Body where
  | start (call : Nat) (pc : StartPc)
  | stop (pc : StopPc)
  deriving DecidableEq, Repr

/-- How far the event loop has got with a stop byte. -/
inductive LoopPhase where
  /-- The event task waits in `hev_task_io_read`. -/
  | waiting
  /-- The byte is read and `run` is 0; `SYNC_SENT` is not cleared yet. -/
  | byteRead
  /-- The tasks are being joined. -/
  | windingUp
  deriving DecidableEq, Repr

/-- A task's call of `hev_task_io_socket_socket`. -/
inductive SocketPc where
  | idle
  /-- `socket ()` returned `fd`; `g_protect_callback` is read next. -/
  | created (fd : Nat)
  /-- `g_protect_callback (fd)` is called next. -/
  | protecting (fd : Nat)
  deriving DecidableEq, Repr

/-- `run_tunnel` with `hev_socks5_tunnel_main_from_file` inlined. -/
inductive WorkerPc where
  /-- `hev_config_reset`, `yaml_parser_initialize` -/
  | parserInitialize
  /-- `fopen (config_path, "r")` -/
  | openConfig
  /-- `fprintf (stderr, "Open %s failed!\n", config_path)` -/
  | openFailed
  /-- `yaml_parser_load` -/
  | loadConfig
  /-- `fprintf (stderr, "Parse %s failed!\n", config_path)` -/
  | loadFailed
  /-- `hev_config_parse_doc` -/
  | parseDoc
  /-- `hev_socks5_tunnel_main_inner` up to `lwip_init` -/
  | mainInner
  /-- `tunnel_init`, `gateway_init` -/
  | tunnelInit
  /-- `event_task_init`: `socketpair (..., event_fds)` -/
  | eventTaskInit
  /-- `lwip_io_task_init`, `lwip_timer_task_init`, `mapped_dns_init` -/
  | taskInit
  /-- `atomic_fetch_or (&tsync, SYNC_SEND)` -/
  | fetchOrSend
  /-- `if (atomic_fetch_and (&tsync, ~SYNC_STOP) & SYNC_STOP) return 0` -/
  | stopCheck
  /-- `hev_task_system_run` -/
  | eventLoop (phase : LoopPhase) (socket : SocketPc)
  /-- `atomic_fetch_and (&tsync, ~(SYNC_SEND | SYNC_SENT)) & SYNC_WAIT` -/
  | finiRetry (result : Int)
  /-- The rest of `hev_socks5_tunnel_fini`: `event_fds` are closed. -/
  | finiClose (result : Int)
  /-- `g_last_result.store(result)` -/
  | storeResult (result : Int)
  /-- `g_running.store(false)` -/
  | storeRunning
  /-- The thread function has returned; the thread is still joinable. -/
  | finished
  deriving DecidableEq, Repr

namespace WorkerPc

/-- The worker has not reached the `SYNC_STOP` check of `hev_socks5_tunnel_run`, and its
    configuration load and tunnel init have not failed. -/
def beforeCheck : WorkerPc → Bool
  | .parserInitialize | .openConfig | .loadConfig | .parseDoc | .mainInner | .tunnelInit
  | .eventTaskInit | .taskInit | .fetchOrSend | .stopCheck => true
  | _ => false

/-- The statement can fail, and the worker then leaves without a `SYNC_STOP` check. -/
def canFail : WorkerPc → Bool
  | .parserInitialize | .openConfig | .loadConfig | .parseDoc | .mainInner | .tunnelInit
  | .eventTaskInit | .taskInit => true
  | _ => false

/-- The worker may still read `config_path`. -/
def readsPath : WorkerPc → Bool
  | .parserInitialize | .openConfig | .openFailed | .loadConfig | .loadFailed => true
  | _ => false

end WorkerPc

/-! ## State -/

/-- The bits of `tsync`. -/
structure Tsync where
  send : Bool := false
  sent : Bool := false
  wait : Bool := false
  stop : Bool := false
  deriving DecidableEq, Repr

/-- The globals of the bridge.  `g_vm`, `g_protector` and `g_protect_method` are named by the
    `startNative` call that set them. -/
structure Globals where
  worker : Option Nat := none
  running : Bool := false
  lastResult : Int := 0
  vm : Option Nat := none
  protector : Option Nat := none
  protectMethod : Option Nat := none
  /-- `g_protect_callback` is `protect_socket` rather than `NULL`. -/
  protectCallback : Bool := false

/-- A completed call of `hev_task_io_socket_socket` that obtained a descriptor. -/
structure SocketCall where
  worker : Nat
  fd : Nat
  result : Int
  /-- The protector whose `VpnService.protect(fd)` returned true, if one did. -/
  protectedBy : Option Nat
  closed : Bool
  deriving DecidableEq, Repr

/-- What has happened so far.  No code reads it. -/
structure History where
  /-- Reads of `config_path`, by worker: the string found, or `none` after its release. -/
  pathReads : List (Nat × Option String) := []
  sockets : List SocketCall := []
  /-- Results of the `startNative` calls that returned. -/
  returned : List (Nat × Bool) := []
  /-- A `stopNative` body began after the worker was spawned. -/
  stopCalled : Nat → Bool := fun _ => false
  /-- `NewGlobalRef` and `DeleteGlobalRef` calls for a call's protector. -/
  newRefs : Nat → Nat := fun _ => 0
  deletedRefs : Nat → Nat := fun _ => 0
  /-- `std::terminate`: a joinable `std::thread` was assigned to. -/
  terminated : Bool := false
  /-- The stop byte was written to a closed descriptor. -/
  writeFailed : Bool := false

structure State where
  /-- Number of `startNative` calls so far; calls are numbered in order. -/
  calls : Nat := 0
  /-- The `config_path` argument of a call. -/
  configPath : Nat → String := fun _ => ""
  /-- The UTF-8 copy of a call's path, from `GetStringUTFChars` to `ReleaseStringUTFChars`. -/
  utfChars : Nat → Option String := fun _ => none
  /-- `startNative` calls that wait for `g_mutex`. -/
  waiting : List Nat := []
  /-- The body that holds `g_mutex`. -/
  holder : Option Body := none
  g : Globals := {}
  tsync : Tsync := {}
  /-- `event_fds`: closed, or open with a number of unread bytes. -/
  eventFds : Option Nat := none
  threads : Nat → Option WorkerPc := fun _ => none
  history : History := {}

/-! ## Actions -/

/-- What the Java side answers in `protect_socket`. -/
inductive ProtectAnswer where
  | envUnavailable
  | exception
  | answered (result : Bool)
  deriving DecidableEq, Repr

/-- What a worker's step depends on besides the shared state. -/
inductive WorkerInput where
  /-- The next statement, with whether the library call in it succeeds. -/
  | proceed (ok : Bool)
  /-- In the event loop: a task calls `socket ()`, which returns `fd`. -/
  | openSocket (fd : Nat)
  | readCallback
  | protect (answer : ProtectAnswer)
  deriving DecidableEq, Repr

inductive Action where
  /-- A `startNative` call with a path and a protector obtains the path's UTF-8 copy. -/
  | callStart (configPath : String)
  /-- A waiting `startNative` call acquires `g_mutex`. -/
  | lockStart (call : Nat)
  /-- A `stopNative` call acquires `g_mutex`. -/
  | lockStop
  /-- The body that holds `g_mutex` executes a statement; `ok` is whether its library call
      succeeds. -/
  | caller (ok : Bool)
  | worker (thread : Nat) (input : WorkerInput)
  deriving DecidableEq, Repr

/-! ## Steps -/

namespace State

def atStart (s : State) (call : Nat) (pc : StartPc) : State :=
  { s with holder := some (.start call pc) }

def atStop (s : State) (pc : StopPc) : State :=
  { s with holder := some (.stop pc) }

def setThread (s : State) (i : Nat) (pc : WorkerPc) : State :=
  { s with threads := Function.update s.threads i (some pc) }

/-- `clear_protector`, under `g_protector_mutex`. -/
def clearProtector (s : State) : State :=
  { s with
    g := { s.g with protectCallback := false, protector := none, protectMethod := none, vm := none }
    history :=
      match s.g.protector with
      | some i =>
        { s.history with
          deletedRefs := Function.update s.history.deletedRefs i (s.history.deletedRefs i + 1) }
      | none => s.history }

/-- The worker reads the string that its `config_path` points to. -/
def readPath (s : State) (i : Nat) : State :=
  { s with
    history := { s.history with pathReads := s.history.pathReads ++ [(i, s.utfChars i)] } }

/-- `protect_socket`, under `g_protector_mutex`: its result, and the protector that answered
    true. -/
def protectSocket (s : State) (answer : ProtectAnswer) : Bool × Option Nat :=
  match s.g.vm, s.g.protector, s.g.protectMethod with
  | some _, some protector, some _ =>
    match answer with
    | .answered true => (true, some protector)
    | .answered false | .exception | .envUnavailable => (false, none)
  | _, _, _ => (false, none)

/-- `hev_task_io_socket_socket` returns. -/
def socketReturns (s : State) (call : SocketCall) : State :=
  { s with history := { s.history with sockets := s.history.sockets ++ [call] } }

end State

/-- One statement of `startNative`. -/
def startStep (s : State) (call : Nat) : StartPc → Bool → State
  | .testRunning, _ =>
    if s.g.running || s.g.worker.isSome then s.atStart call (.release false)
    else s.atStart call .getJavaVM
  | .getJavaVM, true => { s with g := { s.g with vm := some call } }.atStart call .getMethodID
  | .getJavaVM, false => s.atStart call (.release false)
  | .getMethodID, true =>
    { s with g := { s.g with protectMethod := some call } }.atStart call .newGlobalRef
  | .getMethodID, false =>
    { s with g := { s.g with protectMethod := none, vm := none } }.atStart call (.release false)
  | .newGlobalRef, true =>
    { s with
      g := { s.g with protector := some call }
      history :=
        { s.history with
          newRefs := Function.update s.history.newRefs call (s.history.newRefs call + 1) }
      }.atStart call .setProtectCallback
  | .newGlobalRef, false =>
    { s with g := { s.g with protector := none, protectMethod := none, vm := none }
      }.atStart call (.release false)
  | .setProtectCallback, _ =>
    { s with g := { s.g with protectCallback := true } }.atStart call .storeLastResult
  | .storeLastResult, _ =>
    { s with g := { s.g with lastResult := 0 } }.atStart call .storeRunning
  | .storeRunning, _ => { s with g := { s.g with running := true } }.atStart call .spawn
  | .spawn, true =>
    { s with
      g := { s.g with worker := some call }
      threads := Function.update s.threads call (some .parserInitialize)
      history :=
        { s.history with
          stopCalled := Function.update s.history.stopCalled call false
          terminated := s.history.terminated || s.g.worker.isSome }
      }.atStart call (.release true)
  | .spawn, false => s.atStart call .spawnFailed
  | .spawnFailed, _ =>
    { s with g := { s.g with running := false } }.atStart call .clearProtector
  | .clearProtector, _ => s.clearProtector.atStart call (.release false)
  | .release result, _ =>
    { s with
      utfChars := Function.update s.utfChars call none
      holder := none
      history := { s.history with returned := s.history.returned ++ [(call, result)] } }

/-- One statement of `stopNative`; `join` waits for the worker to finish. -/
def stopStep (s : State) : StopPc → Option State
  | .testJoinable =>
    if s.g.worker.isSome then some (s.atStop .testRunning) else some (s.atStop .storeRunning)
  | .testRunning =>
    -- a worker that has stored `g_running` itself is joined without a signal
    if s.g.running then some (s.atStop .fetchOrWait) else some (s.atStop .moveWorker)
  | .fetchOrWait =>
    -- `goto retry`, after a sleep
    if s.tsync.wait then some s
    else
      let t := { s with tsync := { s.tsync with wait := true } }
      some (if s.tsync.send then t.atStop .fetchOrSent else t.atStop .fetchOrStop)
  | .fetchOrSent =>
    let t := { s with tsync := { s.tsync with sent := true } }
    some (if s.tsync.sent then t.atStop .fetchAndWait else t.atStop .writeEvent)
  | .writeEvent =>
    match s.eventFds with
    | some n => some ({ s with eventFds := some (n + 1) }.atStop .fetchAndWait)
    | none =>
      some ({ s with history := { s.history with writeFailed := true } }.atStop .fetchAndWait)
  | .fetchOrStop => some ({ s with tsync := { s.tsync with stop := true } }.atStop .fetchAndWait)
  | .fetchAndWait => some ({ s with tsync := { s.tsync with wait := false } }.atStop .moveWorker)
  | .moveWorker =>
    match s.g.worker with
    | some i => some ({ s with g := { s.g with worker := none } }.atStop (.join i))
    | none => none
  | .join i =>
    if s.threads i = some .finished then
      some ({ s with threads := Function.update s.threads i none }.atStop .storeRunning)
    else none
  | .storeRunning => some ({ s with g := { s.g with running := false } }.atStop .clearProtector)
  | .clearProtector => some (s.clearProtector.atStop .done)
  | .done => some { s with holder := none }

/-- One statement of the tasks that `hev_task_system_run` schedules on worker `i`. -/
def loopStep (s : State) (i : Nat) : LoopPhase → SocketPc → WorkerInput → Option State
  | .waiting, .idle, .proceed _ =>
    -- `hev_task_io_read` returns once a byte is there
    match s.eventFds with
    | some (n + 1) =>
      some ({ s with eventFds := some n }.setThread i (.eventLoop .byteRead .idle))
    | _ => none
  | .byteRead, .idle, .proceed _ =>
    some ({ s with tsync := { s.tsync with sent := false } }.setThread i
      (.eventLoop .windingUp .idle))
  | .windingUp, .idle, .proceed _ => some (s.setThread i (.finiRetry 0))
  | phase, .idle, .openSocket fd => some (s.setThread i (.eventLoop phase (.created fd)))
  | phase, .created fd, .readCallback =>
    -- without a callback the socket goes out as it is
    if s.g.protectCallback then some (s.setThread i (.eventLoop phase (.protecting fd)))
    else some ((s.socketReturns ⟨i, fd, fd, none, false⟩).setThread i (.eventLoop phase .idle))
  | phase, .protecting fd, .protect answer =>
    let (accepted, protectedBy) := s.protectSocket answer
    let call : SocketCall :=
      if accepted then ⟨i, fd, fd, protectedBy, false⟩ else ⟨i, fd, -3, protectedBy, true⟩
    some ((s.socketReturns call).setThread i (.eventLoop phase .idle))
  | _, _, _ => none

/-- One statement of worker `i`. -/
def workerStep (s : State) (i : Nat) : WorkerPc → WorkerInput → Option State
  | .eventLoop phase socket, input => loopStep s i phase socket input
  | .parserInitialize, .proceed ok =>
    some (s.setThread i (if ok then .openConfig else .storeResult (-1)))
  | .openConfig, .proceed ok =>
    some ((s.readPath i).setThread i (if ok then .loadConfig else .openFailed))
  | .openFailed, .proceed _ => some ((s.readPath i).setThread i (.storeResult (-1)))
  | .loadConfig, .proceed ok => some (s.setThread i (if ok then .parseDoc else .loadFailed))
  | .loadFailed, .proceed _ => some ((s.readPath i).setThread i (.storeResult (-1)))
  | .parseDoc, .proceed ok =>
    some (s.setThread i (if ok then .mainInner else .storeResult (-1)))
  | .mainInner, .proceed ok =>
    some (s.setThread i (if ok then .tunnelInit else .storeResult (-1)))
  | .tunnelInit, .proceed ok =>
    some (s.setThread i (if ok then .eventTaskInit else .finiRetry (-1)))
  | .eventTaskInit, .proceed ok =>
    -- a pair that a failed `event_task_init` leaves open is closed by fini, unwritten
    if ok then some ({ s with eventFds := some 0 }.setThread i .taskInit)
    else some (s.setThread i (.finiRetry (-1)))
  | .taskInit, .proceed ok => some (s.setThread i (if ok then .fetchOrSend else .finiRetry (-1)))
  | .fetchOrSend, .proceed _ =>
    some ({ s with tsync := { s.tsync with send := true } }.setThread i .stopCheck)
  | .stopCheck, .proceed _ =>
    let t := { s with tsync := { s.tsync with stop := false } }
    some (t.setThread i (if s.tsync.stop then .finiRetry 0 else .eventLoop .waiting .idle))
  | .finiRetry result, .proceed _ =>
    let t := { s with tsync := { s.tsync with send := false, sent := false } }
    if s.tsync.wait then some (t.setThread i (.finiRetry result))
    else some (t.setThread i (.finiClose result))
  | .finiClose result, .proceed _ =>
    some ({ s with eventFds := none }.setThread i (.storeResult result))
  | .storeResult result, .proceed _ =>
    some ({ s with g := { s.g with lastResult := result } }.setThread i .storeRunning)
  | .storeRunning, .proceed _ =>
    some ({ s with g := { s.g with running := false } }.setThread i .finished)
  | _, _ => none

/-- One action of the system. -/
def step (s : State) : Action → Option State
  | .callStart path =>
    some { s with
      calls := s.calls + 1
      configPath := Function.update s.configPath s.calls path
      utfChars := Function.update s.utfChars s.calls (some path)
      waiting := s.waiting ++ [s.calls] }
  | .lockStart call =>
    if s.holder = none ∧ call ∈ s.waiting then
      some ({ s with waiting := s.waiting.erase call }.atStart call .testRunning)
    else none
  | .lockStop =>
    if s.holder = none then
      some ({ s with history := { s.history with stopCalled := fun _ => true } }.atStop
        .testJoinable)
    else none
  | .caller ok =>
    match s.holder with
    | some (.start call pc) => some (startStep s call pc ok)
    | some (.stop pc) => stopStep s pc
    | none => none
  | .worker i input =>
    match s.threads i with
    | some pc => workerStep s i pc input
    | none => none

/-! ## Schedules -/

/-- Call number `call`, the next one, runs `startNative` up to the spawn of its worker. -/
def startActions (call : Nat) : List Action :=
  [.callStart "/data/tun2socks.yml", .lockStart call] ++ List.replicate 8 (.caller true)

/-- Worker `i` loads its configuration and opens the tunnel, up to `fetchOrSend`. -/
def openActions (i : Nat) : List Action :=
  List.replicate 8 (.worker i (.proceed true))

end DarkMed.Jni
