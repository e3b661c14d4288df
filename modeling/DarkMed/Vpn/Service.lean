import DarkMed.Lib.Transition
import DarkMed.Lib.Kotlin
import DarkMed.ProtectedRoute

/-!
# The VPN Service

`DarkMedVpnService.kt` over the bridge and the tunnel engine, as one transition
system: the main-thread callbacks of the service, and the worker thread that runs
between them.  What Android, the file system and the engine decide is an argument
of the action.

The bridge is reduced to what the service sees of it, a worker that may exist and
a running flag; its own steps are the subject of `DarkMed.Jni`.  The engine is
reduced to the two statics that say whether it owns its TUN descriptor.

Left out: the notifications and the foreground state of the service.
-/

namespace DarkMed.Vpn

open DarkMed.Lib DarkMed.Lib.Transition DarkMed.ProtectedRoute

/-! ## State -/

/-- A descriptor that `startTunnel` has detached, and how often it was closed. -/
structure Detached where
  fd : Nat
  closes : Nat := 0
  deriving DecidableEq, Repr

/-- How far the worker thread has got with its tunnel. -/
inductive WorkerPhase where
  /-- Before `tunnel_init (tun_fd)`. -/
  | loading (tunFd : Int)
  /-- Between `tunnel_init` and `tunnel_fini`. -/
  | inTunnel
  /-- The thread function has returned. -/
  | exited
  deriving DecidableEq, Repr

/-- The bridge and the engine, which outlive the service. -/
structure Native where
  /-- The thread that `g_worker` can join. -/
  worker : Option WorkerPhase := none
  /-- `g_running` -/
  running : Bool := false
  /-- `static int tun_fd` -/
  tunFd : Int := -1
  /-- `static int tun_fd_local` -/
  tunFdLocal : Bool := false
  deriving DecidableEq, Repr

structure State where
  /-- `tunnelFd: Int?` -/
  tunnelFd : Option Nat := none
  /-- `engine != null` -/
  engine : Bool := false
  routeState : ProtectedRouteState := ProtectedRouteStateMachine.stopped
  /-- `engineMonitor` callbacks in the queue of the main looper. -/
  pendingMonitors : Nat := 0
  native : Native := {}
  /-- The detached descriptors, the last one first. -/
  detached : List Detached := []
  deriving DecidableEq, Repr

/-! ## Descriptors -/

/-- A descriptor of this number is open. -/
def isOpen (fd : Nat) (detached : List Detached) : Bool :=
  detached.any fun d => d.fd == fd && d.closes == 0

/-- `close(fd)` for the last descriptor of that number. -/
def closeFd (fd : Nat) : List Detached → List Detached
  | [] => []
  | d :: rest =>
    if d.fd = fd then { d with closes := d.closes + 1 } :: rest else d :: closeFd fd rest

/-! ## The worker -/

/-- `tunnel_init`: whether it succeeds, with the results of `ioctl` on an external descriptor
    and of `hev_tunnel_open` for a local one, and of the calls after it. -/
def tunnelInit (n : Native) (externTunFd : Int) (ioctlOk : Bool) (opened : Int) (setupOk : Bool) :
    Native × Bool :=
  if externTunFd ≥ 0 then
    if ioctlOk then ({ n with tunFd := externTunFd }, true) else (n, false)
  else
    let n := { n with tunFdLocal := true, tunFd := opened }
    if opened < 0 then (n, false) else (n, setupOk)

/-- `tunnel_fini` -/
def tunnelFini (s : State) : State :=
  if !s.native.tunFdLocal then s
  else if s.native.tunFd ≥ 0 then
    { s with
      detached := closeFd s.native.tunFd.toNat s.detached
      native := { s.native with tunFdLocal := false, tunFd := -1 } }
  else s

/-- What a worker does next. -/
inductive WorkerMove where
  /-- A step before `tunnel_init` fails. -/
  | loadFails
  | tunnelInit (ioctlOk : Bool) (opened : Int) (setupOk : Bool)
  /-- A later init step fails, or `hev_socks5_tunnel_run` returns, on a stop or by itself. -/
  | leaves
  deriving DecidableEq, Repr

/-- The end of `run_tunnel`: `g_running.store(false)`. -/
def workerExits (s : State) : State :=
  { s with native := { s.native with worker := some .exited, running := false } }

def workerStep (s : State) (move : WorkerMove) : Option State :=
  match s.native.worker, move with
  | some (.loading _), .loadFails => some (workerExits s)
  | some (.loading tunFd), .tunnelInit ioctlOk opened setupOk =>
    let (n, ok) := tunnelInit s.native tunFd ioctlOk opened setupOk
    if ok then some { s with native := { n with worker := some .inTunnel } }
    else some (workerExits (tunnelFini { s with native := n }))
  | some .inTunnel, .leaves => some (workerExits (tunnelFini s))
  | _, _ => none

/-! ## The bridge -/

/-- `startNative`; `spawns` is whether nothing fails on the way to the thread. -/
def startNative (s : State) (tunFd : Int) (spawns : Bool) : State × Bool :=
  if s.native.running || s.native.worker.isSome then (s, false)
  else if spawns then
    ({ s with native := { s.native with worker := some (.loading tunFd), running := true } }, true)
  else (s, false)

/-- `stopNative`: the join waits for the moves that the worker still makes. -/
def stopNative (s : State) (moves : List WorkerMove) : Option State :=
  let cleared := fun t : State =>
    { t with native := { t.native with worker := none, running := false } }
  if s.native.worker.isSome then
    (run workerStep s moves).bind fun t =>
      if t.native.worker = some .exited then some (cleared t) else none
  else some (cleared s)

/-! ## `startTunnel` and `stopTunnel` -/

/-- What `Builder().…establish()` does. -/
inductive EstablishOutcome where
  | throws (simpleName : String)
  | null
  | descriptor (fd : Nat)
  deriving DecidableEq, Repr

/-- What `startTunnel` depends on besides the state of the service. -/
structure StartOutcome where
  /-- `File(configPath).canonicalFile.path`, if it does not throw. -/
  config : Option JString
  /-- The canonical paths of `filesDir` and `cacheDir`, if they do not throw. -/
  roots : Option (JString × JString)
  establish : EstablishOutcome
  /-- `HevTun2Socks()` does not throw. -/
  constructed : Bool
  spawns : Bool
  deriving DecidableEq, Repr

def failRoute (s : State) (reason : String) : State :=
  { s with routeState := ProtectedRouteStateMachine.failed s.routeState reason }

/-- `allowedRoots.any { root -> config.path.startsWith(root.path + File.separator) }` -/
def insideRoots (config : JString) (roots : JString × JString) : Bool :=
  [roots.1, roots.2].any fun root => config.startsWith (root ++ ascii "/")

/-- The last part of `startTunnel`, with the descriptor that `establish` has returned. -/
def startEngine (s : State) (fd : Nat) (outcome : StartOutcome) : State :=
  let s := { s with
    routeState := ProtectedRouteStateMachine.tunEstablished s.routeState
    tunnelFd := some fd
    detached := ⟨fd, 0⟩ :: s.detached }
  let s := { s with routeState := ProtectedRouteStateMachine.proxyStarting s.routeState }
  let (s, started) := if outcome.constructed then startNative s fd outcome.spawns else (s, false)
  if started then
    { s with
      engine := true
      routeState := ProtectedRouteStateMachine.proxyReady s.routeState false
      pendingMonitors := s.pendingMonitors + 1 }
  else failRoute s "tun2socks native start failed"

/-- `startTunnel`.  An exception that nothing catches ends the process, and the run; a number
    that is open is no number of a new descriptor. -/
def startTunnel (s : State) (configPath : Option JString) (outcome : StartOutcome) :
    Option State :=
  if s.tunnelFd.isSome || configPath.isNone then some s
  else
    let s := { s with routeState := ProtectedRouteStateMachine.starting }
    match outcome.config with
    | none => some (failRoute s "invalid tunnel configuration path")
    | some config =>
      match outcome.roots with
      | none => none
      | some roots =>
        if !insideRoots config roots then
          some (failRoute s "tunnel configuration outside app storage")
        else
          match outcome.establish with
          | .throws simpleName => some (failRoute s s!"VPN establish failed: {simpleName}")
          | .null => some (failRoute s "VPN establish returned no descriptor")
          | .descriptor fd =>
            if isOpen fd s.detached then none else some (startEngine s fd outcome)

/-- `stopTunnel` -/
def stopTunnel (s : State) (moves : List WorkerMove) : Option State :=
  let s := { s with
    routeState := ProtectedRouteStateMachine.stopping s.routeState
    pendingMonitors := 0 }
  let activeEngine := s.engine
  (if activeEngine then stopNative s moves else some s).map fun s =>
    { s with
      engine := false
      detached :=
        match activeEngine, s.tunnelFd with
        | false, some fd => closeFd fd s.detached
        | _, _ => s.detached
      tunnelFd := none
      routeState := ProtectedRouteStateMachine.stopped }

/-- `engineMonitor.run()`, taken from the queue. -/
def engineMonitor (s : State) : State :=
  let s := { s with pendingMonitors := s.pendingMonitors - 1 }
  if s.engine && !s.native.running then failRoute s "tun2socks worker stopped"
  else if s.engine then { s with pendingMonitors := s.pendingMonitors + 1 }
  else s

/-! ## Actions -/

inductive Action where
  | actionStart (configPath : Option JString) (outcome : StartOutcome)
  | actionStop (moves : List WorkerMove)
  /-- `onStartCommand` with no intent or another action. -/
  | otherCommand
  | onRevoke (moves : List WorkerMove)
  | onDestroy (moves : List WorkerMove)
  | monitorTick
  | worker (move : WorkerMove)
  deriving DecidableEq, Repr

namespace Action

/-- The callbacks that call `stopTunnel`. -/
def stops : Action → Bool
  | .actionStop _ | .onRevoke _ | .onDestroy _ => true
  | _ => false

end Action

/-- One action of the system.  The next instance of the service starts with the fields that
    `onDestroy` leaves behind. -/
def step (s : State) : Action → Option State
  | .actionStart configPath outcome => startTunnel s configPath outcome
  | .actionStop moves | .onRevoke moves | .onDestroy moves => stopTunnel s moves
  | .otherCommand => some s
  | .monitorTick => if s.pendingMonitors = 0 then none else some (engineMonitor s)
  | .worker move => workerStep s move

end DarkMed.Vpn
