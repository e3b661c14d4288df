import DarkMed.Lib.Kotlin
import DarkMed.Lib.Transition

/-!
# Starting Tor, Then the VPN

`DarkMedNetworkOrchestrator` and `TorForegroundService` as two parties that talk through the
system: commands for the service in one queue, broadcasts for the orchestrator's receiver in
another, and the callbacks of the service's connection to Tor.

What the system does is a choice of the action: whether VPN consent was given, whether a
configuration file could be written, what `bindService` returns, which binder is delivered.
-/

namespace DarkMed.Network

open DarkMed.Lib DarkMed.Lib.Transition

/-! ## Messages -/

/-- A broadcast of `TorForegroundService`, with its extra. -/
inductive Broadcast where
  /-- `ACTION_READY` with `EXTRA_SOCKS_PORT` -/
  | ready (socksPort : Int)
  /-- `ACTION_ERROR` with `EXTRA_ERROR` -/
  | error (message : Option JString)
  /-- `ACTION_STOPPED` -/
  | stopped
  deriving DecidableEq, Repr

/-- An intent for `TorForegroundService`: without an action, or with `ACTION_STOP`. -/
inductive TorIntent where
  | start
  | stop
  deriving DecidableEq, Repr

/-- What the system has the service's main thread run. -/
inductive Command where
  | onCreate
  | onStartCommand (intent : TorIntent)
  | onDestroy
  deriving DecidableEq, Repr

/-! ## Connection to Tor -/

/-- Where `torConnection` is, between the service and `TorService`. -/
inductive Connection where
  | unbound
  /-- `onServiceConnected` is due. -/
  | connecting
  /-- A `TorService.LocalBinder` was delivered. -/
  | connected
  /-- Another binder was delivered. -/
  | foreign
  /-- `onServiceDisconnected` is due. -/
  | disconnecting
  /-- Bound, and the other end is gone. -/
  | disconnected
  deriving DecidableEq, Repr

namespace Connection

/-- `bindService` that returns true.  A connection that holds a binder, or is about to, gets no
    second callback. -/
def bind : Connection → Connection
  | .unbound | .disconnected => .connecting
  | connection => connection

/-- A callback is due. -/
def due : Connection → Bool
  | .connecting | .disconnecting => true
  | _ => false

end Connection

/-- The argument of `onServiceConnected`. -/
inductive Binder where
  /-- `TorService.LocalBinder`, and the port if it could be read. -/
  | localBinder (socksPort : Option Int)
  | other
  deriving DecidableEq, Repr

structure TorForegroundService where
  torBound : Bool := false
  socksPort : Option Int := none
  torConnection : Connection := .unbound
  deriving DecidableEq, Repr

namespace TorForegroundService

/-- `torBound = bindService(…)` -/
def bindService (service : TorForegroundService) (bound : Bool) : TorForegroundService :=
  { service with
    torBound := bound
    torConnection := if bound then service.torConnection.bind else service.torConnection }

/-- `stopTor`; unbinding calls nothing back, and takes back what was due. -/
def stopTor (service : TorForegroundService) : TorForegroundService where
  torBound := false
  socksPort := none
  torConnection := if service.torBound then .unbound else service.torConnection

end TorForegroundService

/-! ## Both Parties and the System -/

structure System where
  /-- `receiver != null` in the orchestrator; the receiver is then registered, too. -/
  receiver : Bool := false
  /-- The configuration that `DarkMedVpnService` was last asked to start with. -/
  vpn : Option JString := none
  /-- The instance of `TorForegroundService`. -/
  service : Option TorForegroundService := none
  /-- For the system, the service is started. -/
  started : Bool := false
  commands : List Command := []
  /-- Broadcasts on their way to the receiver. -/
  broadcasts : List Broadcast := []
  deriving DecidableEq, Repr

namespace System

/-- `sendBroadcast`: it goes to the receiver that is registered now. -/
def sendBroadcast (s : System) (b : Broadcast) : System :=
  if s.receiver then { s with broadcasts := s.broadcasts ++ [b] } else s

/-- `startService`, and `startForegroundService` -/
def startService (s : System) (intent : TorIntent) : System :=
  { s with
    started := true
    commands :=
      s.commands ++ (if s.started then [] else [.onCreate]) ++ [.onStartCommand intent] }

/-- `stopService`, and `stopSelf()`: commands that are queued already do not hold it up. -/
def stopService (s : System) : System :=
  if s.started then { s with started := false, commands := s.commands ++ [.onDestroy] } else s

/-! ### Orchestrator -/

/-- `unregister`; a broadcast on its way to a receiver that is unregistered is not delivered. -/
def unregister (s : System) : System :=
  { s with receiver := false, broadcasts := [] }

def consentRequired : JString :=
  ascii "VPN consent is required before starting the protected route"

def alreadyInProgress : JString :=
  ascii "Protected route startup is already in progress"

def startTorThenVpn (s : System) (prepared : Bool) : Except JString System :=
  if !prepared then .error consentRequired
  else if s.receiver then .error alreadyInProgress
  else .ok ({ s with receiver := true }.startService .start)

def stop (s : System) : System :=
  ({ s with vpn := none }.startService .stop).unregister

def startVpn (s : System) (config : JString) : System :=
  { s with vpn := some config }

def stopWithError (s : System) (message : JString) : System :=
  ({ s with vpn := none }.stopService.sendBroadcast (.error (some message))).unregister

/-- `onReceive`; `written` is what `Tun2SocksConfigWriter.write` returns. -/
def onReceive (s : System) (written : Except (Option JString) JString) : Broadcast → System
  | .ready socksPort =>
    if ¬ (1 ≤ socksPort ∧ socksPort ≤ 65535) then
      s.stopWithError (ascii "Tor reported an invalid SOCKS port")
    else
      match written with
      | .error message => s.stopWithError (message.getD (ascii "TUN configuration failed"))
      | .ok config => s.startVpn config
  | .error message => s.stopWithError (message.getD (ascii "Tor startup failed"))
  | .stopped => s.unregister

/-! ### Service -/

/-- `onStartCommand`; `config` is what `TorConfigWriter.write` returns, `bound` what
    `bindService` does. -/
def onStartCommand (s : System) (service : TorForegroundService)
    (config : Except (Option JString) Unit) (bound : Bool) : TorIntent → System
  | .stop => { s with service := some service.stopTor }.stopService
  | .start =>
    match config with
    | .error message =>
      -- the only failure of a start command that is told to the orchestrator
      let message := message.getD (ascii "Tor configuration failed")
      (s.sendBroadcast (.error (some message))).stopService
    | .ok _ => { s with service := some (service.bindService bound) }

/-- The next command.  The system releases what a destroyed service has bound. -/
def command (s : System) (config : Except (Option JString) Unit) (bound : Bool) : Option System :=
  match s.commands with
  | [] => none
  | .onCreate :: rest => some { s with commands := rest, service := some {} }
  | .onStartCommand intent :: rest =>
    match s.service with
    -- no instance is there to take the intent; the queue of a run never comes to this
    | none => some { s with commands := rest }
    | some service => some ({ s with commands := rest }.onStartCommand service config bound intent)
  | .onDestroy :: rest => some { s with commands := rest, service := none }

def onServiceConnected (s : System) (service : TorForegroundService) : Binder → System
  | .localBinder socksPort =>
    -- a port that could not be read is sent as -1, which onReceive refuses
    let service := { torBound := true, socksPort, torConnection := .connected }
    { s with service := some service }.sendBroadcast (.ready (socksPort.getD (-1)))
  -- `service as? TorService.LocalBinder ?: return`: nothing is set and nothing is sent
  | .other => { s with service := some { service with torConnection := .foreign } }

def onServiceDisconnected (s : System) : System :=
  { s with
    service := some { torBound := false, socksPort := none, torConnection := .disconnected }
  }.sendBroadcast .stopped

/-- What happens to the connection of the instance, where the connection is ready for it. -/
def withConnection (s : System) (ready : Connection → Prop) [DecidablePred ready]
    (callback : TorForegroundService → System) : Option System :=
  match s.service with
  | some service => if ready service.torConnection then some (callback service) else none
  | none => none

theorem withConnection_eq_some {s t : System} {ready : Connection → Prop} [DecidablePred ready]
    {callback : TorForegroundService → System} :
    s.withConnection ready callback = some t ↔
      ∃ service, s.service = some service ∧ ready service.torConnection ∧ callback service = t := by
  unfold withConnection
  cases s.service with
  | none => simp
  | some service => simp

end System

/-! ## Steps -/

inductive Action where
  /-- `VpnService.prepare` is null or not, then `startTorThenVpn`. -/
  | startTorThenVpn (prepared : Bool)
  | stop
  /-- `stopService` from outside, as in `ClearAllDataCoordinator`. -/
  | stopService
  /-- The service's next command. -/
  | command (config : Except (Option JString) Unit) (bound : Bool)
  /-- The receiver's next broadcast. -/
  | broadcast (written : Except (Option JString) JString)
  | onServiceConnected (binder : Binder)
  | onServiceDisconnected
  /-- The other end of the connection dies; `onServiceDisconnected` will tell. -/
  | torLost
  /-- The system has started it again; `onServiceConnected` will tell. -/
  | torRecovered

def step (s : System) : Action → Option System
  | .startTorThenVpn prepared =>
    match s.startTorThenVpn prepared with
    | .ok t => some t
    | .error _ => some s
  | .stop => some s.stop
  | .stopService => some s.stopService
  | .command config bound => s.command config bound
  | .broadcast written =>
    match s.broadcasts with
    | [] => none
    | b :: rest => some ({ s with broadcasts := rest }.onReceive written b)
  | .onServiceConnected binder =>
    s.withConnection (· = .connecting) fun service => s.onServiceConnected service binder
  | .onServiceDisconnected =>
    s.withConnection (· = .disconnecting) fun _ => s.onServiceDisconnected
  | .torLost =>
    s.withConnection (fun connection => connection = .connected ∨ connection = .foreign)
      fun service => { s with service := some { service with torConnection := .disconnecting } }
  | .torRecovered =>
    s.withConnection (· = .disconnected) fun service =>
      { s with service := some { service with torConnection := .connecting } }

end DarkMed.Network
