import DarkMed.Network.Answers

/-!
# The Binding to Tor

One instance of `TorForegroundService` under the callbacks that Android may deliver to it, in any
order and with any answer of `bindService`: the flag `torBound` against the binding that it
stands for.

`stopTor` unbinds where the flag is set.  The flag is overwritten by the answer of every
`bindService`, and `onServiceDisconnected` clears it although the binding stays.
-/

namespace DarkMed.Network

open DarkMed.Lib DarkMed.Lib.Transition

/-! ## Callbacks -/

/-- What Android calls on the instance, and what it does behind the connection. -/
inductive Callback where
  /-- `config` is what `TorConfigWriter.write` returns, `bound` what `bindService` does. -/
  | onStartCommand (config : Except (Option JString) Unit) (bound : Bool) (intent : TorIntent)
  | onServiceConnected (binder : Binder)
  | onServiceDisconnected
  | onDestroy
  /-- The other end of the connection dies; `onServiceDisconnected` will tell. -/
  | torLost
  /-- The system has started it again; `onServiceConnected` will tell. -/
  | torRecovered

/-- Where the connection has to be for it. -/
def Callback.Ready (connection : Connection) : Callback → Prop
  | .onServiceConnected _ => connection = .connecting
  | .onServiceDisconnected => connection = .disconnecting
  | .torLost => connection = .connected ∨ connection = .foreign
  | .torRecovered => connection = .disconnected
  | .onStartCommand .. | .onDestroy => True

instance (connection : Connection) : DecidablePred (Callback.Ready connection)
  | .onServiceConnected _ => inferInstanceAs (Decidable (connection = .connecting))
  | .onServiceDisconnected => inferInstanceAs (Decidable (connection = .disconnecting))
  | .torLost => inferInstanceAs (Decidable (connection = .connected ∨ connection = .foreign))
  | .torRecovered => inferInstanceAs (Decidable (connection = .disconnected))
  | .onStartCommand .. | .onDestroy => inferInstanceAs (Decidable True)

structure Instance where
  service : TorForegroundService := {}
  /-- The last that was said of `TorService` is `startService`, and not `stopService`. -/
  torStarted : Bool := false
  /-- `onDestroy` has returned. -/
  destroyed : Bool := false
  deriving DecidableEq, Repr

namespace Instance

def stopTor (i : Instance) : Instance :=
  { i with service := i.service.stopTor, torStarted := false }

def onStartCommand (i : Instance) (config : Except (Option JString) Unit) (bound : Bool) :
    TorIntent → Instance
  | .stop => i.stopTor
  | .start =>
    match config with
    | .error _ => i
    | .ok _ => { i with torStarted := true, service := i.service.bindService bound }

def onServiceConnected (i : Instance) : Binder → Instance
  | .localBinder socksPort =>
    { i with service := { torBound := true, socksPort, torConnection := .connected } }
  | .other => { i with service := { i.service with torConnection := .foreign } }

def onServiceDisconnected (i : Instance) : Instance :=
  { i with service := { torBound := false, socksPort := none, torConnection := .disconnected } }

def onDestroy (i : Instance) : Instance :=
  { i.stopTor with destroyed := true }

def callback (i : Instance) : Callback → Instance
  | .onStartCommand config bound intent => i.onStartCommand config bound intent
  | .onServiceConnected binder => i.onServiceConnected binder
  | .onServiceDisconnected => i.onServiceDisconnected
  | .onDestroy => i.onDestroy
  | .torLost => { i with service := { i.service with torConnection := .disconnecting } }
  | .torRecovered => { i with service := { i.service with torConnection := .connecting } }

/-- Android may deliver the callback now. -/
def Delivered (i : Instance) (c : Callback) : Prop :=
  i.destroyed = false ∧ c.Ready i.service.torConnection

instance (i : Instance) : DecidablePred i.Delivered :=
  fun c => inferInstanceAs (Decidable (i.destroyed = false ∧ c.Ready i.service.torConnection))

def step (i : Instance) (c : Callback) : Option Instance :=
  if i.Delivered c then some (i.callback c) else none

/-- A callback is delivered, and does what the instance does. -/
theorem step_eq_some {i j : Instance} {c : Callback} :
    i.step c = some j ↔ i.Delivered c ∧ i.callback c = j := by
  rw [step, Option.ite_none_right_eq_some, Option.some.injEq]

/-- Only `onDestroy` ends an instance. -/
theorem callback_destroyed (i : Instance) {c : Callback} (hc : c ≠ .onDestroy) :
    (i.callback c).destroyed = i.destroyed := by
  cases c with
  | onStartCommand config bound intent =>
    cases intent with
    | stop => rfl
    | start => cases config <;> rfl
  | onServiceConnected binder => cases binder <;> rfl
  | onDestroy => exact absurd rfl hc
  | _ => rfl

/-! ## The flag and the binding -/

/-- A `bindService` that returned true has not been undone by `unbindService`; such a binding
    keeps `TorService` alive, whatever `stopService` says. -/
def Outstanding (i : Instance) : Prop :=
  i.service.torConnection ≠ .unbound

instance (i : Instance) : Decidable i.Outstanding :=
  inferInstanceAs (Decidable (i.service.torConnection ≠ .unbound))

structure Booked (i : Instance) : Prop where
  /-- Where `stopTor` has returned, and no start has followed, nothing is bound. -/
  released : i.torStarted = false → ¬ i.Outstanding
  /-- `torBound` is set for as long as a binding is outstanding. -/
  flagged : i.Outstanding → i.service.torBound = true

/-- A new instance has no binding, and counts none. -/
theorem booked_new : Booked {} where
  released _ h := h rfl
  flagged h := absurd rfl h

/-- The callbacks that keep the books. -/
def Counts (i : Instance) : Callback → Prop
  | .onStartCommand (.ok _) bound .start => bound = true ∨ ¬ i.Outstanding
  | .onServiceDisconnected => False
  | _ => True

/-- A call of `bindService` that succeeds leaves a binding. -/
theorem bind_ne_unbound (connection : Connection) : connection.bind ≠ .unbound := by
  cases connection <;> exact nofun

/-- `stopTor` undoes the binding exactly where the flag is set. -/
theorem stopTor_outstanding_iff (i : Instance) :
    i.stopTor.Outstanding ↔ i.Outstanding ∧ i.service.torBound = false := by
  unfold Outstanding stopTor TorForegroundService.stopTor
  cases i.service.torBound with
  | false => simp
  | true => simp

/-- `stopTor` gives the binding back if the flag says that there is one. -/
theorem Booked.stopTor {i : Instance} (h : i.Booked) : i.stopTor.Booked := by
  have hundone : ¬ i.stopTor.Outstanding := by
    rw [stopTor_outstanding_iff]
    rintro ⟨hbound, hflag⟩
    exact absurd (h.flagged hbound) (by simp [hflag])
  exact ⟨fun _ => hundone, fun hbound => absurd hbound hundone⟩

/-- A callback that finds a binding, and sets the flag or leaves it set. -/
theorem Booked.of_outstanding {i j : Instance} (h : i.Booked) (hbound : i.Outstanding)
    (hstarted : j.torStarted = i.torStarted) (hflag : j.service.torBound = true) : j.Booked where
  released hstopped := absurd hbound (h.released (hstarted ▸ hstopped))
  flagged _ := hflag

/-- A bind that is refused clears the flag of an older binding. -/
theorem booked_bindService_iff (i : Instance) (bound : Bool) :
    Booked { i with torStarted := true, service := i.service.bindService bound } ↔
      bound = true ∨ ¬ i.Outstanding := by
  cases bound with
  | true => exact iff_of_true ⟨nofun, fun _ => rfl⟩ (.inl rfl)
  | false =>
    -- the connection is what it was, and the flag is no longer set
    refine ⟨fun h => .inr fun hbound => absurd (h.flagged hbound) nofun, fun h => ⟨nofun, ?_⟩⟩
    rcases h with h | h
    · cases h
    · exact fun hbound => absurd hbound h

/-- **One callback**: of the callbacks that Android may deliver, exactly these keep the books. -/
theorem booked_callback_iff {i : Instance} (h : i.Booked) {c : Callback} (hc : i.Delivered c) :
    (i.callback c).Booked ↔ i.Counts c := by
  have hready := hc.2
  cases c with
  | onStartCommand config bound intent =>
    cases intent with
    | stop =>
      have hcounts : i.Counts (.onStartCommand config bound .stop) := by cases config <;> trivial
      exact iff_of_true h.stopTor hcounts
    | start =>
      cases config with
      | error message => exact iff_of_true h trivial
      | ok _ => exact booked_bindService_iff i bound
  | onDestroy => exact iff_of_true ⟨h.stopTor.released, h.stopTor.flagged⟩ trivial
  -- the flag is set, or stays, and the binding is there
  | onServiceConnected binder =>
    have hbound : i.Outstanding := fun hunbound => nomatch hready.symm.trans hunbound
    refine iff_of_true ?_ trivial
    cases binder with
    | localBinder socksPort => exact h.of_outstanding hbound rfl rfl
    | other => exact h.of_outstanding hbound rfl (h.flagged hbound)
  | onServiceDisconnected =>
    -- the binding stays, and the flag goes
    exact iff_of_false (fun h' => absurd (h'.flagged nofun) nofun) id
  -- news over a binding
  | torLost =>
    have hbound : i.Outstanding := by
      rcases hready with hready | hready <;> exact fun hunbound => nomatch hready.symm.trans hunbound
    exact iff_of_true (h.of_outstanding hbound rfl (h.flagged hbound)) trivial
  | torRecovered =>
    have hbound : i.Outstanding := fun hunbound => nomatch hready.symm.trans hunbound
    exact iff_of_true (h.of_outstanding hbound rfl (h.flagged hbound)) trivial

/-- **The books along a run**: every stop has left nothing bound, and the flag is set for as long
    as a binding is outstanding, exactly where `onServiceDisconnected` is never delivered, and
    no start is answered false by `bindService` while an earlier binding is outstanding. -/
theorem booked_along_run_iff (callbacks : List Callback) :
    (∀ pre i, pre <+: callbacks → run step {} pre = some i → i.Booked) ↔
      AllSteps step (fun i c => i.Delivered c → i.Counts c) {} callbacks := by
  apply forall_run_iff_allSteps booked_new
  intro i c _ h
  constructor
  · intro hnext hc
    exact (booked_callback_iff h hc).mp (hnext _ (step_eq_some.mpr ⟨hc, rfl⟩))
  · intro hcounts t ht
    obtain ⟨hc, rfl⟩ := step_eq_some.mp ht
    exact (booked_callback_iff h hc).mpr (hcounts hc)

/-- Tor is started and found, its end of the connection dies, and the user stops it. -/
def lostThenStopped : List Callback :=
  [.onStartCommand (.ok ()) true .start, .onServiceConnected (.localBinder (some 9050)), .torLost,
    .onServiceDisconnected, .onStartCommand (.ok ()) true .stop]

/-- `onServiceDisconnected` clears the flag under an outstanding binding, and the stop behind it
    does not unbind. -/
theorem stopped_tor_stays_bound :
    (∃ i, run step {} (lostThenStopped.take 4) = some i ∧ i.Outstanding ∧
      i.service.torBound = false) ∧
    ∃ i, run step {} lostThenStopped = some i ∧ i.torStarted = false ∧ i.Outstanding :=
  ⟨⟨_, rfl, by decide, rfl⟩, ⟨_, rfl, rfl, by decide⟩⟩

/-! ## The other direction -/

/-- The flag stands for a binding. -/
def Sound (i : Instance) : Prop :=
  i.service.torBound = true → i.Outstanding

/-- A new instance has no flag set. -/
theorem sound_new : Sound {} :=
  fun h => nomatch h

/-- With a binding the flag cannot be wrong. -/
theorem sound_of_ne_unbound {i : Instance} (h : i.service.torConnection ≠ .unbound) : i.Sound :=
  fun _ => h

/-- The flag is never set without a binding. -/
theorem Sound.callback {i : Instance} (h : i.Sound) (c : Callback) : (i.callback c).Sound := by
  cases c with
  | onStartCommand config bound intent =>
    cases intent with
    | stop => exact nofun
    | start =>
      cases config with
      | error message => exact h
      | ok _ =>
        cases bound with
        | false => exact nofun
        | true => exact sound_of_ne_unbound (bind_ne_unbound i.service.torConnection)
  | onServiceConnected binder =>
    cases binder with
    | localBinder socksPort => exact sound_of_ne_unbound nofun
    | other => exact sound_of_ne_unbound nofun
  | onServiceDisconnected => exact nofun
  | onDestroy => exact nofun
  | torLost => exact sound_of_ne_unbound nofun
  | torRecovered => exact sound_of_ne_unbound nofun

/-- **A flag that is set is right** in every run: `unbindService` always finds a binding, and its
    `runCatching` has nothing to catch. -/
theorem sound_of_run {callbacks : List Callback} {i : Instance}
    (hrun : run step {} callbacks = some i) : i.Sound := by
  have hkept : ∀ i c j, Sound i → step i c = some j → Sound j := by
    intro i c j h hj
    obtain ⟨-, rfl⟩ := step_eq_some.mp hj
    exact h.callback c
  exact run_invariant hkept sound_new hrun

end Instance

/-! ## The instance in the two-party system -/

/-- Callbacks lead an instance that is not destroyed to these fields. -/
def TorForegroundService.Reached (service : TorForegroundService) : Prop :=
  ∃ callbacks i, run Instance.step {} callbacks = some i ∧ i.destroyed = false ∧
    i.service = service

namespace TorForegroundService

/-- A new instance is one that callbacks have led to. -/
theorem reached_new : Reached {} :=
  ⟨[], {}, rfl, rfl, rfl⟩

/-- One more callback, of an instance with these fields. -/
theorem Reached.callback {service : TorForegroundService} (h : service.Reached) (c : Callback)
    (hready : c.Ready service.torConnection) (hc : c ≠ .onDestroy) :
    ∃ i : Instance, i.service = service ∧ (i.callback c).service.Reached := by
  obtain ⟨callbacks, i, hrun, hdestroyed, rfl⟩ := h
  have hstays : (i.callback c).destroyed = false :=
    (i.callback_destroyed hc).trans hdestroyed
  have hstep : i.step c = some (i.callback c) := Instance.step_eq_some.mpr ⟨⟨hdestroyed, hready⟩, rfl⟩
  refine ⟨i, rfl, callbacks ++ [c], i.callback c, ?_, hstays, rfl⟩
  rw [run_append, hrun]
  show (i.step c).bind _ = _
  rw [hstep]
  rfl

end TorForegroundService

namespace System

/-- The instance of the system, if there is one, is where callbacks lead an instance. -/
def Follows (s : System) : Prop :=
  ∀ service, s.service = some service → service.Reached

/-- At the beginning there is no instance. -/
theorem follows_new : Follows {} :=
  fun _ h => nomatch h

/-- What leaves the service alone leaves its instance alone. -/
theorem Follows.of_service_eq {s t : System} (h : s.Follows) (hservice : t.service = s.service) :
    t.Follows :=
  fun service ht => h service (hservice ▸ ht)

/-- An instance that callbacks have led to. -/
theorem Follows.of_some {t : System} {service : TorForegroundService} (h : service.Reached)
    (hservice : t.service = some service) : t.Follows := by
  intro service' ht
  obtain rfl := Option.some.inj (hservice.symm.trans ht)
  exact h

/-- A start does not touch the service, it queues a command. -/
theorem startTorThenVpn_service {s t : System} {prepared : Bool}
    (ht : s.startTorThenVpn prepared = .ok t) : t.service = s.service := by
  unfold System.startTorThenVpn at ht
  split at ht
  · cases ht
  · split at ht
    · cases ht
    · cases ht
      rfl

/-- Nor does a broadcast. -/
theorem onReceive_service (s : System) (written : Except (Option JString) JString)
    (b : Broadcast) : (s.onReceive written b).service = s.service := by
  -- an error stops the tunnel, not the service
  have herror : ∀ message, (s.stopWithError message).service = s.service := fun message => by
    simp [stopWithError, unregister]
  cases b with
  | stopped => rfl
  | error message => exact herror _
  | ready socksPort =>
    simp only [onReceive]
    split
    · exact herror _
    · cases written with
      | error message => exact herror _
      | ok config => rfl

/-- A command is a callback of the instance. -/
theorem Follows.onStartCommand {s : System} {service : TorForegroundService}
    (h : service.Reached) (hservice : s.service = some service)
    (config : Except (Option JString) Unit) (bound : Bool) (intent : TorIntent) :
    (s.onStartCommand service config bound intent).Follows := by
  obtain ⟨i, rfl, hnext⟩ := h.callback (.onStartCommand config bound intent) trivial (by simp)
  cases intent with
  | stop => exact .of_some hnext stopService_service
  | start =>
    cases config with
    | error message =>
      have hsame : (s.onStartCommand i.service (.error message) bound .start).service =
          some i.service := by
        simp [System.onStartCommand, hservice]
      exact .of_some hnext hsame
    | ok _ => exact .of_some hnext rfl

/-- Every command of the queue is a callback, makes an instance or ends it. -/
theorem Follows.command {s t : System} (h : s.Follows) {config : Except (Option JString) Unit}
    {bound : Bool} (ht : s.command config bound = some t) : t.Follows := by
  unfold System.command at ht
  split at ht
  · cases ht
  · -- onCreate: a new instance
    cases ht
    exact .of_some TorForegroundService.reached_new rfl
  · next intent rest hcommands =>
    split at ht
    · cases ht
      exact h
    · next service hservice =>
      cases ht
      have hrest : ({ s with commands := rest } : System).service = some service := hservice
      exact .onStartCommand (h service hservice) hrest config bound intent
  · -- onDestroy: the instance is gone, and the system releases its connection
    cases ht
    exact nofun

/-- **Each step of the two-party system** is at most one callback of the instance. -/
theorem Follows.step {s t : System} {a : Action} (h : s.Follows) (ht : Network.step s a = some t) :
    t.Follows := by
  cases a with
  | startTorThenVpn prepared =>
    simp only [Network.step] at ht
    split at ht
    · next t' hstarted =>
      cases ht
      exact h.of_service_eq (startTorThenVpn_service hstarted)
    · cases ht
      exact h
  | stop =>
    cases ht
    exact h
  | stopService =>
    cases ht
    exact h.of_service_eq stopService_service
  | command config bound => exact h.command ht
  | broadcast written =>
    simp only [Network.step] at ht
    split at ht
    · cases ht
    · next b rest hbroadcasts =>
      cases ht
      exact h.of_service_eq (onReceive_service _ written b)
  | onServiceConnected binder =>
    simp only [Network.step] at ht
    obtain ⟨service, hservice, hready, rfl⟩ := withConnection_eq_some.mp ht
    obtain ⟨i, rfl, hnext⟩ := (h service hservice).callback (.onServiceConnected binder) hready (by simp)
    cases binder with
    | localBinder socksPort => exact .of_some hnext (sendBroadcast_service _)
    | other => exact .of_some hnext rfl
  | onServiceDisconnected =>
    simp only [Network.step] at ht
    obtain ⟨service, hservice, hready, rfl⟩ := withConnection_eq_some.mp ht
    obtain ⟨i, rfl, hnext⟩ := (h service hservice).callback .onServiceDisconnected hready (by simp)
    exact .of_some hnext (sendBroadcast_service _)
  | torLost =>
    simp only [Network.step] at ht
    obtain ⟨service, hservice, hready, rfl⟩ := withConnection_eq_some.mp ht
    obtain ⟨i, rfl, hnext⟩ := (h service hservice).callback .torLost hready (by simp)
    exact .of_some hnext rfl
  | torRecovered =>
    simp only [Network.step] at ht
    obtain ⟨service, hservice, hready, rfl⟩ := withConnection_eq_some.mp ht
    obtain ⟨i, rfl, hnext⟩ := (h service hservice).callback .torRecovered hready (by simp)
    exact .of_some hnext rfl

/-- **The system follows the callbacks**: whatever the orchestrator and Android do, the fields of
    the instance are those that some callbacks lead a new instance to. -/
theorem follows_of_run {actions : List Action} {s : System}
    (hrun : run Network.step {} actions = some s) : s.Follows :=
  run_invariant (fun _ _ _ h ht => h.step ht) follows_new hrun

/-- So a flag that is set stands for a binding there, too. -/
theorem bound_of_torBound {actions : List Action} {s : System}
    (hrun : run Network.step {} actions = some s) {service : TorForegroundService}
    (hservice : s.service = some service) (hflag : service.torBound = true) :
    service.torConnection ≠ .unbound := by
  obtain ⟨callbacks, i, hcallbacks, -, rfl⟩ := follows_of_run hrun service hservice
  exact Instance.sound_of_run hcallbacks hflag

end System

end DarkMed.Network
