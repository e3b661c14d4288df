import DarkMed.Network.Orchestrator

/-!
# Who Waits Is Answered

The orchestrator's receiver is released by a broadcast.  What the service owes it is a start
command that is still queued, a broadcast on its way, or a connection whose callback will send
one.  Four steps can take the last of these away and say nothing: a refused or useless bind, a
foreign binder, the end of the service, and the news that Tor is ready when it no longer is.
-/

namespace DarkMed.Network

open DarkMed.Lib DarkMed.Lib.Transition

/-! ## Property -/

namespace System

/-- Nothing is queued, nothing is in flight and no callback is due. -/
structure Quiescent (s : System) : Prop where
  commands : s.commands = []
  broadcasts : s.broadcasts = []
  callbacks : ∀ service, s.service = some service → service.torConnection.due = false

/-- `TorForegroundService` runs, and its connection to Tor stands. -/
def Serving (s : System) : Prop :=
  ∃ service, s.service = some service ∧ service.torConnection = .connected

/-- Once all is quiet, the orchestrator waits for a service that runs, and refuses to start for
    no other reason. -/
structure NoStuckStartup (s : System) : Prop where
  serving : s.Quiescent → s.receiver = true → s.Serving
  refused : s.Quiescent → ∀ prepared, s.startTorThenVpn prepared = .error alreadyInProgress →
    s.Serving

end System

/-! ## What the Service Owes -/

/-- A connection that is up, or that will call back: onServiceConnected sends a broadcast, and so
    does onServiceDisconnected. -/
def Connection.answers : Connection → Bool
  | .connecting | .connected | .disconnecting => true
  | _ => false

namespace System

def StartQueued (s : System) : Prop :=
  .onStartCommand .start ∈ s.commands

def Answering (s : System) : Prop :=
  ∃ service, s.service = some service ∧ service.torConnection.answers = true

/-- Something is still to come for the receiver, or the connection stands. -/
def Owed (s : System) : Prop :=
  s.StartQueued ∨ s.broadcasts ≠ [] ∨ s.Answering

/-- **Condition**: while the receiver waits, no step is silent about the last thing it waits for. -/
structure Answered (s : System) (a : Action) : Prop where
  /-- A start command's bind succeeds, and its callback is not spent on a foreign binder. -/
  bind : ∀ bound rest service, a = .command (.ok ()) bound → s.receiver = true →
    s.commands = .onStartCommand .start :: rest → s.service = some service →
    (bound = true ∧ service.torConnection ≠ .foreign) ∨ service.torConnection.answers = true ∨
      .onStartCommand .start ∈ rest ∨ s.broadcasts ≠ []
  /-- The service ends while a start command or a broadcast is to follow. -/
  destroy : ∀ config bound rest, a = .command config bound → s.receiver = true →
    s.commands = .onDestroy :: rest → .onStartCommand .start ∈ rest ∨ s.broadcasts ≠ []
  /-- So does a foreign binder come. -/
  foreign : ∀ service, a = .onServiceConnected .other → s.receiver = true →
    s.service = some service → service.torConnection = .connecting →
    s.StartQueued ∨ s.broadcasts ≠ []
  /-- Tor is not reported ready when its connection is gone, or more is to follow. -/
  ready : ∀ config socksPort rest, a = .broadcast (.ok config) → s.receiver = true →
    s.broadcasts = .ready socksPort :: rest → 1 ≤ socksPort ∧ socksPort ≤ 65535 →
    s.StartQueued ∨ rest ≠ [] ∨ s.Answering

end System

/-! ## Queue of Commands -/

/-- What a command does to the existence of the service's instance. -/
def Command.effect : Bool → Command → Option Bool
  | false, .onCreate => some true
  | true, .onStartCommand _ => some true
  | true, .onDestroy => some false
  | _, _ => none

/-- Every stop command has a start command behind it. -/
def StopsSuperseded : List Command → Prop
  | [] => True
  | .onStartCommand .stop :: rest => .onStartCommand .start ∈ rest ∧ StopsSuperseded rest
  | _ :: rest => StopsSuperseded rest

/-- The end of the service behind the queue stops nothing that waits. -/
theorem StopsSuperseded.append_onDestroy {commands : List Command}
    (h : StopsSuperseded commands) : StopsSuperseded (commands ++ [.onDestroy]) := by
  induction commands with
  | nil => trivial
  | cons c rest ih =>
    match c, h with
    | .onStartCommand .stop, h => exact ⟨List.mem_append_left _ h.1, ih h.2⟩
    | .onStartCommand .start, h => exact ih h
    | .onCreate, h => exact ih h
    | .onDestroy, h => exact ih h

/-- A start at the end of the queue comes behind every stop in it. -/
theorem stopsSuperseded_append_start (commands : List Command) :
    StopsSuperseded (commands ++ [.onStartCommand .start]) := by
  induction commands with
  | nil => trivial
  | cons c rest ih =>
    match c with
    | .onStartCommand .stop => exact ⟨List.mem_append_right _ List.mem_cons_self, ih⟩
    | .onStartCommand .start => exact ih
    | .onCreate => exact ih
    | .onDestroy => exact ih

/-- What is known of a queue holds of its rest. -/
theorem StopsSuperseded.tail {c : Command} {rest : List Command}
    (h : StopsSuperseded (c :: rest)) : StopsSuperseded rest := by
  match c, h with
  | .onStartCommand .stop, h => exact h.2
  | .onStartCommand .start, h => exact h
  | .onCreate, h => exact h
  | .onDestroy, h => exact h

namespace System

/-- The queue fits the instance that there is, and leaves what the system believes. -/
def QueueFits (s : System) : Prop :=
  run Command.effect s.service.isSome s.commands = some s.started

section Queue

variable {s : System}

/-- A start makes an instance, if none is there by then. -/
theorem QueueFits.startService (h : s.QueueFits) (intent : TorIntent) :
    (s.startService intent).QueueFits := by
  simp only [QueueFits] at h
  simp only [QueueFits, System.startService, List.append_assoc, run_append, h, Option.bind_some]
  cases s.started with
  | true => rfl
  | false => rfl

/-- A stop ends the instance that is there by then. -/
theorem QueueFits.stopService (h : s.QueueFits) : s.stopService.QueueFits := by
  simp only [QueueFits] at h
  unfold System.stopService
  split
  · next hstarted =>
    -- the service is started, so the queue ends with an instance to destroy
    simp only [QueueFits, run_append, h, hstarted, Option.bind_some]
    rfl
  · exact h

/-- What the head of a fitting queue finds: no instance to create, or one to run. -/
theorem QueueFits.head (h : s.QueueFits) {c : Command} {rest : List Command}
    (hcommands : s.commands = c :: rest) :
    ∃ exists', Command.effect s.service.isSome c = some exists' ∧
      run Command.effect exists' rest = some s.started := by
  rw [QueueFits, hcommands, run_cons] at h
  exact Option.bind_eq_some_iff.mp h

end Queue

/-! ## Steps That Answer -/

section Messages

variable {s : System}

@[simp] theorem sendBroadcast_receiver (b : Broadcast) :
    (s.sendBroadcast b).receiver = s.receiver := by
  unfold sendBroadcast
  split <;> rfl

@[simp] theorem sendBroadcast_commands (b : Broadcast) :
    (s.sendBroadcast b).commands = s.commands := by
  unfold sendBroadcast
  split <;> rfl

@[simp] theorem sendBroadcast_service (b : Broadcast) :
    (s.sendBroadcast b).service = s.service := by
  unfold sendBroadcast
  split <;> rfl

@[simp] theorem sendBroadcast_started (b : Broadcast) :
    (s.sendBroadcast b).started = s.started := by
  unfold sendBroadcast
  split <;> rfl

@[simp] theorem stopService_receiver : s.stopService.receiver = s.receiver := by
  unfold stopService
  split <;> rfl

@[simp] theorem stopService_broadcasts : s.stopService.broadcasts = s.broadcasts := by
  unfold stopService
  split <;> rfl

@[simp] theorem stopService_service : s.stopService.service = s.service := by
  unfold stopService
  split <;> rfl

/-- The end of the service is queued, or nothing is. -/
theorem stopService_commands : s.stopService.commands = s.commands ∨
    s.stopService.commands = s.commands ++ [.onDestroy] := by
  unfold stopService
  split
  · exact .inr rfl
  · exact .inl rfl

/-- A broadcast that somebody waits for is on its way. -/
theorem owed_sendBroadcast (b : Broadcast) (hreceiver : (s.sendBroadcast b).receiver = true) :
    (s.sendBroadcast b).Owed := by
  rw [sendBroadcast_receiver] at hreceiver
  refine .inr (.inl ?_)
  simp [sendBroadcast, hreceiver]

/-- A stop takes nothing away that was owed. -/
theorem Owed.stopService (h : s.Owed) : s.stopService.Owed := by
  -- the end of the service is only queued, so nothing that was owed is lost yet
  rcases h with hstart | hbroadcast | ⟨service, hservice, hanswers⟩
  · refine .inl ?_
    rcases s.stopService_commands with hcommands | hcommands
    · rwa [StartQueued, hcommands]
    · rw [StartQueued, hcommands]
      exact List.mem_append_left _ hstart
  · exact .inr (.inl (by rwa [stopService_broadcasts]))
  · exact .inr (.inr ⟨service, by rwa [stopService_service], hanswers⟩)

end Messages

/-- What every run keeps whose steps are answered. -/
structure Inv (s : System) : Prop where
  queueFits : s.QueueFits
  superseded : s.receiver = true → StopsSuperseded s.commands
  owed : s.receiver = true → s.Owed

/-- At the beginning nobody waits. -/
theorem inv_empty : Inv {} := ⟨rfl, nofun, nofun⟩

section Steps

variable {s t : System}

/-- Without a receiver nobody waits. -/
theorem inv_unregister (h : s.QueueFits) : s.unregister.Inv := ⟨h, nofun, nofun⟩

/-- The system may stop the service while somebody waits. -/
theorem Inv.stopService (h : s.Inv) : s.stopService.Inv where
  queueFits := h.queueFits.stopService
  superseded := by
    intro hreceiver
    rw [stopService_receiver] at hreceiver
    rcases s.stopService_commands with hcommands | hcommands
    · rw [hcommands]
      exact h.superseded hreceiver
    · rw [hcommands]
      exact (h.superseded hreceiver).append_onDestroy
  owed := by
    intro hreceiver
    rw [stopService_receiver] at hreceiver
    exact (h.owed hreceiver).stopService

/-- A broadcast queues no command. -/
theorem QueueFits.sendBroadcast (h : s.QueueFits) (b : Broadcast) :
    (s.sendBroadcast b).QueueFits := by
  simpa [QueueFits] using h

/-- An error ends the waiting. -/
theorem inv_stopWithError (h : s.QueueFits) (message : JString) :
    (s.stopWithError message).Inv := by
  have hidle : ({ s with vpn := none } : System).QueueFits := h
  exact inv_unregister (hidle.stopService.sendBroadcast _)

/-- **Broadcasts**: each of them releases the receiver, but for a ready Tor. -/
theorem inv_onReceive (h : s.QueueFits)
    (hsuperseded : s.receiver = true → StopsSuperseded s.commands)
    {b : Broadcast} {written : Except (Option JString) JString}
    (howed : ∀ socksPort config, b = .ready socksPort → 1 ≤ socksPort ∧ socksPort ≤ 65535 →
      written = .ok config → s.receiver = true → s.Owed) :
    (s.onReceive written b).Inv := by
  cases b with
  | ready socksPort =>
    simp only [System.onReceive]
    split
    · exact inv_stopWithError h _
    · next hport =>
      cases written with
      -- the configuration could not be written
      | error message => exact inv_stopWithError h _
      | ok config =>
        -- startVpn keeps the receiver, and this broadcast is used up
        exact ⟨h, hsuperseded, howed socksPort config rfl (not_not.mp hport) rfl⟩
  | error message => exact inv_stopWithError h _
  | stopped => exact inv_unregister h

/-- A start command that is handled fails aloud, or binds. -/
theorem inv_onStartCommand_start {service : TorForegroundService}
    {config : Except (Option JString) Unit} {bound : Bool} (h : s.QueueFits)
    (hservice : s.service = some service)
    (hsuperseded : s.receiver = true → StopsSuperseded s.commands)
    (howed : config = .ok () → s.receiver = true →
      (bound = true ∧ service.torConnection ≠ .foreign) ∨ service.torConnection.answers = true ∨
        s.StartQueued ∨ s.broadcasts ≠ []) :
    (s.onStartCommand service config bound .start).Inv := by
  cases config with
  | error message =>
    -- ACTION_ERROR is on its way before stopSelf
    refine Inv.stopService ⟨h.sendBroadcast _, ?_, owed_sendBroadcast _⟩
    simpa using hsuperseded
  | ok _ =>
    refine ⟨?_, hsuperseded, fun hreceiver => ?_⟩
    · simpa [QueueFits, System.onStartCommand, hservice] using h
    · rcases howed rfl hreceiver with ⟨hbound, hforeign⟩ | hanswers | hstart | hbroadcast
      · -- a bind brings a callback, unless a foreign binder is held
        refine .inr (.inr ⟨_, rfl, ?_⟩)
        cases hconnection : service.torConnection <;>
          simp_all [TorForegroundService.bindService, Connection.bind, Connection.answers]
      · -- a connection that answers keeps doing so, whatever the second bind returns
        refine .inr (.inr ⟨_, rfl, ?_⟩)
        cases hconnection : service.torConnection <;> cases bound <;>
          simp_all [TorForegroundService.bindService, Connection.bind, Connection.answers]
      · exact .inl hstart
      · exact .inr (.inl hbroadcast)

/-- **Commands**: the next one finds what it needs, and leaves the receiver something to wait
    for. -/
theorem Inv.command (h : s.Inv) {config : Except (Option JString) Unit} {bound : Bool}
    (hanswered : s.Answered (.command config bound)) (ht : s.command config bound = some t) :
    t.Inv := by
  -- one case for each head of the queue: none, onCreate, onStartCommand, onDestroy
  unfold System.command at ht
  split at ht
  · cases ht
  · next rest hcommands =>
    cases ht
    obtain ⟨created, heffect, hfits⟩ := h.queueFits.head hcommands
    refine ⟨?_, fun hreceiver => ?_, fun hreceiver => ?_⟩
    · cases hsome : s.service.isSome <;> simp_all [Command.effect, QueueFits]
    · exact (hcommands ▸ h.superseded hreceiver).tail
    · -- there was no instance before, so no connection was owed
      rcases h.owed hreceiver with hstart | hbroadcast | ⟨service, hservice, -⟩
      · rw [StartQueued, hcommands] at hstart
        exact .inl ((List.mem_cons.mp hstart).resolve_left nofun)
      · exact .inr (.inl hbroadcast)
      · simp [hservice, Command.effect] at heffect
  · next intent rest hcommands =>
    obtain ⟨running, heffect, hfits⟩ := h.queueFits.head hcommands
    have hsuperseded : s.receiver = true → StopsSuperseded rest :=
      fun hreceiver => (hcommands ▸ h.superseded hreceiver).tail
    split at ht
    · -- a fitting queue has an instance for its intents
      next hservice => simp [hservice, Command.effect] at heffect
    · next service hservice =>
      cases ht
      have hrest : ({ s with commands := rest } : System).QueueFits := by
        simp only [hservice, Option.isSome_some, Command.effect, Option.some.injEq] at heffect
        simpa [QueueFits, hservice, heffect] using hfits
      cases intent with
      | start =>
        refine inv_onStartCommand_start hrest hservice hsuperseded ?_
        rintro rfl hreceiver
        exact hanswered.bind bound rest service rfl hreceiver hcommands hservice
      | stop =>
        refine Inv.stopService ⟨?_, hsuperseded, fun hreceiver => ?_⟩
        · simpa [QueueFits, hservice] using hrest
        · -- a stop command under a waiting receiver is older than the start behind it
          have hstops := h.superseded hreceiver
          rw [hcommands] at hstops
          exact .inl hstops.1
  · next rest hcommands =>
    cases ht
    obtain ⟨gone, heffect, hfits⟩ := h.queueFits.head hcommands
    refine ⟨?_, fun hreceiver => ?_, fun hreceiver => ?_⟩
    · cases hsome : s.service.isSome <;> simp_all [Command.effect, QueueFits]
    · exact (hcommands ▸ h.superseded hreceiver).tail
    · rcases hanswered.destroy config bound rest rfl hreceiver hcommands with hstart | hbroadcast
      · exact .inl hstart
      · exact .inr (.inl hbroadcast)

/-- A callback that changes the instance only leaves the queue fitting. -/
theorem QueueFits.setService (h : s.QueueFits) {service : TorForegroundService}
    (hservice : s.service = some service) (service' : TorForegroundService) :
    ({ s with service := some service' } : System).QueueFits := by
  simpa [QueueFits, hservice] using h

/-- A start queues the command that is going to answer it. -/
theorem inv_startTorThenVpn (h : s.Inv) {prepared : Bool}
    (ht : s.startTorThenVpn prepared = .ok t) : t.Inv := by
  unfold System.startTorThenVpn at ht
  split at ht
  · cases ht
  · split at ht
    · cases ht
    · cases ht
      -- whatever stop commands are still queued, the new start command stands behind them
      have hregistered : ({ s with receiver := true } : System).QueueFits := h.queueFits
      refine ⟨hregistered.startService .start, fun _ => ?_, fun _ => .inl ?_⟩
      · exact stopsSuperseded_append_start _
      · exact List.mem_append_right _ List.mem_cons_self

/-- A callback of the connection, by what it leaves: a connection that answers, or a broadcast,
    or nothing that was waited for. -/
theorem Inv.setConnection (h : s.Inv) {service service' : TorForegroundService}
    (hservice : s.service = some service)
    (hanswers : service.torConnection.answers = true → service'.torConnection.answers = true) :
    ({ s with service := some service' } : System).Inv where
  queueFits := h.queueFits.setService hservice service'
  superseded := h.superseded
  owed := by
    intro hreceiver
    rcases h.owed hreceiver with hstart | hbroadcast | ⟨old, hold, hup⟩
    · exact .inl hstart
    · exact .inr (.inl hbroadcast)
    · rw [hservice, Option.some.injEq] at hold
      exact .inr (.inr ⟨service', rfl, hanswers (hold ▸ hup)⟩)

/-- **Step lemma**: a step that answers leaves the receiver something to wait for. -/
theorem Inv.step (h : s.Inv) {a : Action} (hanswered : s.Answered a) (ht : step s a = some t) :
    t.Inv := by
  cases a with
  | startTorThenVpn prepared =>
    simp only [Network.step] at ht
    split at ht
    · next t' hstarted =>
      cases ht
      exact inv_startTorThenVpn h hstarted
    · cases ht
      exact h
  | stop =>
    -- `stop` queues the stop command and gives up the receiver in one step
    cases ht
    have hidle : ({ s with vpn := none } : System).QueueFits := h.queueFits
    exact inv_unregister (hidle.startService .stop)
  | stopService =>
    cases ht
    exact h.stopService
  | command config bound => exact h.command hanswered ht
  | broadcast written =>
    simp only [Network.step] at ht
    split at ht
    · cases ht
    · next b rest hbroadcasts =>
      cases ht
      have hrest : ({ s with broadcasts := rest } : System).QueueFits := h.queueFits
      refine inv_onReceive hrest h.superseded ?_
      rintro socksPort config rfl hport rfl hreceiver
      exact hanswered.ready config socksPort rest rfl hreceiver hbroadcasts hport
  | onServiceConnected binder =>
    simp only [Network.step] at ht
    obtain ⟨service, hservice, hconnecting, rfl⟩ := withConnection_eq_some.mp ht
    cases binder with
    | localBinder socksPort =>
      have hset := @Inv.setConnection s h service ⟨true, socksPort, .connected⟩ hservice
        fun _ => rfl
      refine ⟨hset.queueFits.sendBroadcast _, ?_, owed_sendBroadcast _⟩
      simpa [System.onServiceConnected] using hset.superseded
    | other =>
      -- the connection no longer answers, so the condition has to name what does
      refine ⟨h.queueFits.setService hservice _, h.superseded, fun hreceiver => ?_⟩
      rcases hanswered.foreign service rfl hreceiver hservice hconnecting with hstart | hbroadcast
      · exact .inl hstart
      · exact .inr (.inl hbroadcast)
  | onServiceDisconnected =>
    simp only [Network.step] at ht
    obtain ⟨service, hservice, -, rfl⟩ := withConnection_eq_some.mp ht
    have hfits := h.queueFits.setService hservice ⟨false, none, .disconnected⟩
    -- the connection is lost, and the broadcast that says so is owed instead
    refine ⟨hfits.sendBroadcast _, ?_, owed_sendBroadcast _⟩
    simpa [System.onServiceDisconnected] using h.superseded
  | torLost =>
    simp only [Network.step] at ht
    obtain ⟨service, hservice, -, rfl⟩ := withConnection_eq_some.mp ht
    exact h.setConnection hservice fun _ => rfl
  | torRecovered =>
    simp only [Network.step] at ht
    obtain ⟨service, hservice, -, rfl⟩ := withConnection_eq_some.mp ht
    exact h.setConnection hservice fun _ => rfl

/-- Once all is quiet, only a standing connection is left to wait for. -/
theorem Inv.noStuckStartup (h : s.Inv) : s.NoStuckStartup := by
  have hserving : s.Quiescent → s.receiver = true → s.Serving := by
    intro hquiet hreceiver
    rcases h.owed hreceiver with hstart | hbroadcast | ⟨service, hservice, hanswers⟩
    · rw [StartQueued, hquiet.commands] at hstart
      cases hstart
    · exact absurd hquiet.broadcasts hbroadcast
    · refine ⟨service, hservice, ?_⟩
      have hdue := hquiet.callbacks service hservice
      cases hconnection : service.torConnection <;>
        simp_all [Connection.answers, Connection.due]
  refine ⟨hserving, fun hquiet prepared hrefused => hserving hquiet ?_⟩
  unfold System.startTorThenVpn at hrefused
  split at hrefused
  · -- without consent the refusal has another text
    exact absurd (Except.error.inj hrefused) (by decide)
  · split at hrefused
    · assumption
    · cases hrefused

end Steps

/-! ## Silent Steps -/

/-- The receiver waits for something that will not come. -/
structure Forgotten (s : System) : Prop where
  receiver : s.receiver = true
  notOwed : ¬ s.Owed

section Silence

variable {s t : System}

/-- A receiver that is forgotten has no broadcast on its way. -/
theorem Forgotten.broadcasts (h : s.Forgotten) : s.broadcasts = [] := by
  by_contra hbroadcast
  exact h.notOwed (.inr (.inl hbroadcast))

/-- Nor does the connection of the service answer it. -/
theorem Forgotten.answers (h : s.Forgotten) {service : TorForegroundService}
    (hservice : s.service = some service) : service.torConnection.answers = false := by
  by_contra hanswers
  exact h.notOwed (.inr (.inr ⟨service, hservice, by simpa using hanswers⟩))

/-- What is left to do for the queue: a stop command is followed by the end of the service. -/
def backlog (s : System) : Nat :=
  s.commands.length + s.commands.count (.onStartCommand .stop)

/-- What it takes to be forgotten. -/
theorem forgotten_of (hreceiver : s.receiver = true) (hbroadcasts : s.broadcasts = [])
    (hstart : .onStartCommand .start ∉ s.commands)
    (hservice : ∀ service, s.service = some service → service.torConnection.answers = false) :
    s.Forgotten := by
  refine ⟨hreceiver, ?_⟩
  rintro (hqueued | hbroadcast | ⟨service, hsome, hanswers⟩)
  · exact hstart hqueued
  · exact hbroadcast hbroadcasts
  · exact absurd (hservice service hsome) (by simp [hanswers])

/-- A stop does not call a forgotten receiver to mind. -/
theorem Forgotten.stopService (h : s.Forgotten) : s.stopService.Forgotten := by
  refine forgotten_of (by simpa using h.receiver) (by simpa using h.broadcasts) ?_ ?_
  · intro hqueued
    rcases s.stopService_commands with hcommands | hcommands
    · exact h.notOwed (.inl (by rwa [hcommands] at hqueued))
    · rw [hcommands, List.mem_append] at hqueued
      rcases hqueued with hqueued | hend
      · exact h.notOwed (.inl hqueued)
      · simp at hend
  · intro service hservice
    exact h.answers (by simpa using hservice)

/-- A stop queues one command at most. -/
theorem backlog_stopService : s.stopService.backlog ≤ s.backlog + 1 := by
  unfold backlog
  rcases s.stopService_commands with hcommands | hcommands
  · rw [hcommands]
    omega
  · simp [hcommands]
    omega

/-- A connection that is given up answers nobody. -/
theorem stopTor_answers {service : TorForegroundService}
    (h : service.torConnection.answers = false) :
    service.stopTor.torConnection.answers = false := by
  unfold TorForegroundService.stopTor
  cases service.torBound with
  | true => rfl
  | false => exact h

/-- The commands that are still queued do not help. -/
theorem Forgotten.command (h : s.Forgotten) (hcommands : s.commands ≠ []) :
    ∃ t, s.command (.ok ()) false = some t ∧ t.Forgotten ∧ t.backlog < s.backlog := by
  obtain ⟨c, rest, hqueue⟩ := List.exists_cons_of_ne_nil hcommands
  have hstart : .onStartCommand .start ∉ c :: rest := hqueue ▸ fun hmem => h.notOwed (.inl hmem)
  have hrest : .onStartCommand .start ∉ rest := fun hmem => hstart (List.mem_cons_of_mem c hmem)
  match c with
  | .onCreate =>
    refine ⟨_, by simp only [System.command, hqueue]; rfl, ?_, ?_⟩
    · refine forgotten_of h.receiver h.broadcasts hrest fun service hservice => ?_
      cases hservice
      rfl
    · simp [backlog, hqueue]
  | .onStartCommand .start => exact absurd List.mem_cons_self hstart
  | .onStartCommand .stop =>
    cases hservice : s.service with
    | none =>
      refine ⟨_, by simp only [System.command, hqueue, hservice]; rfl, ?_, ?_⟩
      · exact forgotten_of h.receiver h.broadcasts hrest nofun
      · simp [backlog, hqueue]
        omega
    | some service =>
      refine ⟨_, by simp only [System.command, hqueue, hservice]; rfl, ?_, ?_⟩
      · apply Forgotten.stopService
        refine forgotten_of h.receiver h.broadcasts hrest fun stopped hsome => ?_
        cases hsome
        exact stopTor_answers (h.answers hservice)
      · -- stopSelf may queue one onDestroy, and the stop command itself counted for two
        have hless := backlog_stopService
          (s := { s with commands := rest, service := some service.stopTor })
        have hpopped : s.backlog = rest.length + rest.count (.onStartCommand .stop) + 2 := by
          rw [backlog, hqueue, List.length_cons, List.count_cons_self]
          omega
        exact hpopped ▸ Nat.lt_succ_of_le hless
  | .onDestroy =>
    refine ⟨_, by simp only [System.command, hqueue]; rfl, ?_, ?_⟩
    · exact forgotten_of h.receiver h.broadcasts hrest nofun
    · simp [backlog, hqueue]

/-- A forgotten receiver is stuck as soon as the queued commands have run. -/
theorem Forgotten.drains (h : s.Forgotten) :
    ∃ n u, run step s (List.replicate n (.command (.ok ()) false)) = some u ∧
      ¬ u.NoStuckStartup := by
  -- on the backlog: each command that runs, with every bind refused, makes it smaller
  induction hbacklog : s.backlog using Nat.strong_induction_on generalizing s with
  | _ backlog ih =>
    by_cases hcommands : s.commands = []
    · -- the queue is empty, and the receiver waits for a connection that nobody makes
      refine ⟨0, s, rfl, fun hfine => ?_⟩
      have hquiet : s.Quiescent := by
        refine ⟨hcommands, h.broadcasts, fun service hservice => ?_⟩
        have hanswers := h.answers hservice
        cases hconnection : service.torConnection <;>
          simp_all [Connection.answers, Connection.due]
      obtain ⟨service, hservice, hconnected⟩ := hfine.serving hquiet h.receiver
      exact absurd (h.answers hservice) (by simp [hconnected, Connection.answers])
    · obtain ⟨t, ht, hforgotten, hless⟩ := h.command hcommands
      obtain ⟨n, u, hrun, hstuck⟩ := ih t.backlog (hbacklog ▸ hless) hforgotten rfl
      refine ⟨n + 1, u, ?_, hstuck⟩
      rw [List.replicate_succ, run_cons]
      exact Option.bind_eq_some_iff.mpr ⟨t, ht, hrun⟩

/-- A step that forgets nobody answers: the condition leaves nothing else out. -/
theorem answered_of_not_forgotten {a : Action} (hkept : ∀ t, step s a = some t → ¬ t.Forgotten) :
    s.Answered a where
  bind := by
    rintro bound rest service rfl hreceiver hcommands hservice
    -- the connection would be the last that could answer, and it does not
    by_contra hsilent
    simp only [not_or, not_and, not_not] at hsilent
    obtain ⟨hbind, hanswers, hrest, hbroadcasts⟩ := hsilent
    refine hkept _ (by simp only [step, System.command, hcommands, hservice]; rfl) ?_
    refine forgotten_of hreceiver hbroadcasts hrest ?_
    rintro _ ⟨⟩
    cases bound <;> cases hconnection : service.torConnection <;>
      simp_all [TorForegroundService.bindService, Connection.bind, Connection.answers]
  destroy := by
    rintro config bound rest rfl hreceiver hcommands
    -- nothing is queued or on its way behind the end of the service
    by_contra hsilent
    simp only [not_or, not_not] at hsilent
    refine hkept _ (by simp only [step, System.command, hcommands]; rfl) ?_
    exact forgotten_of hreceiver hsilent.2 hsilent.1 nofun
  foreign := by
    rintro service rfl hreceiver hservice hconnecting
    -- the foreign binder leaves a connection that does not answer
    by_contra hsilent
    simp only [not_or, not_not] at hsilent
    have hstep : step s (.onServiceConnected .other) = some (s.onServiceConnected service .other) := by
      simp only [step]
      exact withConnection_eq_some.mpr ⟨service, hservice, hconnecting, rfl⟩
    refine hkept _ hstep ?_
    refine forgotten_of hreceiver hsilent.2 hsilent.1 ?_
    rintro _ ⟨⟩
    rfl
  ready := by
    rintro config socksPort rest rfl hreceiver hbroadcasts hport
    -- the broadcast is used up, and nothing else is owed
    by_contra hsilent
    simp only [not_or, not_not] at hsilent
    obtain ⟨hstart, hrest, hanswering⟩ := hsilent
    refine hkept _ (by simp only [step, hbroadcasts]; rfl) ?_
    simp only [System.onReceive, hport, not_true_eq_false, if_false, and_self]
    refine forgotten_of hreceiver hrest hstart fun service hservice => ?_
    by_contra hanswers
    exact hanswering ⟨service, hservice, by simpa using hanswers⟩

end Silence

end System

/-! ## Runs -/

/-- **No stuck start-up, as long as every step answers**: in every state that such a run reaches.
    And only so: a run with a silent step is stuck once its queued commands have run. -/
theorem no_stuck_startup (actions : List Action) :
    (AllSteps step System.Answered {} actions →
      ∀ t, run step {} actions = some t → t.NoStuckStartup) ∧
    (¬ AllSteps step System.Answered {} actions →
      ∃ pre n t, pre <+: actions ∧
        run step {} (pre ++ List.replicate n (.command (.ok ()) false)) = some t ∧
        ¬ t.NoStuckStartup) := by
  constructor
  · intro hanswered t hrun
    have hinv : t.Inv := run_invariant_of_allSteps (fun s a t h hok ht => h.step hok ht)
      System.inv_empty hanswered hrun
    exact hinv.noStuckStartup
  · intro hsilent
    -- the first silent step leaves a receiver that nothing is owed to; then drain the queue
    obtain ⟨pre, a, suf, s, rfl, hrun, hbroken⟩ := exists_of_not_allSteps hsilent
    obtain ⟨t, ht, hforgotten⟩ : ∃ t, step s a = some t ∧ t.Forgotten := by
      by_contra hkept
      exact hbroken (System.answered_of_not_forgotten fun t ht hforgotten =>
        hkept ⟨t, ht, hforgotten⟩)
    obtain ⟨n, u, hdrain, hstuck⟩ := hforgotten.drains
    refine ⟨pre ++ [a], n, u, ⟨suf, by simp⟩, ?_, hstuck⟩
    simp [run_append, hrun, ht, hdrain]

/-- All data is cleared while the route is up: the service is gone, and the orchestrator refuses
    to start it again. -/
theorem receiver_survives_clear_all_data :
    ∃ t, run step {} [.startTorThenVpn true, .command (.ok ()) true, .command (.ok ()) true,
        .onServiceConnected (.localBinder (some 9050)), .broadcast (.ok (ascii "tun2socks.yml")),
        .stopService, .command (.ok ()) true] = some t ∧
      t.startTorThenVpn true = .error System.alreadyInProgress ∧ ¬ t.NoStuckStartup := by
  refine ⟨{ receiver := true, vpn := some (ascii "tun2socks.yml") }, rfl,
    by simp [System.startTorThenVpn], fun h => ?_⟩
  obtain ⟨service, hservice, -⟩ := h.serving ⟨rfl, rfl, nofun⟩ rfl
  cases hservice

end DarkMed.Network
