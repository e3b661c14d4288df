import DarkMed.Vpn.Service

/-!
# What a Callback Changes

The inversion lemmas of `startTunnel`, `stopTunnel` and the worker's steps.  Each
way out of `startTunnel` assigns a different part of the state; it is written out
once, here, and the invariants are proved by cases over it.
-/

namespace DarkMed.Vpn

open DarkMed.Lib DarkMed.Lib.Transition DarkMed.ProtectedRoute

/-! ## The worker -/

/-- The engine works on a descriptor that was passed in from outside. -/
structure External (n : Native) : Prop where
  tunFdLocal : n.tunFdLocal = false
  loading : ∀ tunFd, n.worker = some (.loading tunFd) → 0 ≤ tunFd

/-- A step that changes nothing but the bridge and the engine. -/
structure NativeOnly (s t : State) : Prop where
  external : External t.native
  eq : t = { s with native := t.native }

/-- `tunnel_fini` closes only a descriptor that the engine has opened itself. -/
theorem tunnelFini_of_external {s : State} (hs : s.native.tunFdLocal = false) :
    tunnelFini s = s := by
  simp [tunnelFini, hs]

/-- A descriptor from outside is used as it is, whatever fails behind that. -/
theorem tunnelInit_of_external {n : Native} {tunFd : Int} (hn : n.tunFdLocal = false)
    (htun : 0 ≤ tunFd) (ioctlOk : Bool) (opened : Int) (setupOk : Bool) :
    (tunnelInit n tunFd ioctlOk opened setupOk).1.tunFdLocal = false := by
  unfold tunnelInit
  rw [if_pos (ge_iff_le.mpr htun)]
  split <;> exact hn

/-- With a descriptor from outside, `tunnel_fini` closes nothing: the worker leaves the service
    and the descriptors alone. -/
theorem workerStep_nativeOnly {s t : State} {move : WorkerMove} (hs : External s.native)
    (h : workerStep s move = some t) : NativeOnly s t := by
  unfold workerStep at h
  split at h
  · cases h
    exact ⟨⟨hs.tunFdLocal, nofun⟩, rfl⟩
  · next tunFd ioctlOk opened setupOk hworker =>
    -- the descriptor is the one that `startNative` was given
    have hlocal := tunnelInit_of_external hs.tunFdLocal (hs.loading tunFd hworker) ioctlOk opened
      setupOk
    rcases hinit : tunnelInit s.native tunFd ioctlOk opened setupOk with ⟨n, ok⟩
    rw [hinit] at hlocal
    simp only [hinit] at h
    cases ok with
    | true =>
      cases h
      exact ⟨⟨hlocal, nofun⟩, rfl⟩
    | false =>
      -- the failed worker runs `tunnel_fini` on a descriptor that is not its own
      cases h
      rw [tunnelFini_of_external (s := { s with native := n }) hlocal]
      exact ⟨⟨hlocal, nofun⟩, rfl⟩
  · cases h
    rw [tunnelFini_of_external hs.tunFdLocal]
    exact ⟨⟨hs.tunFdLocal, nofun⟩, rfl⟩
  · cases h

/-- A worker that goes on for any number of steps leaves the service and the descriptors alone. -/
theorem workerRun_nativeOnly {s t : State} {moves : List WorkerMove} (hs : External s.native)
    (h : run workerStep s moves = some t) : NativeOnly s t :=
  run_invariant (I := NativeOnly s)
    (fun u move v hu hv => by
      have hstep := workerStep_nativeOnly hu.external hv
      exact ⟨hstep.external, by rw [hstep.eq, hu.eq]⟩)
    ⟨hs, rfl⟩ h

/-- A stop of the engine waits for the worker, which leaves the service and the descriptors
    alone. -/
theorem stopNative_nativeOnly {s t : State} {moves : List WorkerMove} (hs : External s.native)
    (h : stopNative s moves = some t) : NativeOnly s t := by
  simp only [stopNative] at h
  split at h
  · obtain ⟨u, hu, ht⟩ := Option.bind_eq_some_iff.mp h
    have hrest := workerRun_nativeOnly hs hu
    -- the join needs a worker that has returned
    split at ht
    · cases ht
      exact ⟨⟨hrest.external.tunFdLocal, nofun⟩, by rw [hrest.eq]⟩
    · cases ht
  · cases h
    exact ⟨⟨hs.tunFdLocal, nofun⟩, rfl⟩

/-! ## `startTunnel` -/

/-- The route of a start that has reached the engine. -/
def engineRoute : ProtectedRouteState :=
  ProtectedRouteStateMachine.proxyStarting
    (ProtectedRouteStateMachine.tunEstablished ProtectedRouteStateMachine.starting)

/-- What `startTunnel` leaves behind. -/
inductive StartStep (s : State) : State → Prop where
  | ignored : StartStep s s
  /-- Every failure before there is a descriptor. -/
  | blocked (reason : String) (htunnel : s.tunnelFd = none) :
      StartStep s { s with
        routeState :=
          ProtectedRouteStateMachine.failed ProtectedRouteStateMachine.starting reason }
  | engineFails (fd : Nat) (reason : String) (htunnel : s.tunnelFd = none)
      (hfresh : isOpen fd s.detached = false) :
      StartStep s { s with
        tunnelFd := some fd
        detached := ⟨fd, 0⟩ :: s.detached
        routeState := ProtectedRouteStateMachine.failed engineRoute reason }
  | engineStarts (fd : Nat) (htunnel : s.tunnelFd = none) (hfresh : isOpen fd s.detached = false) :
      StartStep s { s with
        tunnelFd := some fd
        detached := ⟨fd, 0⟩ :: s.detached
        engine := true
        routeState := ProtectedRouteStateMachine.proxyReady engineRoute false
        pendingMonitors := s.pendingMonitors + 1
        native := { s.native with worker := some (.loading fd), running := true } }

/-- An engine that cannot be started leaves the tunnel up and the route failed. -/
theorem startEngine_inv {s : State} {fd : Nat} {outcome : StartOutcome} (htunnel : s.tunnelFd = none)
    (hfresh : isOpen fd s.detached = false) :
    StartStep s (startEngine { s with routeState := ProtectedRouteStateMachine.starting } fd
      outcome) := by
  -- the engine cannot be made, its worker is still there, or the thread is not made
  simp only [startEngine, startNative]
  split
  · split
    · exact .engineFails fd _ htunnel hfresh
    · split
      · exact .engineStarts fd htunnel hfresh
      · exact .engineFails fd _ htunnel hfresh
  · exact .engineFails fd _ htunnel hfresh

/-- **Inversion of `startTunnel`**: it is ignored, blocked before there is a descriptor, or comes to
    the engine. -/
theorem startTunnel_inv {s t : State} {configPath : Option JString} {outcome : StartOutcome}
    (h : startTunnel s configPath outcome = some t) : StartStep s t := by
  -- the checks of `startTunnel` in their order, each failure with a reason of its own
  simp only [startTunnel] at h
  split at h
  · cases h
    exact .ignored
  · next hgo =>
    -- a start with a tunnel, or without a configuration, is ignored
    have htunnel : s.tunnelFd = none := by
      simp only [Bool.or_eq_true, not_or, Option.not_isSome_iff_eq_none] at hgo
      exact hgo.1
    split at h
    · cases h
      exact .blocked _ htunnel
    · split at h
      · cases h
      · split at h
        · cases h
          exact .blocked _ htunnel
        · split at h
          · cases h
            exact .blocked _ htunnel
          · cases h
            exact .blocked _ htunnel
          · split at h
            · cases h
            · -- the only way that comes as far as the engine
              next hclosed =>
              cases h
              exact startEngine_inv htunnel (Bool.eq_false_iff.mpr hclosed)

/-! ## `stopTunnel` -/

/-- What `stopTunnel` leaves behind. -/
inductive StopStep (s : State) : State → Prop where
  | withoutEngine (hengine : s.engine = false) :
      StopStep s { s with
        tunnelFd := none
        detached := s.tunnelFd.elim s.detached fun fd => closeFd fd s.detached
        routeState := ProtectedRouteStateMachine.stopped
        pendingMonitors := 0 }
  | withEngine (n : Native) (hengine : s.engine = true) (hn : External n) :
      StopStep s { s with
        tunnelFd := none
        engine := false
        routeState := ProtectedRouteStateMachine.stopped
        pendingMonitors := 0
        native := n }

/-- **Inversion of `stopTunnel`**: the descriptor is closed only where there is no engine. -/
theorem stopTunnel_inv {s t : State} {moves : List WorkerMove} (hs : External s.native)
    (h : stopTunnel s moves = some t) : StopStep s t := by
  obtain ⟨u, hu, rfl⟩ := Option.map_eq_some_iff.mp h
  cases hengine : s.engine with
  | false =>
    -- without an engine the service closes the descriptor that it holds
    simp only [hengine, Bool.false_eq_true, if_false, Option.some.injEq] at hu
    subst hu
    have hstep := StopStep.withoutEngine hengine
    cases htunnel : s.tunnelFd <;> simpa [htunnel, hengine] using hstep
  | true =>
    simp only [hengine, if_true] at hu
    -- with an engine the descriptor is left to it
    have hnative := stopNative_nativeOnly (by exact hs) hu
    have hstep := StopStep.withEngine u.native hengine hnative.external
    rw [hnative.eq]
    exact hstep

/-! ## Actions -/

/-- What each kind of action does. -/
inductive Step (s : State) : Action → State → Prop where
  | start {t : State} {configPath : Option JString} {outcome : StartOutcome}
      (h : StartStep s t) : Step s (.actionStart configPath outcome) t
  | stop {t : State} {a : Action} (ha : a.stops = true) (h : StopStep s t) : Step s a t
  | otherCommand : Step s .otherCommand s
  | monitorTick (hpending : s.pendingMonitors ≠ 0) : Step s .monitorTick (engineMonitor s)
  | worker {t : State} {move : WorkerMove} (h : NativeOnly s t) : Step s (.worker move) t

/-- **Inversion of `step`.** -/
theorem step_inv {s t : State} {a : Action} (hs : External s.native) (h : step s a = some t) :
    Step s a t := by
  cases a with
  | actionStart configPath outcome => exact .start (startTunnel_inv h)
  | actionStop moves => exact .stop rfl (stopTunnel_inv hs h)
  | onRevoke moves => exact .stop rfl (stopTunnel_inv hs h)
  | onDestroy moves => exact .stop rfl (stopTunnel_inv hs h)
  | otherCommand =>
    cases h
    exact .otherCommand
  | monitorTick =>
    simp only [step] at h
    split at h
    · cases h
    · next hpending =>
      cases h
      exact .monitorTick hpending
  | worker move => exact .worker (workerStep_nativeOnly hs h)

/-- What the four ways to stop have in common. -/
theorem stopStep_of_stops {s t : State} {a : Action} (hs : External s.native)
    (ha : a.stops = true) (h : step s a = some t) : StopStep s t := by
  cases step_inv hs h with
  | stop _ hstop => exact hstop
  | start _ => cases ha
  | otherCommand => cases ha
  | monitorTick _ => cases ha
  | worker _ => cases ha

end DarkMed.Vpn
