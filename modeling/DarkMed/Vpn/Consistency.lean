import DarkMed.Vpn.Steps

/-!
# The Reported State

`tunnelFd`, `engine`, `routeState` and the queue of the monitor are assigned on
every way out of `startTunnel`, on four ways to stop and by the monitor itself.
Between callbacks they agree: the security status that the UI reads is the one of
what the service holds.
-/

namespace DarkMed.Vpn

open DarkMed.Lib DarkMed.Lib.Transition DarkMed.ProtectedRoute

/-- The reported state agrees with what the service holds. -/
structure Consistent (s : State) : Prop where
  tunnel : s.tunnelFd ≠ none ↔ s.routeState.tunEstablished = true
  engine : s.engine = true → s.tunnelFd ≠ none
  failClosed : s.tunnelFd ≠ none → s.routeState.isFailClosed = true
  notProtected : s.routeState.isProtected = false
  oneMonitor : s.pendingMonitors ≤ 1
  /-- An engine that nobody watches has been reported. -/
  failed : s.engine = true → s.pendingMonitors = 0 → s.routeState.phase = .failed

/-- `Consistent`, with what its proof needs of the rest of the state. -/
structure Inv (s : State) : Prop extends Consistent s where
  watched : s.engine = false → s.pendingMonitors = 0
  external : External s.native

section Steps

variable {s t : State}

/-- A failed route is not protected, and lets nothing through. -/
theorem closed_failed (route : ProtectedRouteState) (reason : String) :
    ClosedAfterFailure (ProtectedRouteStateMachine.failed route reason) :=
  @closedAfterFailure_apply_of_phase (.failed reason) (phase_mem_of_isFailure rfl) route

/-- A start keeps the invariant on each of its ways out. -/
theorem Inv.start (hs : Inv s) (h : StartStep s t) : Inv t := by
  -- while there is no tunnel there is no engine, and no monitor for it
  have hidle : s.tunnelFd = none → s.engine = false ∧ s.pendingMonitors = 0 := by
    intro htunnel
    have hengine : s.engine = false :=
      Bool.eq_false_iff.mpr fun hengine => hs.engine hengine htunnel
    exact ⟨hengine, hs.watched hengine⟩
  cases h with
  | ignored => exact hs
  | blocked reason htunnel =>
    obtain ⟨hengine, hmonitors⟩ := hidle htunnel
    exact {
      tunnel := iff_of_false (fun h => h htunnel) (by simp [ProtectedRouteStateMachine.failed,
        ProtectedRouteStateMachine.starting])
      engine := fun h => absurd h (by simp [hengine])
      failClosed := fun h => absurd htunnel h
      notProtected := (closed_failed _ reason).1
      oneMonitor := hs.oneMonitor
      failed := fun _ _ => rfl
      watched := hs.watched
      external := hs.external }
  -- the tunnel stays up, and the route says so
  | engineFails fd reason htunnel hfresh =>
    exact {
      tunnel := iff_of_true nofun rfl
      engine := fun _ => nofun
      failClosed := fun _ => (closed_failed _ reason).2
      notProtected := (closed_failed _ reason).1
      oneMonitor := hs.oneMonitor
      failed := fun _ _ => rfl
      watched := hs.watched
      external := hs.external }
  -- the route is not protected before Tor is ready, and one monitor is set off
  | engineStarts fd htunnel hfresh =>
    obtain ⟨hengine, hmonitors⟩ := hidle htunnel
    exact {
      tunnel := iff_of_true nofun rfl
      engine := fun _ => nofun
      failClosed := fun _ => rfl
      notProtected := rfl
      oneMonitor := by simp [hmonitors]
      failed := fun _ h => nomatch h
      watched := nofun
      external := ⟨hs.external.tunFdLocal, fun tunFd h => by
        obtain rfl : (fd : Int) = tunFd := by simpa using h
        exact Int.natCast_nonneg fd⟩ }

/-- Behind a stop there is nothing that could disagree. -/
theorem Inv.stop (hs : Inv s) (h : StopStep s t) : Inv t := by
  have hstopped : ProtectedRouteStateMachine.stopped.isProtected = false := rfl
  cases h with
  | withoutEngine hengine =>
    exact {
      tunnel := iff_of_false (fun h => h rfl) nofun
      engine := fun h => absurd h (by simp [hengine])
      failClosed := fun h => absurd rfl h
      notProtected := hstopped
      oneMonitor := Nat.zero_le 1
      failed := fun h => absurd h (by simp [hengine])
      watched := fun _ => rfl
      external := hs.external }
  -- the descriptor may leak here, but nothing is reported of it
  | withEngine n hengine hn =>
    exact {
      tunnel := iff_of_false (fun h => h rfl) nofun
      engine := nofun
      failClosed := fun h => absurd rfl h
      notProtected := hstopped
      oneMonitor := Nat.zero_le 1
      failed := nofun
      watched := fun _ => rfl
      external := hn }

/-- A tick of the monitor reports an engine that has died, or asks for another tick. -/
theorem Inv.monitor (hs : Inv s) (hpending : s.pendingMonitors ≠ 0) : Inv (engineMonitor s) := by
  have hone : s.pendingMonitors = 1 := by
    have := hs.oneMonitor
    omega
  -- only a start sets a monitor off, and only a stop takes the engine away
  have hengine : s.engine = true := by
    by_contra hnone
    exact hpending (hs.watched (Bool.eq_false_iff.mpr hnone))
  -- the engine lives or has died
  unfold engineMonitor
  simp only [hengine, Bool.true_and, if_true]
  split
  -- an engine that has died is reported, and nobody watches it any more
  · exact {
      tunnel := hs.tunnel
      engine := fun _ => hs.engine hengine
      failClosed := fun _ => (closed_failed _ _).2
      notProtected := (closed_failed _ _).1
      oneMonitor := by simp [failRoute, hone]
      failed := fun _ _ => rfl
      watched := nofun
      external := hs.external }
  · exact {
      tunnel := hs.tunnel
      engine := fun _ => hs.engine hengine
      failClosed := hs.failClosed
      notProtected := hs.notProtected
      oneMonitor := by simp [hone]
      failed := fun _ => nofun
      watched := nofun
      external := hs.external }

/-- The worker changes nothing that is reported. -/
theorem Inv.worker (hs : Inv s) (h : NativeOnly s t) : Inv t := by
  rw [h.eq]
  exact ⟨⟨hs.tunnel, hs.engine, hs.failClosed, hs.notProtected, hs.oneMonitor, hs.failed⟩,
    hs.watched, h.external⟩

/-- **The invariant is kept** by every callback and by the worker. -/
theorem Inv.step {a : Action} (hs : Inv s) (h : step s a = some t) : Inv t := by
  cases step_inv hs.external h with
  | start h => exact hs.start h
  | stop ha h => exact hs.stop h
  | otherCommand => exact hs
  | monitorTick hpending => exact hs.monitor hpending
  | worker h => exact hs.worker h

end Steps

theorem inv_initial : Inv {} where
  tunnel := iff_of_false (fun h => h rfl) nofun
  engine := nofun
  failClosed := fun h => absurd rfl h
  notProtected := rfl
  oneMonitor := Nat.zero_le 1
  failed := nofun
  watched := fun _ => rfl
  external := ⟨rfl, nofun⟩

/-- The invariant holds between the callbacks of every run. -/
theorem inv_of_run {as : List Action} {s : State} (h : run step {} as = some s) : Inv s :=
  run_invariant (fun _ _ _ hs => hs.step) inv_initial h

/-- **The reported state agrees with what the service holds**, in every state between the
    callbacks of every run. -/
theorem reported_state_consistent {as : List Action} {s : State}
    (h : run step {} as = some s) : Consistent s :=
  (inv_of_run h).toConsistent

/-- A start that reaches the engine, the worker's end, and the tick that reports it. -/
def engineDies : List Action :=
  [.actionStart (some (ascii "/data/app/files/t.yml"))
      ⟨some (ascii "/data/app/files/t.yml"), some (ascii "/data/app/files", ascii "/data/app/cache"),
        .descriptor 42, true, true⟩,
    .worker (.tunnelInit true 0 true), .worker .leaves, .monitorTick]

/-- A dead engine is reported as failed while the tunnel is still up, so that nothing leaks past
    it. -/
theorem reported_state_consistent_engineDies :
    ∃ s, run step {} engineDies = some s ∧ s.engine = true ∧ s.pendingMonitors = 0 ∧
      s.routeState.phase = .failed ∧ Consistent s := by
  have hrun : (run step {} engineDies).map
      (fun s => (s.engine, s.pendingMonitors, s.routeState.phase)) =
      some (true, 0, .failed) := by decide
  obtain ⟨s, hs, hrecord⟩ := Option.map_eq_some_iff.mp hrun
  obtain ⟨hengine, hrest⟩ := Prod.mk.inj hrecord
  obtain ⟨hmonitors, hphase⟩ := Prod.mk.inj hrest
  exact ⟨s, hs, hengine, hmonitors, hphase, reported_state_consistent hs⟩

end DarkMed.Vpn
