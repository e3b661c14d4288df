import DarkMed.Vpn.Consistency

/-!
# The TUN Descriptor

`startTunnel` detaches the descriptor from its `ParcelFileDescriptor`: from there
on it is a number, and whoever owns it has to close it.  The engine does not
(`tunnel_fini` closes only what `tunnel_init` has opened), and `stopTunnel` closes
it only when there is no engine.

So no descriptor is closed twice, and one is left open by every stop of a running
engine.
-/

namespace DarkMed.Vpn

open DarkMed.Lib DarkMed.Lib.Transition DarkMed.ProtectedRoute

/-! ## Closed at most once -/

theorem closeFd_cons (fd closes : Nat) (rest : List Detached) :
    closeFd fd (⟨fd, closes⟩ :: rest) = ⟨fd, closes + 1⟩ :: rest :=
  if_pos rfl

/-- No descriptor is closed twice, and `tunnelFd` is the last one and open. -/
structure Ledger (s : State) : Prop where
  closedOnce : ∀ d ∈ s.detached, d.closes ≤ 1
  current : ∀ fd, s.tunnelFd = some fd → ∃ rest, s.detached = ⟨fd, 0⟩ :: rest

section Ledger

variable {s t : State}

/-- What a stop leaves of the descriptors when there is no engine. -/
theorem Ledger.detached_stop (hs : Ledger s) :
    s.tunnelFd.elim s.detached (fun fd => closeFd fd s.detached) = s.detached ∧ s.tunnelFd = none ∨
      ∃ fd rest, s.detached = ⟨fd, 0⟩ :: rest ∧ s.tunnelFd = some fd ∧
        s.tunnelFd.elim s.detached (fun fd => closeFd fd s.detached) = ⟨fd, 1⟩ :: rest := by
  cases htunnel : s.tunnelFd with
  | none => exact .inl ⟨rfl, rfl⟩
  | some fd =>
    obtain ⟨rest, hrest⟩ := hs.current fd htunnel
    refine .inr ⟨fd, rest, hrest, rfl, ?_⟩
    rw [Option.elim_some, hrest, closeFd_cons]

/-- A start detaches a descriptor at most once, and that one is open and the first of the ledger. -/
theorem Ledger.start (hs : Ledger s) (h : StartStep s t) : Ledger t := by
  have hopened : ∀ fd, ∀ d ∈ (⟨fd, 0⟩ : Detached) :: s.detached, d.closes ≤ 1 := by
    intro fd d hd
    rcases List.mem_cons.mp hd with rfl | hd
    · exact Nat.zero_le 1
    · exact hs.closedOnce d hd
  have hcurrent : ∀ fd fd', some fd = some fd' →
      ∃ rest, (⟨fd, 0⟩ : Detached) :: s.detached = ⟨fd', 0⟩ :: rest := by
    rintro fd _ ⟨⟩
    exact ⟨s.detached, rfl⟩
  cases h with
  | ignored => exact hs
  | blocked reason htunnel => exact ⟨hs.closedOnce, hs.current⟩
  | engineFails fd reason htunnel hfresh => exact ⟨hopened fd, hcurrent fd⟩
  | engineStarts fd htunnel hfresh => exact ⟨hopened fd, hcurrent fd⟩

/-- A stop closes the last descriptor only where no engine runs, so no descriptor is closed
    twice. -/
theorem Ledger.stop (hs : Ledger s) (h : StopStep s t) : Ledger t := by
  cases h with
  | withoutEngine hengine =>
    refine ⟨?_, nofun⟩
    rcases hs.detached_stop with ⟨hsame, -⟩ | ⟨fd, rest, hrest, -, hclosed⟩
    · rw [hsame]
      exact hs.closedOnce
    · intro d hd
      rcases List.mem_cons.mp (hclosed ▸ hd) with rfl | hd
      · exact Nat.le_refl 1
      · exact hs.closedOnce d (hrest ▸ List.mem_cons_of_mem _ hd)
  | withEngine n hengine hn => exact ⟨hs.closedOnce, nofun⟩

/-- The monitor settles the engine and leaves the descriptor to the service. -/
theorem engineMonitor_tunnelFd (s : State) : (engineMonitor s).tunnelFd = s.tunnelFd := by
  simp only [engineMonitor]
  split
  · rfl
  · split <;> rfl

theorem engineMonitor_detached (s : State) : (engineMonitor s).detached = s.detached := by
  simp only [engineMonitor]
  split
  · rfl
  · split <;> rfl

/-- **No descriptor is closed twice**, whatever the order of callbacks and worker steps. -/
theorem Ledger.step {a : Action} (hs : Ledger s) (hinv : Inv s) (h : step s a = some t) :
    Ledger t := by
  cases step_inv hinv.external h with
  | start h => exact hs.start h
  | stop ha h => exact hs.stop h
  | otherCommand => exact hs
  | monitorTick hpending =>
    exact ⟨engineMonitor_detached s ▸ hs.closedOnce, by
      rw [engineMonitor_detached, engineMonitor_tunnelFd]
      exact hs.current⟩
  | worker h =>
    rw [h.eq]
    exact ⟨hs.closedOnce, hs.current⟩

end Ledger

/-! ## Closed when the tunnel is stopped -/

/-- The descriptors of earlier tunnels. -/
def earlier (s : State) : List Detached :=
  if s.tunnelFd.isSome then s.detached.tail else s.detached

/-- What the service owes after an action: no descriptor closed twice, and none left open when
    `stopTunnel` returns. -/
def Conserves (s : State) (a : Action) : Prop :=
  ∀ t, step s a = some t →
    (∀ d ∈ t.detached, d.closes ≤ 1) ∧ (a.stops = true → ∀ d ∈ t.detached, d.closes = 1)

/-- No stop that returns finds an engine. -/
def StopsWithoutEngine (s : State) (a : Action) : Prop :=
  a.stops = true → s.engine = true → step s a = none

/-- The states of a run that has left no descriptor open so far. -/
structure NoLeak (s : State) : Prop where
  inv : Inv s
  ledger : Ledger s
  closed : ∀ d ∈ earlier s, d.closes = 1

/-- **Step lemma**: a stop conserves the descriptors exactly when there is no engine. -/
theorem NoLeak.conserves_iff {s : State} (hs : NoLeak s) (a : Action) :
    Conserves s a ↔ StopsWithoutEngine s a := by
  constructor
  · intro hconserves ha hengine
    by_contra hsome
    obtain ⟨t, ht⟩ := Option.ne_none_iff_exists'.mp hsome
    have hclosed := (hconserves t ht).2 ha
    -- the descriptor of the running engine is still there, and open
    obtain ⟨fd, htunnel⟩ := Option.ne_none_iff_exists'.mp (hs.inv.engine hengine)
    obtain ⟨rest, hrest⟩ := hs.ledger.current fd htunnel
    cases stopStep_of_stops hs.inv.external ha ht with
    | withoutEngine hnone => cases hengine.symm.trans hnone
    | withEngine n hengine hn => exact absurd (hclosed ⟨fd, 0⟩ (by simp [hrest])) (by simp)
  · intro hidle t ht
    refine ⟨(hs.ledger.step hs.inv ht).closedOnce, fun ha => ?_⟩
    have hengine : s.engine = false := by
      by_contra hengine
      cases (hidle ha (by simpa using hengine)).symm.trans ht
    cases stopStep_of_stops hs.inv.external ha ht with
    | withEngine n hsome hn => cases hengine.symm.trans hsome
    | withoutEngine hengine =>
      -- `stopTunnel` closes the last descriptor itself; the earlier ones are closed
      have hclosed := hs.closed
      rcases hs.ledger.detached_stop with ⟨hsame, htunnel⟩ | ⟨fd, rest, hrest, htunnel, hlast⟩
      · rw [hsame]
        simpa [earlier, htunnel] using hclosed
      · rw [hlast]
        simpa [earlier, htunnel, hrest] using hclosed

/-- Where the action conserves the descriptors, nothing leaks behind it. -/
theorem NoLeak.step {s t : State} {a : Action} (hs : NoLeak s) (hconserves : Conserves s a)
    (h : step s a = some t) : NoLeak t := by
  refine ⟨hs.inv.step h, hs.ledger.step hs.inv h, ?_⟩
  have hclosed := hs.closed
  have hafter := (hconserves t h).2
  cases step_inv hs.inv.external h with
  -- behind a stop there is no tunnel, so all descriptors are earlier ones
  | stop ha h => cases h <;> simpa [earlier] using hafter ha
  | start h =>
    cases h with
    | ignored => exact hclosed
    | blocked reason htunnel => exact hclosed
    -- the new descriptor is the current one
    | engineFails fd reason htunnel hfresh => simpa [earlier, htunnel] using hclosed
    | engineStarts fd htunnel hfresh => simpa [earlier, htunnel] using hclosed
  | otherCommand => exact hclosed
  | monitorTick hpending =>
    simpa only [earlier, engineMonitor_tunnelFd, engineMonitor_detached] using hclosed
  | worker h =>
    rw [h.eq]
    exact hclosed

theorem noLeak_initial : NoLeak {} :=
  ⟨inv_initial, ⟨nofun, nofun⟩, nofun⟩

/-- **The TUN descriptor is conserved exactly when** no stop finds an engine: every descriptor
    that was detached is closed once whenever `stopTunnel` has returned, in the runs in which
    no `stopTunnel` that returns was called with a started engine. -/
theorem tun_descriptor_conserved_iff (as : List Action) :
    AllSteps step Conserves {} as ↔ AllSteps step StopsWithoutEngine {} as :=
  allSteps_congr (fun _ a hs => hs.conserves_iff a) (fun _ _ _ hs hok ht => hs.step hok ht)
    noLeak_initial as

/-- A start whose engine runs. -/
def started : List Action :=
  [.actionStart (some (ascii "/data/app/files/t.yml"))
      ⟨some (ascii "/data/app/files/t.yml"), some (ascii "/data/app/files", ascii "/data/app/cache"),
        .descriptor 42, true, true⟩,
    .worker (.tunnelInit true 0 true)]

/-- A stop of the running engine returns, the worker has ended, and the descriptor is open. -/
theorem started_stop_leaks : ¬ ∀ as, AllSteps step Conserves {} as := by
  intro hall
  have hrun : ((run step {} started).bind fun s =>
      (step s (.actionStop [.leaves])).map (·.detached)) = some [⟨42, 0⟩] := by decide
  obtain ⟨s, hs, hstop⟩ := Option.bind_eq_some_iff.mp hrun
  obtain ⟨t, ht, hdetached⟩ := Option.map_eq_some_iff.mp hstop
  have hconserves : Conserves s (.actionStop [.leaves]) :=
    (hall (started ++ [.actionStop [.leaves]])).after_run hs
  have hclosed := (hconserves t ht).2 rfl ⟨42, 0⟩ (by simp [hdetached])
  exact absurd hclosed (by decide)

end DarkMed.Vpn
