import DarkMed.Lib.Transition

/-!
# The Protected Route State Machine

`ProtectedRouteState.kt`: the six fields that the VPN service reports as its
security state, the two predicates the UI reads from them (`isProtected`,
`isFailClosed`) and the operations of `ProtectedRouteStateMachine`.

The documented contract (state matrix, rows PROXY_READY, READY and FAILED) asks
two things of every run of these operations:

- a READY phase is only claimed for a complete chain, and
- a failed route stays closed until it is started again or stopped.

The operations do not check the state they are applied to, so neither holds of
every run.  The two main results say of which runs they hold.
-/

namespace DarkMed.ProtectedRoute

open DarkMed.Lib.Transition

/-! ## State -/

/-- `enum class ProtectedRoutePhase` -/
inductive ProtectedRoutePhase where
  | stopped
  | starting
  | tunEstablished
  | torStarting
  | torReady
  | tun2socksStarting
  | proxyReady
  | «protected»
  | ready
  | degraded
  | stopping
  | failed
  | killed
  deriving DecidableEq, Repr

/-- `data class ProtectedRouteState`, with its default arguments. -/
structure ProtectedRouteState where
  phase : ProtectedRoutePhase := .stopped
  tunEstablished : Bool := false
  torReady : Bool := false
  proxyReady : Bool := false
  upstreamProtected : Bool := false
  fatalReason : Option String := none
  deriving DecidableEq, Repr

namespace ProtectedRouteState

/-- `val isProtected` -/
def isProtected (s : ProtectedRouteState) : Bool :=
  s.phase == .ready &&
    s.tunEstablished && s.torReady && s.proxyReady && s.upstreamProtected && s.fatalReason == none

/-- The phases that `isFailClosed` lists. -/
def closedPhases : List ProtectedRoutePhase :=
  [.degraded, .failed, .killed, .stopping]

/-- `val isFailClosed` -/
def isFailClosed (s : ProtectedRouteState) : Bool :=
  closedPhases.contains s.phase || (s.tunEstablished && !s.isProtected)

end ProtectedRouteState

/-! ## `object ProtectedRouteStateMachine` -/

namespace ProtectedRouteStateMachine

def starting : ProtectedRouteState := { phase := .starting }

def torStarting (state : ProtectedRouteState) : ProtectedRouteState :=
  { state with phase := .torStarting, fatalReason := none }

def torReady (state : ProtectedRouteState) : ProtectedRouteState :=
  { state with phase := .torReady, torReady := true, fatalReason := none }

def tunEstablished (state : ProtectedRouteState) : ProtectedRouteState :=
  { state with phase := .tunEstablished, tunEstablished := true, fatalReason := none }

def proxyStarting (state : ProtectedRouteState) : ProtectedRouteState :=
  { state with phase := .tun2socksStarting, fatalReason := none }

def proxyReady (state : ProtectedRouteState) (upstreamProtected : Bool) : ProtectedRouteState :=
  { state with
    phase := if upstreamProtected then .ready else .degraded
    proxyReady := true
    upstreamProtected := upstreamProtected
    fatalReason :=
      if upstreamProtected then none else some "upstream socket protection was not verified" }

def failed (state : ProtectedRouteState) (reason : String) : ProtectedRouteState :=
  { state with
    phase := .failed
    fatalReason := some reason
    torReady := false
    proxyReady := false
    upstreamProtected := false }

def killed (state : ProtectedRouteState) (reason : String) : ProtectedRouteState :=
  { state with
    phase := .killed
    fatalReason := some reason
    torReady := false
    proxyReady := false
    upstreamProtected := false }

def stopping (state : ProtectedRouteState) : ProtectedRouteState :=
  { state with phase := .stopping, fatalReason := none }

def stopped : ProtectedRouteState := {}

end ProtectedRouteStateMachine

/-! ## Runs of operations -/

/-- An operation of the state machine, with its arguments. -/
inductive Operation where
  | starting
  | torStarting
  | torReady
  | tunEstablished
  | proxyStarting
  | proxyReady (upstreamProtected : Bool)
  | failed (reason : String)
  | killed (reason : String)
  | stopping
  | stopped
  deriving DecidableEq, Repr

namespace Operation

/-- The state that an operation returns for the current state. -/
def apply (s : ProtectedRouteState) : Operation → ProtectedRouteState
  | .starting => ProtectedRouteStateMachine.starting
  | .torStarting => ProtectedRouteStateMachine.torStarting s
  | .torReady => ProtectedRouteStateMachine.torReady s
  | .tunEstablished => ProtectedRouteStateMachine.tunEstablished s
  | .proxyStarting => ProtectedRouteStateMachine.proxyStarting s
  | .proxyReady b => ProtectedRouteStateMachine.proxyReady s b
  | .failed reason => ProtectedRouteStateMachine.failed s reason
  | .killed reason => ProtectedRouteStateMachine.killed s reason
  | .stopping => ProtectedRouteStateMachine.stopping s
  | .stopped => ProtectedRouteStateMachine.stopped

/-- `starting()` and `stopped()` take no state: they begin a new route. -/
def isReset : Operation → Bool
  | .starting | .stopped => true
  | _ => false

/-- The two operations that report a fatal failure. -/
def isFailure : Operation → Bool
  | .failed _ | .killed _ => true
  | _ => false

/-- The phase that an operation leaves the route in. -/
def phase : Operation → ProtectedRoutePhase
  | .starting => .starting
  | .torStarting => .torStarting
  | .torReady => .torReady
  | .tunEstablished => .tunEstablished
  | .proxyStarting => .tun2socksStarting
  | .proxyReady b => if b then .ready else .degraded
  | .failed _ => .failed
  | .killed _ => .killed
  | .stopping => .stopping
  | .stopped => .stopped

/-- No operation looks at the phase it replaces. -/
@[simp] theorem phase_apply (s : ProtectedRouteState) (op : Operation) :
    (op.apply s).phase = op.phase := by
  cases op <;> rfl

end Operation

/-- The state after a sequence of operations that starts from `stopped()`. -/
def after (ops : List Operation) : ProtectedRouteState :=
  ops.foldl Operation.apply ProtectedRouteStateMachine.stopped

theorem after_append (ops more : List Operation) :
    after (ops ++ more) = more.foldl Operation.apply (after ops) :=
  List.foldl_append

/-! ## Facts about single states -/

/-- The two predicates the UI reads never hold together. -/
theorem not_isFailClosed_of_isProtected {s : ProtectedRouteState} (h : s.isProtected = true) :
    s.isFailClosed = false := by
  have hphase : s.phase = .ready := by
    simp only [ProtectedRouteState.isProtected, Bool.and_eq_true, beq_iff_eq] at h
    exact h.1.1.1.1.1
  simp [ProtectedRouteState.isFailClosed, ProtectedRouteState.closedPhases, h, hphase]

/-- Only a `ready` phase can be protected. -/
theorem isProtected_eq_false_of_phase_ne {s : ProtectedRouteState} (h : s.phase ≠ .ready) :
    s.isProtected = false := by
  have hphase : (s.phase == .ready) = false := beq_eq_false_iff_ne.mpr h
  simp [ProtectedRouteState.isProtected, hphase]

/-- Outside the phases that close by themselves, a route that is not protected is closed
    exactly when its TUN interface is up. -/
theorem isFailClosed_of_phase_notMem {s : ProtectedRouteState}
    (hphase : s.phase ∉ ProtectedRouteState.closedPhases) (h : s.isProtected = false) :
    s.isFailClosed = s.tunEstablished := by
  simp [ProtectedRouteState.isFailClosed, h, hphase]

theorem isFailClosed_of_phase_mem {s : ProtectedRouteState}
    (hphase : s.phase ∈ ProtectedRouteState.closedPhases) : s.isFailClosed = true := by
  simp [ProtectedRouteState.isFailClosed, hphase]

/-- `proxyReady(true)` protects the route exactly when the rest of the chain was up. -/
theorem isProtected_proxyReady_true (s : ProtectedRouteState) :
    (ProtectedRouteStateMachine.proxyReady s true).isProtected =
      (s.tunEstablished && s.torReady) := by
  simp [ProtectedRouteState.isProtected, ProtectedRouteStateMachine.proxyReady]

/-! ## A failed route stays closed -/

/-- What the contract asks of a route from a failure on. -/
def ClosedAfterFailure (s : ProtectedRouteState) : Prop :=
  s.isProtected = false ∧ s.isFailClosed = true

/-- The operations that leave a route closed, given the state they are applied to.  The
    progress operations overwrite the phase, and what is left to close the route then is
    the TUN interface. -/
def StaysClosed (s : ProtectedRouteState) : Operation → Prop
  | .failed _ | .killed _ | .stopping | .proxyReady false => True
  | .tunEstablished => True
  | .torStarting | .torReady | .proxyStarting => s.tunEstablished = true
  | .proxyReady true => s.tunEstablished = true ∧ s.torReady = false
  | .starting | .stopped => False

theorem closedAfterFailure_of_phase_mem {s : ProtectedRouteState}
    (h : s.phase ∈ ProtectedRouteState.closedPhases) : ClosedAfterFailure s := by
  refine ⟨isProtected_eq_false_of_phase_ne ?_, isFailClosed_of_phase_mem h⟩
  intro hready
  rw [hready] at h
  exact absurd h (by decide)

/-- An operation that moves to a closed phase closes the route, whatever state it finds. -/
theorem closedAfterFailure_apply_of_phase {op : Operation}
    (h : op.phase ∈ ProtectedRouteState.closedPhases) (s : ProtectedRouteState) :
    ClosedAfterFailure (op.apply s) :=
  closedAfterFailure_of_phase_mem (by rw [Operation.phase_apply]; exact h)

theorem phase_mem_of_isFailure {op : Operation} (hop : op.isFailure = true) :
    op.phase ∈ ProtectedRouteState.closedPhases := by
  cases op with
  | failed reason => simp [Operation.phase, ProtectedRouteState.closedPhases]
  | killed reason => simp [Operation.phase, ProtectedRouteState.closedPhases]
  | _ => cases hop

/-- A progress operation puts the route in a phase that neither protects nor closes it. -/
private theorem closedAfterFailure_iff_tun {op : Operation} (hready : op.phase ≠ .ready)
    (hphase : op.phase ∉ ProtectedRouteState.closedPhases) (s : ProtectedRouteState) :
    ClosedAfterFailure (op.apply s) ↔ (op.apply s).tunEstablished = true := by
  have hp : (op.apply s).isProtected = false :=
    isProtected_eq_false_of_phase_ne (by rw [Operation.phase_apply]; exact hready)
  have hc : (op.apply s).isFailClosed = (op.apply s).tunEstablished :=
    isFailClosed_of_phase_notMem (by rw [Operation.phase_apply]; exact hphase) hp
  simp [ClosedAfterFailure, hp, hc]

/-- **Step lemma**: an operation that begins no new route leaves it closed exactly when
    `StaysClosed` holds of it in the state before. -/
theorem closedAfterFailure_apply_iff (s : ProtectedRouteState) {op : Operation}
    (hop : op.isReset = false) : ClosedAfterFailure (op.apply s) ↔ StaysClosed s op := by
  cases op with
  | starting => cases hop
  | stopped => cases hop
  | failed reason =>
    exact iff_of_true (closedAfterFailure_apply_of_phase (phase_mem_of_isFailure rfl) s) trivial
  | killed reason =>
    exact iff_of_true (closedAfterFailure_apply_of_phase (phase_mem_of_isFailure rfl) s) trivial
  | stopping => exact iff_of_true (closedAfterFailure_apply_of_phase (by decide) s) trivial
  | torStarting => exact closedAfterFailure_iff_tun (by decide) (by decide) s
  | torReady => exact closedAfterFailure_iff_tun (by decide) (by decide) s
  | proxyStarting => exact closedAfterFailure_iff_tun (by decide) (by decide) s
  | tunEstablished =>
    have htun : (Operation.tunEstablished.apply s).tunEstablished = true := rfl
    exact iff_of_true ((closedAfterFailure_iff_tun (by decide) (by decide) s).mpr htun) trivial
  | proxyReady b =>
    cases b with
    | false => exact iff_of_true (closedAfterFailure_apply_of_phase (by decide) s) trivial
    | true =>
      -- READY: the route is protected when Tor was up, and open when the TUN was down
      have hprot : ((Operation.proxyReady true).apply s).isProtected =
          (s.tunEstablished && s.torReady) := isProtected_proxyReady_true s
      have htun : ((Operation.proxyReady true).apply s).tunEstablished = s.tunEstablished := rfl
      simp only [ClosedAfterFailure, StaysClosed, ProtectedRouteState.isFailClosed, hprot, htun,
        Operation.phase_apply]
      cases s.tunEstablished <;> cases s.torReady <;> decide

/-- **Once failed, closed until restart, exactly when** every operation that follows the
    failure leaves the route closed.  An operation such as `torReady` that arrives after a
    failure without a TUN interface opens the route, and `proxyReady(true)` after
    `torReady` makes a failed route protected again. -/
theorem closed_after_failure_iff (pre suf : List Operation) (failure : Operation)
    (hfailure : failure.isFailure = true) (hsuf : ∀ op ∈ suf, op.isReset = false) :
    (∀ mid, mid <+: suf → ClosedAfterFailure (after (pre ++ failure :: mid))) ↔
      AllSteps (total Operation.apply) StaysClosed (after (pre ++ [failure])) suf := by
  have hfirst : ClosedAfterFailure (after (pre ++ [failure])) := by
    rw [after_append]
    exact closedAfterFailure_apply_of_phase (phase_mem_of_isFailure hfailure) (after pre)
  rw [← forall_prefix_iff_allSteps hfirst fun s op hop _ => closedAfterFailure_apply_iff s (hsuf op hop)]
  refine forall_congr' fun mid => imp_congr_right fun _ => ?_
  rw [← after_append, List.append_assoc, List.singleton_append]

/-- A failure followed by a stop request only. -/
theorem closed_after_failure_then_stopping :
    (∀ mid, mid <+: [Operation.stopping] →
      ClosedAfterFailure
        (after ([.starting, .tunEstablished] ++ .failed "tun2socks worker stopped" :: mid))) ↔
    AllSteps (total Operation.apply) StaysClosed
      (after ([.starting, .tunEstablished] ++ [.failed "tun2socks worker stopped"])) [.stopping] :=
  closed_after_failure_iff [.starting, .tunEstablished] [.stopping]
    (.failed "tun2socks worker stopped") rfl (by decide)

/-- A failed route that Tor's late `torReady` and a `proxyReady(true)` report as protected,
    with no restart in between. -/
theorem failed_route_protected_again :
    ¬ ∀ (pre suf : List Operation) (failure : Operation), failure.isFailure = true →
      (∀ op ∈ suf, op.isReset = false) → ClosedAfterFailure (after (pre ++ failure :: suf)) := by
  intro h
  have hclosed := h [.starting, .tunEstablished] [.torReady, .proxyReady true]
    (.failed "tun2socks worker stopped") rfl (by decide)
  exact absurd hclosed.1 (by decide)

/-! ## READY is claimed for a complete chain only -/

/-- What the contract asks of a READY phase. -/
def ReadySound (s : ProtectedRouteState) : Prop :=
  (s.phase = .ready → s.isProtected = true) ∧
    ¬ (s.phase = .ready ∧ s.isProtected = false ∧ s.isFailClosed = false)

/-- `proxyReady(true)` finds the TUN interface and Tor up. -/
def ChainComplete (s : ProtectedRouteState) (op : Operation) : Prop :=
  op = .proxyReady true → s.tunEstablished = true ∧ s.torReady = true

theorem readySound_of_phase_ne {s : ProtectedRouteState} (h : s.phase ≠ .ready) :
    ReadySound s :=
  ⟨fun hready => absurd hready h, fun hready => h hready.1⟩

theorem eq_proxyReady_of_phase_eq_ready {op : Operation} (h : op.phase = .ready) :
    op = .proxyReady true := by
  cases op with
  | proxyReady b =>
    cases b with
    | false => cases h
    | true => rfl
  | _ => cases h

/-- **Step lemma**: only `proxyReady(true)` claims READY, and the claim is sound exactly when
    the rest of the chain is up. -/
theorem readySound_apply_iff (s : ProtectedRouteState) (op : Operation) :
    ReadySound (op.apply s) ↔ ChainComplete s op := by
  by_cases hop : op = .proxyReady true
  · subst hop
    have hphase : ((Operation.proxyReady true).apply s).phase = .ready := rfl
    have hprot : ((Operation.proxyReady true).apply s).isProtected =
        (s.tunEstablished && s.torReady) := isProtected_proxyReady_true s
    simp only [ReadySound, ChainComplete, hphase, hprot, forall_const, true_and,
      Bool.and_eq_true]
    exact ⟨fun h => h.1, fun h => ⟨h, fun hbad => by simp [h.1, h.2] at hbad⟩⟩
  -- any other operation leaves another phase, of which nothing is asked
  · have hphase : (op.apply s).phase ≠ .ready := by
      rw [Operation.phase_apply]
      exact fun h => hop (eq_proxyReady_of_phase_eq_ready h)
    exact ⟨fun _ h => absurd h hop, fun _ => readySound_of_phase_ne hphase⟩

/-- **READY without the whole chain, exactly when** some `proxyReady(true)` is applied while the
    TUN interface or Tor is down: it checks neither. -/
theorem ready_sound_iff (ops : List Operation) :
    (∀ pre, pre <+: ops → ReadySound (after pre)) ↔
      AllSteps (total Operation.apply) ChainComplete ProtectedRouteStateMachine.stopped ops :=
  forall_prefix_iff_allSteps (readySound_of_phase_ne (by decide))
    fun s op _ _ => readySound_apply_iff s op

/-- `proxyReady(true)` on a stopped route: READY, not protected and not closed. -/
theorem stopped_route_claims_ready :
    ¬ ∀ ops : List Operation, ReadySound (after ops) := by
  intro h
  exact (h [.proxyReady true]).2 (by decide)

/-! ## What a protected route has behind it -/

/-- The operations after which Tor has to report itself ready again. -/
def Operation.clearsTor (op : Operation) : Bool :=
  op.isReset || op.isFailure

theorem torReady_after_iff (ops : List Operation) :
    (after ops).torReady = true ↔
      Since (fun op => op = .torReady) (fun op => op.clearsTor = true) ops := by
  refine flag_foldl_iff ?_ ?_ ?_ rfl ops
  · rintro s op rfl
    rfl
  · intro s op _ hclears
    cases op with
    | starting | stopped | failed | killed => rfl
    | _ => cases hclears
  · intro s op hset hclears
    cases op with
    | torReady => exact absurd rfl hset
    | starting | stopped | failed | killed => exact absurd rfl hclears
    | _ => rfl

/-- A failure keeps the TUN interface: only a new route gives it up. -/
theorem tunEstablished_after_iff (ops : List Operation) :
    (after ops).tunEstablished = true ↔
      Since (fun op => op = .tunEstablished) (fun op => op.isReset = true) ops := by
  refine flag_foldl_iff ?_ ?_ ?_ rfl ops
  · rintro s op rfl
    rfl
  · intro s op _ hreset
    cases op with
    | starting | stopped => rfl
    | _ => cases hreset
  · intro s op hset hreset
    cases op with
    | tunEstablished => exact absurd rfl hset
    | starting | stopped => exact absurd rfl hreset
    | _ => rfl

theorem since_proxyReady_iff {op : Operation} {clears : Operation → Bool} {pre : List Operation}
    (hop : op ≠ .proxyReady true) (hclears : clears (.proxyReady true) = false) :
    Since (fun x => x = op) (fun x => clears x = true) (pre ++ [.proxyReady true]) ↔
      Since (fun x => x = op) (fun x => clears x = true) pre := by
  refine (since_concat_iff fun h => hop h.symm).trans ?_
  simp [hclears]

/-- **A route is protected exactly when** `proxyReady(true)` is its last operation, Tor has
    reported itself ready since the last operation that clears Tor, and the TUN interface has
    been established since the route was begun. -/
theorem isProtected_after_iff (ops : List Operation) :
    (after ops).isProtected = true ↔
      ops.getLast? = some (.proxyReady true) ∧
        Since (fun op => op = .torReady) (fun op => op.clearsTor = true) ops ∧
        Since (fun op => op = .tunEstablished) (fun op => op.isReset = true) ops := by
  induction ops using List.reverseRecOn with
  | nil => exact iff_of_false (by decide) (fun h => nomatch h.1)
  | append_singleton pre op _ =>
    have hafter : after (pre ++ [op]) = op.apply (after pre) := after_append pre [op]
    rw [List.getLast?_concat, Option.some.injEq, hafter]
    by_cases hop : op = .proxyReady true
    · subst hop
      have hprot := isProtected_proxyReady_true (after pre)
      simp only [Operation.apply, hprot, Bool.and_eq_true, true_and]
      rw [since_proxyReady_iff (by decide) rfl, since_proxyReady_iff (by decide) rfl,
        ← torReady_after_iff, ← tunEstablished_after_iff, and_comm]
    · have hphase : (op.apply (after pre)).phase ≠ .ready := by
        rw [Operation.phase_apply]
        exact fun h => hop (eq_proxyReady_of_phase_eq_ready h)
      rw [isProtected_eq_false_of_phase_ne hphase]
      exact iff_of_false Bool.false_ne_true fun h => hop h.1

example : (after [.starting, .torReady, .tunEstablished, .failed "lost", .torReady,
    .proxyReady true]).isProtected = true := by decide

end DarkMed.ProtectedRoute
