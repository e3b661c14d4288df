import DarkMed.Lib.Kotlin
import DarkMed.Lib.Transition

/-!
# Clearing All Data

The reducer of `ClearAllDataFlow.kt` and `SettingsScreen` of `MainActivity.kt` around it:
the button, the dialog's callbacks, and the coroutines that wipe.

A callback belongs to the screen as it was last composed, and reads the state as it is when
it is delivered.  Between two compositions any number of callbacks may be delivered.
-/

namespace DarkMed.Settings

open DarkMed.Lib DarkMed.Lib.Transition

/-! ## Reducer -/

inductive ClearAllDataPhase where
  | idle
  | confirmation
  | wiping
  | completed
  | failed
  deriving DecidableEq, Repr

structure ClearAllDataState where
  phase : ClearAllDataPhase := .idle
  message : Option JString := none
  deriving DecidableEq, Repr

inductive ClearAllDataEvent where
  | startConfirmation
  | cancelled
  | dismissed
  | confirmed
  | wipeCompleted
  | wipeFailed (message : JString)
  deriving DecidableEq, Repr

/-- `ClearAllDataReducer.reduce` -/
def reduce (state : ClearAllDataState) (event : ClearAllDataEvent) : ClearAllDataState :=
  match state.phase with
  | .idle =>
    match event with
    | .startConfirmation => { phase := .confirmation }
    | _ => state
  | .confirmation =>
    match event with
    | .cancelled | .dismissed => { phase := .idle }
    | .confirmed => { phase := .wiping }
    | _ => state
  | .wiping =>
    match event with
    | .wipeCompleted => { phase := .completed }
    | .wipeFailed message => { phase := .failed, message := some message }
    | _ => state
  | .completed | .failed =>
    match event with
    | .startConfirmation => { phase := .confirmation }
    | _ => state

/-! ## Screen -/

/-- The string resources that the screen formats its result with. -/
structure Texts where
  /-- `R.string.wipe_completed` -/
  wipeCompleted : JString
  /-- `R.string.wipe_failed`, formatted with a reason. -/
  wipeFailed : JString → JString

inductive DataWipeResult where
  | completed
  | failed (reason : JString)
  deriving DecidableEq, Repr

structure Screen where
  result : Option JString := none
  wipeState : ClearAllDataState := {}
  /-- The phase that the screen was last composed in. -/
  composed : ClearAllDataPhase := .idle
  /-- Wipes that were launched and have not completed. -/
  inFlight : Nat := 0
  /-- The phases in which a wipe was launched, the last one first; nothing reads them. -/
  launches : List ClearAllDataPhase := []
  /-- How often the reducer went from Confirmation to Wiping; nothing reads it. -/
  confirmations : Nat := 0
  deriving DecidableEq, Repr

inductive Callback where
  /-- `onClick` of the clear button -/
  | clear
  /-- `onDismissRequest` -/
  | dismiss
  /-- `onClick` of the dismiss button -/
  | cancel
  /-- `onClick` of the confirm button -/
  | confirm
  /-- A wipe ends, and its coroutine goes on. -/
  | wiped (wipeResult : DataWipeResult)
  | recompose
  deriving DecidableEq, Repr

namespace Screen

/-- `wipeState = ClearAllDataReducer.reduce(wipeState, event)` -/
def dispatch (s : Screen) (event : ClearAllDataEvent) : Screen :=
  let wipeState := reduce s.wipeState event
  { s with
    wipeState
    confirmations :=
      if s.wipeState.phase = .confirmation ∧ wipeState.phase = .wiping then s.confirmations + 1
      else s.confirmations }

/-- `wipeScope.launch { … wipeAfterConfirmation() … }` -/
def launch (s : Screen) (phase : ClearAllDataPhase) : Screen :=
  { s with inFlight := s.inFlight + 1, launches := phase :: s.launches }

/-- The coroutine behind `wipeAfterConfirmation`. -/
def wiped (texts : Texts) (s : Screen) : DataWipeResult → Screen
  | .completed => { s.dispatch .wipeCompleted with result := some texts.wipeCompleted }
  | .failed reason =>
    let message := texts.wipeFailed reason
    { s.dispatch (.wipeFailed message) with result := some message }

/-- A callback, if the composed screen has it. -/
def step (texts : Texts) (s : Screen) : Callback → Option Screen
  | .clear => if s.composed ≠ .wiping then some (s.dispatch .startConfirmation) else none
  -- the dialog, and its callbacks with it, is there only in the phase Confirmation
  | .dismiss => if s.composed = .confirmation then some (s.dispatch .dismissed) else none
  | .cancel => if s.composed = .confirmation then some (s.dispatch .cancelled) else none
  | .confirm =>
    if s.composed = .confirmation then
      -- the coroutine is launched whatever the reducer made of the event
      some ((s.dispatch .confirmed).launch s.wipeState.phase)
    else none
  | .wiped wipeResult =>
    if 0 < s.inFlight then some (wiped texts { s with inFlight := s.inFlight - 1 } wipeResult)
    else none
  | .recompose => some { s with composed := s.wipeState.phase }

/-! ## One confirmation, one wipe -/

/-- The wipes are those that were confirmed: as many as confirmations, each of them launched by
    its own, one at a time, and with its outcome on the screen. -/
structure OneWipe (texts : Texts) (s : Screen) : Prop where
  launches : s.launches.length = s.confirmations
  confirmed : ∀ phase ∈ s.launches, phase = .confirmation
  single : s.inFlight ≤ 1
  completed : s.inFlight = 0 → s.wipeState.phase = .completed →
    s.result = some texts.wipeCompleted
  failed : s.inFlight = 0 → s.wipeState.phase = .failed →
    ∃ reason, s.wipeState.message = some (texts.wipeFailed reason) ∧
      s.result = some (texts.wipeFailed reason)

/-- A click on the confirm button is delivered while there is something to confirm: no callback
    of the same dialog has confirmed, cancelled or dismissed it before. -/
def StillAsked (s : Screen) (c : Callback) : Prop :=
  c = .confirm → s.composed = .confirmation → s.wipeState.phase = .confirmation

/-- What a run keeps in which every confirmation is asked for: a wipe is in flight exactly in the
    phase Wiping. -/
structure Inv (texts : Texts) (s : Screen) : Prop where
  oneWipe : OneWipe texts s
  tracked : (s.wipeState.phase = .wiping ∧ s.inFlight = 1) ∨
    (s.wipeState.phase ≠ .wiping ∧ s.inFlight = 0)

theorem inv_empty (texts : Texts) : Inv texts {} where
  oneWipe := ⟨rfl, List.forall_mem_nil _, Nat.zero_le _, nofun, nofun⟩
  tracked := .inr ⟨nofun, rfl⟩

section Steps

variable {texts : Texts} {s t : Screen}

/-- Outside a wipe, the button and the ways out of the dialog lead to it or back from it. -/
theorem reduce_of_dialog {state : ClearAllDataState} {event : ClearAllDataEvent}
    (hevent : event = .startConfirmation ∨ event = .cancelled ∨ event = .dismissed) :
    reduce state event = state ∨ state.phase ≠ .wiping ∧
      ((reduce state event).phase = .idle ∨ (reduce state event).phase = .confirmation) := by
  unfold reduce
  rcases hevent with rfl | rfl | rfl <;> cases hphase : state.phase <;> simp

theorem Inv.dispatch (h : Inv texts s) {event : ClearAllDataEvent}
    (hevent : event = .startConfirmation ∨ event = .cancelled ∨ event = .dismissed) :
    Inv texts (s.dispatch event) := by
  obtain ⟨hlaunches, hconfirmed, hsingle, hcompleted, hfailed⟩ := h.oneWipe
  rcases @reduce_of_dialog s.wipeState event hevent with hsame | ⟨hwiping, hphase⟩
  · -- the reducer ignores the event
    have hdispatch : s.dispatch event = s := by
      have hphase : ¬ (s.wipeState.phase = .confirmation ∧ s.wipeState.phase = .wiping) := by
        rintro ⟨hconfirmation, hwiping⟩
        exact absurd (hconfirmation.symm.trans hwiping) nofun
      simp [Screen.dispatch, hsame, hphase]
    rwa [hdispatch]
  · -- the event leads to Idle or Confirmation, where no wipe is in flight and none has a result
    have hnone : s.inFlight = 0 := by
      rcases h.tracked with ⟨hphase, -⟩ | ⟨-, hnone⟩
      · exact absurd hphase hwiping
      · exact hnone
    have hconfirmations : (s.dispatch event).confirmations = s.confirmations := by
      rcases hphase with hphase | hphase <;> simp [Screen.dispatch, hphase]
    have hother : ∀ phase, phase ≠ .idle → phase ≠ .confirmation →
        (s.dispatch event).wipeState.phase ≠ phase := by
      rintro phase hidle hconfirmation rfl
      exact hphase.elim hidle hconfirmation
    refine ⟨⟨hconfirmations ▸ hlaunches, hconfirmed, hsingle, fun _ hdone => ?_, fun _ hdone => ?_⟩,
      .inr ⟨hother _ nofun nofun, hnone⟩⟩
    · exact absurd hdone (hother _ nofun nofun)
    · exact absurd hdone (hother _ nofun nofun)

/-- A confirmation that is asked for starts the wipe that it counts. -/
theorem Inv.confirm (h : Inv texts s) (hphase : s.wipeState.phase = .confirmation) :
    Inv texts ((s.dispatch .confirmed).launch s.wipeState.phase) := by
  obtain ⟨hlaunches, hconfirmed, -, -, -⟩ := h.oneWipe
  have hnone : s.inFlight = 0 := by
    rcases h.tracked with ⟨hwiping, -⟩ | ⟨-, hnone⟩
    · exact absurd (hphase.symm.trans hwiping) nofun
    · exact hnone
  have hreduce : reduce s.wipeState .confirmed = { phase := .wiping } := by simp [reduce, hphase]
  have hdispatch : s.dispatch .confirmed =
      { s with wipeState := { phase := .wiping }, confirmations := s.confirmations + 1 } := by
    simp [Screen.dispatch, hreduce, hphase]
  rw [hdispatch, hphase]
  -- one launch and one confirmation more; the result is that of the wipe to come
  refine ⟨⟨?_, ?_, ?_, ?_, ?_⟩, .inl ⟨rfl, ?_⟩⟩
  · simp [launch, hlaunches]
  · exact List.forall_mem_cons.mpr ⟨rfl, hconfirmed⟩
  · simp [launch, hnone]
  · exact fun hzero => absurd hzero (Nat.succ_ne_zero _)
  · exact fun hzero => absurd hzero (Nat.succ_ne_zero _)
  · simp [launch, hnone]

/-- The wipe in flight ends in the phase of its result. -/
theorem Inv.wiped (h : Inv texts s) (hflight : 0 < s.inFlight) (wipeResult : DataWipeResult) :
    Inv texts (Screen.wiped texts { s with inFlight := s.inFlight - 1 } wipeResult) := by
  obtain ⟨hlaunches, hconfirmed, -, -, -⟩ := h.oneWipe
  -- a wipe that ends was the only one, so its event finds the phase Wiping
  obtain ⟨hphase, hone⟩ : s.wipeState.phase = .wiping ∧ s.inFlight = 1 := by
    rcases h.tracked with hwiping | ⟨-, hnone⟩
    · exact hwiping
    · omega
  cases wipeResult with
  | completed =>
    have hreduce : reduce s.wipeState .wipeCompleted = { phase := .completed } := by
      simp [reduce, hphase]
    refine ⟨⟨?_, ?_, ?_, ?_, ?_⟩, .inr ⟨?_, ?_⟩⟩ <;>
      simp [Screen.wiped, Screen.dispatch, hreduce, hphase, hone, hlaunches]
    exact hconfirmed
  | failed reason =>
    have hreduce : reduce s.wipeState (.wipeFailed (texts.wipeFailed reason)) =
        { phase := .failed, message := some (texts.wipeFailed reason) } := by
      simp [reduce, hphase]
    refine ⟨⟨?_, ?_, ?_, ?_, ?_⟩, .inr ⟨?_, ?_⟩⟩ <;>
      simp [Screen.wiped, Screen.dispatch, hreduce, hphase, hone, hlaunches]
    exact hconfirmed

/-- What a callback of the composed screen does. -/
theorem step_cases {c : Callback} (ht : s.step texts c = some t) :
    (∃ event, (event = .startConfirmation ∨ event = .cancelled ∨ event = .dismissed) ∧
      t = s.dispatch event) ∨
    (c = .confirm ∧ s.composed = .confirmation ∧
      t = (s.dispatch .confirmed).launch s.wipeState.phase) ∨
    (∃ wipeResult, 0 < s.inFlight ∧
      t = Screen.wiped texts { s with inFlight := s.inFlight - 1 } wipeResult) ∨
    t = { s with composed := s.wipeState.phase } := by
  cases c with
  | clear =>
    obtain ⟨-, heq⟩ := Option.ite_none_right_eq_some.mp ht
    exact .inl ⟨_, .inl rfl, (Option.some.inj heq).symm⟩
  | dismiss =>
    obtain ⟨-, heq⟩ := Option.ite_none_right_eq_some.mp ht
    exact .inl ⟨_, .inr (.inr rfl), (Option.some.inj heq).symm⟩
  | cancel =>
    obtain ⟨-, heq⟩ := Option.ite_none_right_eq_some.mp ht
    exact .inl ⟨_, .inr (.inl rfl), (Option.some.inj heq).symm⟩
  | confirm =>
    obtain ⟨hcomposed, heq⟩ := Option.ite_none_right_eq_some.mp ht
    exact .inr (.inl ⟨rfl, hcomposed, (Option.some.inj heq).symm⟩)
  | wiped wipeResult =>
    obtain ⟨hflight, heq⟩ := Option.ite_none_right_eq_some.mp ht
    exact .inr (.inr (.inl ⟨wipeResult, hflight, (Option.some.inj heq).symm⟩))
  | recompose => exact .inr (.inr (.inr (Option.some.inj ht).symm))

/-- **Step lemma**: a callback that confirms nothing unasked keeps the wipes in order. -/
theorem Inv.step (h : Inv texts s) {c : Callback} (hasked : StillAsked s c)
    (ht : s.step texts c = some t) : Inv texts t := by
  rcases step_cases ht with
    ⟨event, hevent, rfl⟩ | ⟨hc, hcomposed, rfl⟩ | ⟨wipeResult, hflight, rfl⟩ | rfl
  · exact h.dispatch hevent
  · -- the dialog was composed in this phase, and it still holds
    exact h.confirm (hasked hc hcomposed)
  · exact h.wiped hflight wipeResult
  · exact ⟨⟨h.oneWipe.launches, h.oneWipe.confirmed, h.oneWipe.single, h.oneWipe.completed,
      h.oneWipe.failed⟩, h.tracked⟩

/-- A confirmation out of another phase starts a wipe that was not asked for. -/
theorem stillAsked_of_oneWipe {c : Callback} (h : ∀ t, s.step texts c = some t → OneWipe texts t) :
    StillAsked s c := by
  rintro rfl hcomposed
  have hstep : s.step texts .confirm = some ((s.dispatch .confirmed).launch s.wipeState.phase) := by
    simp [Screen.step, hcomposed]
  -- the launch notes the phase it was made in
  exact (h _ hstep).confirmed _ List.mem_cons_self

end Steps

/-- **One confirmation, one wipe, exactly when** every click on the confirm button is delivered
    while its dialog still asks. -/
theorem one_wipe_iff (texts : Texts) (callbacks : List Callback) :
    AllSteps (step texts) (fun s c => ∀ t, s.step texts c = some t → OneWipe texts t) {} callbacks ↔
      AllSteps (step texts) StillAsked {} callbacks := by
  refine allSteps_congr (J := Inv texts)
    (fun s c h => ⟨stillAsked_of_oneWipe, fun hasked t ht => ?_⟩)
    (fun s c t h hone ht => h.step (stillAsked_of_oneWipe hone) ht) (inv_empty texts) callbacks
  exact (h.step hasked ht).oneWipe

/-- Two clicks on the confirm button, before the screen is composed again, start two wipes. -/
theorem second_click_wipes_again :
    ¬ AllSteps (step ⟨[], id⟩) (fun s c => ∀ t, s.step ⟨[], id⟩ c = some t → OneWipe ⟨[], id⟩ t) {}
      [.clear, .recompose, .confirm, .confirm] := by
  intro h
  have hsteps := h.2 _ rfl
  have hsteps := hsteps.2 _ rfl
  have hsteps := hsteps.2 _ rfl
  have hone := hsteps.1 _ rfl
  exact absurd hone.single (by decide)

end Screen

end DarkMed.Settings
