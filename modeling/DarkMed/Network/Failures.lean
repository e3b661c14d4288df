import DarkMed.Network.Orchestrator
import Mathlib.Data.Finset.Basic

/-!
# When Android Throws

`DarkMedNetworkOrchestrator` with every Android call that it makes free to throw: the field
`receiver`, the receivers that are registered with Android, and in which of them a call that
fails leaves something behind.

`startTorThenVpn` stores and registers its receiver before the start that can fail, inside
a `runCatching` that takes neither back.  `stop` and `stopWithError` make their requests
before they release the receiver, and an exception of a request skips the release.

In the two-party system each of these calls returns; the last section says that this model
agrees with it there.
-/

namespace DarkMed.Network.Failures

open DarkMed.Lib

/-- The message of an exception. -/
abbrev Throwable := JString

/-- What each of the Android calls does: it returns, or it throws. -/
structure Android where
  sdkInt : Nat
  /-- `VpnService.prepare(appContext)`; `true` stands for `null`, that is, consent was given. -/
  prepare : Except Throwable Bool := .ok true
  registerReceiver : Except Throwable Unit := .ok ()
  startForegroundService : Except Throwable Unit := .ok ()
  startService : Except Throwable Unit := .ok ()
  /-- `stopService` for `DarkMedVpnService`. -/
  stopVpnService : Except Throwable Unit := .ok ()
  /-- `stopService` for `TorForegroundService`. -/
  stopTorService : Except Throwable Unit := .ok ()
  sendBroadcast : Except Throwable Unit := .ok ()
  unregisterReceiver : Except Throwable Unit := .ok ()

/-- `Build.VERSION_CODES.O` -/
def versionCodeO : Nat := 26

/-- The call that brings a service up: it depends on the version of Android. -/
def Android.start (android : Android) : Except Throwable Unit :=
  if versionCodeO ≤ android.sdkInt then android.startForegroundService else android.startService

/-- A `BroadcastReceiver` object. -/
abbrev Receiver := Nat

/-- The orchestrator's field, and what is registered with Android. -/
structure Orchestrator where
  receiver : Option Receiver := none
  registered : Finset Receiver := ∅
  /-- The receivers that have been constructed so far are the numbers below. -/
  constructed : Nat := 0
  /-- A receiver that is yet to be constructed is not registered. -/
  fresh : ∀ r ∈ registered, r < constructed := by simp

namespace Orchestrator

/-- `val routeReceiver = object : BroadcastReceiver()`, stored in the field. -/
def construct (s : Orchestrator) : Orchestrator where
  receiver := some s.constructed
  registered := s.registered
  constructed := s.constructed + 1
  fresh r hr := Nat.lt_succ_of_lt (s.fresh r hr)

/-- `ContextCompat.registerReceiver`, when it returns, for the receiver constructed last. -/
def register (s : Orchestrator) : Orchestrator where
  receiver := some s.constructed
  registered := insert s.constructed s.registered
  constructed := s.constructed + 1
  fresh r hr := by
    rcases Finset.mem_insert.mp hr with rfl | hr
    · exact Nat.lt_succ_self s.constructed
    · exact Nat.lt_succ_of_lt (s.fresh r hr)

/-- How `startTorThenVpn` ends: with a `Result`, or by an exception. -/
def startTorThenVpn (s : Orchestrator) (android : Android) :
    Orchestrator × Except Throwable (Except Throwable Unit) :=
  match android.prepare with
  | .error e => (s, .error e)
  | .ok false => (s, .ok (.error System.consentRequired))
  | .ok true =>
    if s.receiver.isSome then (s, .ok (.error System.alreadyInProgress))
    else
      match android.registerReceiver with
      | .error e => (s.construct, .error e)
      -- `runCatching`: what the start throws becomes the failure that is returned
      | .ok () => (s.register, .ok android.start)

/-- `unregister`; Android forgets the receiver unless `unregisterReceiver` throws, which
    `runCatching` swallows. -/
def unregister (s : Orchestrator) (android : Android) : Orchestrator where
  receiver := none
  registered :=
    match s.receiver, android.unregisterReceiver with
    | some r, .ok () => s.registered.erase r
    | _, _ => s.registered
  constructed := s.constructed
  fresh r hr := by
    apply s.fresh
    split at hr
    · exact Finset.mem_of_mem_erase hr
    · exact hr

/-- Requests in their order, and the release of the receiver behind them. -/
def release (s : Orchestrator) (android : Android) :
    List (Except Throwable Unit) → Orchestrator × Except Throwable Unit
  | [] => (s.unregister android, .ok ())
  | .ok () :: requests => s.release android requests
  | .error e :: _ => (s, .error e)

def stop (s : Orchestrator) (android : Android) : Orchestrator × Except Throwable Unit :=
  s.release android [android.stopVpnService, android.startService]

def stopWithError (s : Orchestrator) (android : Android) : Orchestrator × Except Throwable Unit :=
  s.release android [android.stopVpnService, android.stopTorService, android.sendBroadcast]

/-! ## A failed start -/

/-- A call that returns `Result.failure` leaves the receiver and the registrations alone. -/
def FailureKeeps (s : Orchestrator) (android : Android) : Prop :=
  ∀ e, (s.startTorThenVpn android).2 = .ok (.error e) →
    (s.startTorThenVpn android).1.receiver = s.receiver ∧
      (s.startTorThenVpn android).1.registered = s.registered

/-- The call gets as far as its last statement, and the start of the service throws. -/
def StartThrows (s : Orchestrator) (android : Android) : Prop :=
  android.prepare = .ok true ∧ s.receiver = none ∧ android.registerReceiver = .ok () ∧
    ∃ e, android.start = .error e

/-- With consent and a receiver newly registered, the call ends as the start of the service does. -/
theorem startTorThenVpn_of_registered {s : Orchestrator} {android : Android}
    (hprepare : android.prepare = .ok true) (hreceiver : s.receiver = none)
    (hregister : android.registerReceiver = .ok ()) :
    s.startTorThenVpn android = (s.register, .ok android.start) := by
  simp [startTorThenVpn, hprepare, hreceiver, hregister]

theorem failureKeeps_iff (s : Orchestrator) (android : Android) :
    s.FailureKeeps android ↔ ¬ s.StartThrows android := by
  constructor
  · rintro hkeeps ⟨hprepare, hreceiver, hregister, e, he⟩
    have hcall := startTorThenVpn_of_registered hprepare hreceiver hregister
    have hkept := (hkeeps e (by rw [hcall, he])).1
    rw [hcall, hreceiver] at hkept
    cases hkept
  · intro hthrows e he
    unfold startTorThenVpn at he ⊢
    cases hprepare : android.prepare with
    | error => exact ⟨rfl, rfl⟩
    | ok consent =>
      cases consent with
      | false => exact ⟨rfl, rfl⟩
      | true =>
        cases hreceiver : s.receiver with
        | some r => simp [hreceiver]
        | none =>
          simp only [hprepare, hreceiver, Option.isSome_none, Bool.false_eq_true, if_false] at he ⊢
          cases hregister : android.registerReceiver with
          | error => rw [hregister] at he; cases he
          | ok =>
            -- the one failure left is that of the start
            rw [hregister] at he
            exact absurd ⟨hprepare, hreceiver, hregister, e, Except.ok.inj he⟩ hthrows

/-- Behind such a failure the next call is refused, whatever Android does by then. -/
theorem refused_of_startThrows {s : Orchestrator} {android : Android}
    (h : s.StartThrows android) (next : Android) (hprepare : next.prepare = .ok true) :
    ((s.startTorThenVpn android).1.startTorThenVpn next).2 =
      .ok (.error System.alreadyInProgress) := by
  obtain ⟨hconsent, hreceiver, hregister, -⟩ := h
  rw [startTorThenVpn_of_registered hconsent hreceiver hregister]
  simp [startTorThenVpn, hprepare, register]

/-! ## The release of the receiver -/

/-- The field is empty, and the receiver it held is no longer registered. -/
def Released (s s' : Orchestrator) : Prop :=
  s'.receiver = none ∧ ∀ r, s.receiver = some r → r ∉ s'.registered

theorem released_unregister_iff (s : Orchestrator) (android : Android) :
    s.Released (s.unregister android) ↔
      ∀ r, s.receiver = some r → android.unregisterReceiver = .ok () ∨ r ∉ s.registered := by
  refine ⟨fun h r hr => ?_, fun h => ⟨rfl, fun r hr => ?_⟩⟩
  · have hgone := h.2 r hr
    simp only [unregister, hr] at hgone
    cases hcall : android.unregisterReceiver with
    | error e => exact .inr (by simpa [hcall] using hgone)
    | ok => exact .inl rfl
  · rcases h r hr with hcall | hgone
    · simp [unregister, hr, hcall]
    · simp only [unregister, hr]
      split
      · exact fun hmem => hgone (Finset.mem_of_mem_erase hmem)
      · exact hgone

/-- **Requests before a release**: it releases the receiver exactly when there is none, or no
    request throws and the release itself goes through. -/
theorem released_release_iff (s : Orchestrator) (android : Android)
    (requests : List (Except Throwable Unit)) :
    s.Released (s.release android requests).1 ↔
      ∀ r, s.receiver = some r → (∀ request ∈ requests, request = .ok ()) ∧
        (android.unregisterReceiver = .ok () ∨ r ∉ s.registered) := by
  induction requests with
  | nil => simpa [release] using released_unregister_iff s android
  | cons request requests ih =>
    cases request with
    | ok => simpa [release] using ih
    | error e =>
      -- the requests behind this one and the release are skipped
      simp only [release, Released, List.forall_mem_cons, reduceCtorEq, false_and, imp_false]
      refine ⟨fun h r hr => absurd (h.1.symm.trans hr) nofun, fun h => ⟨?_, fun r hr => absurd hr (h r)⟩⟩
      exact Option.eq_none_iff_forall_ne_some.mpr h

/-- Every way `stop` ends leaves no receiver. -/
def StopReleases (s : Orchestrator) (android : Android) : Prop :=
  s.Released (s.stop android).1

theorem stopReleases_iff (s : Orchestrator) (android : Android) :
    s.StopReleases android ↔
      ∀ r, s.receiver = some r → android.stopVpnService = .ok () ∧
        android.startService = .ok () ∧
        (android.unregisterReceiver = .ok () ∨ r ∉ s.registered) := by
  simpa [StopReleases, stop, and_assoc] using
    released_release_iff s android [android.stopVpnService, android.startService]

/-- The same for `stopWithError`, behind three requests. -/
theorem stopWithError_released_iff (s : Orchestrator) (android : Android) :
    s.Released (s.stopWithError android).1 ↔
      ∀ r, s.receiver = some r → android.stopVpnService = .ok () ∧
        android.stopTorService = .ok () ∧ android.sendBroadcast = .ok () ∧
        (android.unregisterReceiver = .ok () ∨ r ∉ s.registered) := by
  simpa [stopWithError, and_assoc] using
    released_release_iff s android
      [android.stopVpnService, android.stopTorService, android.sendBroadcast]

/-- **The failure paths.**  A failure that `startTorThenVpn` returns has left nothing behind
    exactly when it is not the start of the service that has thrown; and `stop` leaves no
    receiver behind exactly when there was none, or its two requests return and Android lets go
    of the receiver. -/
theorem failure_paths_iff (s : Orchestrator) (android : Android) :
    (s.FailureKeeps android ↔
      ¬ (android.prepare = .ok true ∧ s.receiver = none ∧ android.registerReceiver = .ok () ∧
        ∃ e, android.start = .error e)) ∧
    (s.StopReleases android ↔
      s.receiver = none ∨
        android.stopVpnService = .ok () ∧ android.startService = .ok () ∧
          (android.unregisterReceiver = .ok () ∨ ∀ r, s.receiver = some r → r ∉ s.registered)) := by
  refine ⟨failureKeeps_iff s android, (stopReleases_iff s android).trans ?_⟩
  cases s.receiver with
  | none => simp
  | some r => simp

/-- On a fresh orchestrator the start of the service throws; and on a route that has been
    started, the first request of `stop` does. -/
theorem failures_leave_receiver :
    (¬ ∀ (s : Orchestrator) (android : Android), s.FailureKeeps android) ∧
      ¬ ∀ (s : Orchestrator) (android : Android), s.StopReleases android := by
  constructor
  · intro h
    have hstart := h {} { sdkInt := 34, startForegroundService := .error (ascii "not allowed") }
    have hkept := (hstart (ascii "not allowed") (by decide)).1
    exact absurd hkept (by decide)
  · intro h
    have hstop := h (startTorThenVpn {} { sdkInt := 34 }).1
      { sdkInt := 34, stopVpnService := .error (ascii "not allowed") }
    exact absurd hstop.1 (by decide)

end Orchestrator

/-! ## Where every call returns -/

/-- Android without an exception. -/
def Android.calm (sdkInt : Nat) (consent : Bool) : Android :=
  { sdkInt, prepare := .ok consent }

/-- **This model extends the two-party system**: where nothing throws, a start answers and stores
    the receiver as there, and a stop gives it up. -/
theorem Orchestrator.startTorThenVpn_calm (s : Orchestrator) (system : System) (sdkInt : Nat) (consent : Bool)
    (hreceiver : s.receiver.isSome = system.receiver) :
    match system.startTorThenVpn consent with
    | .error message =>
      s.startTorThenVpn (.calm sdkInt consent) = (s, .ok (.error message))
    | .ok system' =>
      (s.startTorThenVpn (.calm sdkInt consent)).2 = .ok (.ok ()) ∧
        (s.startTorThenVpn (.calm sdkInt consent)).1.receiver.isSome = system'.receiver := by
  have hstart : (Android.calm sdkInt consent).start = .ok () := by
    unfold Android.start
    split <;> rfl
  unfold System.startTorThenVpn Orchestrator.startTorThenVpn
  cases consent with
  | false => rfl
  | true =>
    rw [hstart, hreceiver]
    cases system.receiver with
    | true => rfl
    | false => exact ⟨rfl, rfl⟩

theorem Orchestrator.stop_calm (s : Orchestrator) (system : System) (sdkInt : Nat) (consent : Bool) :
    (s.stop (.calm sdkInt consent)).2 = .ok () ∧
      (s.stop (.calm sdkInt consent)).1.receiver.isSome = system.stop.receiver :=
  ⟨rfl, rfl⟩

end DarkMed.Network.Failures
