import DarkMed.Profiles.Wipe

/-!
# Profiles After a Failed Save

The screen and the store through saves that go well and saves that do not, in one process after
another.  A commit that cannot write the file has changed the map of the process before it
returns false: the button throws and the screen keeps its list, while `load` returns the new
one from then on, until the process ends.

So a save that fails is without effect only where it writes back the names that are there; and
one that goes well is read back as it was where the surrogates of the given name are paired.
-/

namespace DarkMed.Profiles

open DarkMed.Lib DarkMed.Lib.Transition

structure Saves where
  process : Process := {}
  /-- The list of the last save that went well; read by nothing. -/
  kept : List ConnectionProfile := ProfileCatalog.defaultProfiles

inductive SaveAction where
  /-- `ProfilesScreen` enters the composition. -/
  | compose
  | dispose
  /-- The process ends, and another one begins. -/
  | restart
  /-- A button; `written` says whether the file could be written. -/
  | operate (op : ScreenOperation) (written : Bool)

namespace Operation

/-- A rename that gives every profile the name that it is read back with already. -/
def Idle (existing : List ConnectionProfile) : Operation → Prop
  | .rename id name => ∀ it ∈ existing, it.id = id → it.name = utf16 name.trim.written
  | .create _ _ | .duplicate _ _ _ | .delete _ => False

end Operation

namespace Saves

section Steps

variable (fold : UInt16 → UInt16) (malformed : List UInt8 → JString)

/-- The list of the last save that went well, behind a button of a screen that shows
    `profiles`. -/
def keptBehind (kept profiles : List ConnectionProfile) (op : Operation) (written : Bool) :
    List ConnectionProfile :=
  match op.result fold profiles with
  | .error _ => kept
  | .ok updated => if written then updated else kept

def step (s : Saves) : SaveAction → Option Saves
  | .compose =>
    match s.process.step fold malformed .compose with
    | some process => some { s with process }
    | none => none
  | .dispose =>
    match s.process.step fold malformed .dispose with
    | some process => some { s with process }
    | none => none
  | .restart =>
    some { s with process := { preferences := { disk := s.process.preferences.disk } } }
  | .operate op written =>
    match s.process.screen with
    | some profiles =>
      some {
        process := s.process.operate fold profiles op.operation written
        kept := keptBehind fold s.kept profiles op.operation written }
    | none => none

end Steps

/-! ## What a save leaves -/

/-- The screen shows, and `load` returns, the list of the last save that went well: a failed save
    has changed nothing, and a successful one both. -/
structure Kept (malformed : List UInt8 → JString) (s : Saves) : Prop where
  loaded : ProfileStore.load malformed s.process.preferences = .ok s.kept
  shown : ∀ profiles, s.process.screen = some profiles → profiles = s.kept

/-- A save that is written gives a name that can be read back, and a save that is not written is
    idle. -/
def Keeps (fold : UInt16 → UInt16) (s : Saves) : SaveAction → Prop
  | .compose | .dispose | .restart => True
  | .operate op written =>
    ∀ profiles, s.process.screen = some profiles → op.operation.Accepts fold profiles →
      if written then op.operation.GivesPaired else op.operation.Idle profiles

/-- What is held in the map, in the file and on the screen. -/
structure Sound (malformed : List UInt8 → JString) (s : Saves) : Prop where
  /-- The texts of the map and of the file are those of lists that the catalog makes. -/
  texts : ∀ text, s.process.preferences.memory = some (some text) ∨
      s.process.preferences.disk = some text →
    ∃ profiles, text = ProfileStore.serialize profiles ∧ Plain profiles
  shown : ∀ profiles, s.process.screen = some profiles → Plain profiles
  /-- The file alone has the list of the last save that went well. -/
  file : ProfileStore.load malformed { disk := s.process.preferences.disk } =
    .ok (s.kept.map ProfileStore.stored)

section Invariant

variable {fold : UInt16 → UInt16} {malformed : List UInt8 → JString} {s t : Saves}

/-- The store of a fresh installation is sound. -/
theorem sound_init : Sound malformed {} where
  texts text h := by
    obtain h | h := h
    · cases h
    · cases h
  shown := nofun
  file := by
    show Except.ok ProfileCatalog.defaultProfiles = _
    rw [ProfileStore.stored_defaultProfiles]

theorem kept_init : Kept malformed {} where
  loaded := rfl
  shown := nofun

/-- What is loaded was made by the catalog, and has been read back. -/
theorem Sound.load (h : s.Sound malformed) :
    ∃ profiles, Plain profiles ∧
      ProfileStore.load malformed s.process.preferences = .ok (profiles.map ProfileStore.stored) := by
  unfold ProfileStore.load
  cases htext : s.process.preferences.getString with
  | none => exact ⟨_, plain_default, congrArg Except.ok ProfileStore.stored_defaultProfiles.symm⟩
  | some text =>
    have hheld : s.process.preferences.memory = some (some text) ∨
        s.process.preferences.disk = some text := by
      unfold Preferences.getString at htext
      cases hmemory : s.process.preferences.memory with
      | none => exact .inr (by rwa [hmemory] at htext)
      | some entry => exact .inl (by rw [hmemory] at htext; exact congrArg some htext)
    obtain ⟨profiles, rfl, hplain⟩ := h.texts text hheld
    exact ⟨profiles, hplain, ProfileStore.deserialize_serialize fun it hit => (hplain it hit).1⟩

/-- The kept list has no more to lose. -/
theorem Kept.stored (h : s.Kept malformed) (hsound : s.Sound malformed) :
    s.kept.map ProfileStore.stored = s.kept := by
  obtain ⟨profiles, hplain, hload⟩ := hsound.load
  have hkept : s.kept = profiles.map ProfileStore.stored :=
    Except.ok.inj (h.loaded.symm.trans hload)
  rw [hkept, List.map_map]
  exact List.map_congr_left fun it _ => ProfileStore.stored_stored it

/-- What is loaded is what the screen shows. -/
theorem shown_of_load {preferences : Preferences} {profiles : List ConnectionProfile}
    (h : ProfileStore.load malformed preferences = .ok profiles) :
    Process.shown malformed preferences = profiles := by
  rw [Process.shown, h]

/-- Opening the preferences changes nothing of what they hold. -/
theorem shown_opened (preferences : Preferences) :
    Process.shown malformed preferences.opened = Process.shown malformed preferences := rfl

/-! ## A button -/

section Button

variable {profiles : List ConnectionProfile} {op : Operation} {written : Bool}

/-- An accepted operation is saved and shown. -/
theorem operate_of_accepts (p : Process) (haccepts : op.Accepts fold profiles) :
    (p.operate fold profiles op written).preferences =
        (ProfileStore.save p.preferences (op.updated profiles) written).1 ∧
      (p.operate fold profiles op written).screen =
        some (if written then op.updated profiles else profiles) := by
  have hresult := (Operation.result_eq_ok_iff op).mpr ⟨haccepts, rfl⟩
  rw [Process.operate, hresult]
  cases written with
  | true => exact ⟨rfl, rfl⟩
  | false => exact ⟨rfl, rfl⟩

/-- A rejected one leaves the process as it is. -/
theorem operate_of_not_accepts (p : Process) (haccepts : ¬ op.Accepts fold profiles) :
    p.operate fold profiles op written = p := by
  unfold Process.operate
  cases hresult : op.result fold profiles with
  | error message => rfl
  | ok updated => exact absurd ((Operation.result_eq_ok_iff op).mp hresult).1 haccepts

theorem keptBehind_of_accepts (kept : List ConnectionProfile)
    (haccepts : op.Accepts fold profiles) :
    keptBehind fold kept profiles op written = if written then op.updated profiles else kept := by
  rw [keptBehind, (Operation.result_eq_ok_iff op).mpr ⟨haccepts, rfl⟩]

theorem keptBehind_of_not_accepts (kept : List ConnectionProfile)
    (haccepts : ¬ op.Accepts fold profiles) :
    keptBehind fold kept profiles op written = kept := by
  unfold keptBehind
  cases hresult : op.result fold profiles with
  | error message => rfl
  | ok updated => exact absurd ((Operation.result_eq_ok_iff op).mp hresult).1 haccepts

/-- Plain profiles stay plain under an accepted operation that fits a line. -/
theorem plain_updated (h : Plain profiles) (hop : op.FitsLine)
    (haccepts : op.Accepts fold profiles) : Plain (op.updated profiles) := by
  have happly := @plain_apply fold profiles h op hop
  rwa [Operation.apply_of_accepts haccepts] at happly

/-- An operation leaves what was there exactly when it is idle: any other one that is accepted
    changes a name or the number of profiles. -/
theorem map_stored_updated_iff (hstored : profiles.map ProfileStore.stored = profiles)
    (haccepts : op.Accepts fold profiles) :
    (op.updated profiles).map ProfileStore.stored = profiles ↔ op.Idle profiles := by
  cases op with
  | create name id =>
    refine iff_of_false (fun h => ?_) fun h => h
    have hlength := congrArg List.length h
    simp [Operation.updated] at hlength
  | duplicate id name newId =>
    refine iff_of_false (fun h => ?_) fun h => h
    have hlength := congrArg List.length h
    simp [Operation.updated] at hlength
  | delete id =>
    refine iff_of_false (fun h => ?_) fun h => h
    obtain ⟨it, hit, hid⟩ := haccepts
    have hlength := congrArg List.length h
    rw [List.length_map] at hlength
    have hstays := List.length_filter_eq_length_iff.mp hlength it hit
    simp [hid] at hstays
  | rename id name =>
    show (profiles.map _).map _ = _ ↔ ∀ it ∈ profiles, it.id = id → _
    rw [List.map_map, map_eq_self_iff]
    have hfixed := map_eq_self_iff.mp hstored
    refine forall₂_congr fun it hit => ?_
    by_cases hid : it.id = id
    · have hroute : it.routeVerified = false := (ProfileStore.stored_eq_iff.mp (hfixed it hit)).2
      rw [imp_iff_right hid]
      constructor
      · intro h
        have hname := congrArg ConnectionProfile.name h
        rw [Function.comp_apply, if_pos (beq_iff_eq.mpr hid)] at hname
        exact hname.symm
      · intro hname
        rw [Function.comp_apply, if_pos (beq_iff_eq.mpr hid), ProfileStore.stored, ← hname, ← hroute]
    · refine iff_of_true ?_ fun h => absurd h hid
      rw [Function.comp_apply, if_neg (mt beq_iff_eq.mp hid)]
      exact hfixed it hit

/-- What a button leaves is sound. -/
theorem Sound.operate (h : s.Sound malformed) (hscreen : s.process.screen = some profiles)
    (hop : op.FitsLine) :
    Sound malformed {
      process := s.process.operate fold profiles op written
      kept := keptBehind fold s.kept profiles op written } := by
  by_cases haccepts : op.Accepts fold profiles
  · obtain ⟨hpreferences, hshows⟩ := @operate_of_accepts fold profiles op written s.process haccepts
    have hprofiles : Plain profiles := h.shown profiles hscreen
    have hplain : Plain (op.updated profiles) := plain_updated hprofiles hop haccepts
    rw [keptBehind_of_accepts s.kept haccepts]
    refine ⟨fun text htext => ?_, fun shown hshown => ?_, ?_⟩
    · -- the map has the new text, and the file the new or the old one
      rw [hpreferences] at htext
      cases written with
      | true =>
        have hnew : text = ProfileStore.serialize (op.updated profiles) := by
          obtain hmemory | hdisk := htext
          · exact (Option.some.inj (Option.some.inj hmemory)).symm
          · exact (Option.some.inj hdisk).symm
        exact ⟨_, hnew, hplain⟩
      | false =>
        obtain hmemory | hdisk := htext
        · exact ⟨_, (Option.some.inj (Option.some.inj hmemory)).symm, hplain⟩
        · exact h.texts text (.inr hdisk)
    · obtain rfl := Option.some.inj (hshows.symm.trans hshown)
      cases written with
      | true => exact hplain
      | false => exact hprofiles
    · show ProfileStore.load malformed { disk := (Process.operate fold _ _ _ _).preferences.disk } = _
      rw [hpreferences]
      cases written with
      | true => exact ProfileStore.deserialize_serialize fun it hit => (hplain it hit).1
      | false => exact h.file
  · rw [operate_of_not_accepts s.process haccepts, keptBehind_of_not_accepts s.kept haccepts]
    exact h

/-- **A button keeps what is kept** exactly when it gives a name that can be read back, if the
    file is written, and when it is idle, if it is not. -/
theorem kept_operate_iff (hsound : s.Sound malformed) (h : s.Kept malformed)
    (hscreen : s.process.screen = some profiles) (hop : op.FitsLine) :
    Kept malformed {
        process := s.process.operate fold profiles op written
        kept := keptBehind fold s.kept profiles op written } ↔
      (op.Accepts fold profiles → if written then op.GivesPaired else op.Idle profiles) := by
  by_cases haccepts : op.Accepts fold profiles
  · rw [imp_iff_right haccepts, keptBehind_of_accepts s.kept haccepts]
    obtain ⟨hpreferences, hshows⟩ := @operate_of_accepts fold profiles op written s.process haccepts
    have hprofiles : profiles = s.kept := h.shown profiles hscreen
    have hplain : Plain (op.updated profiles) :=
      plain_updated (hsound.shown profiles hscreen) hop haccepts
    have hstored : profiles.map ProfileStore.stored = profiles := by
      rw [hprofiles]
      exact h.stored hsound
    have hload : ProfileStore.load malformed
        (s.process.operate fold profiles op written).preferences =
          .ok ((op.updated profiles).map ProfileStore.stored) := by
      rw [hpreferences]
      exact ProfileStore.load_save _ (fun it hit => (hplain it hit).1) written
    cases written with
    | true =>
      have hpaired : ∀ it ∈ profiles, it.name.Paired :=
        (map_stored_eq_iff (hsound.shown profiles hscreen)).mp hstored
      show _ ↔ op.GivesPaired
      rw [← forall_paired_updated_iff hpaired haccepts, ← map_stored_eq_iff hplain]
      constructor
      · intro hkept
        exact Except.ok.inj (hload.symm.trans hkept.loaded)
      · intro hsame
        refine ⟨hload.trans (congrArg Except.ok hsame), fun shown hshown => ?_⟩
        exact (Option.some.inj (hshows.symm.trans hshown)).symm
    | false =>
      show _ ↔ op.Idle profiles
      rw [← map_stored_updated_iff hstored haccepts]
      constructor
      · intro hkept
        rw [Except.ok.inj (hload.symm.trans hkept.loaded)]
        exact hprofiles.symm
      · intro hsame
        refine ⟨hload.trans (congrArg Except.ok (hsame.trans hprofiles)), fun shown hshown => ?_⟩
        exact (Option.some.inj (hshows.symm.trans hshown)).symm.trans hprofiles
  · rw [operate_of_not_accepts s.process haccepts, keptBehind_of_not_accepts s.kept haccepts]
    exact iff_of_true h fun h => absurd h haccepts

end Button

/-! ## Runs -/

/-- **Step lemma**: what is held stays sound. -/
theorem Sound.step (h : s.Sound malformed) {a : SaveAction}
    (hstep : s.step fold malformed a = some t) : t.Sound malformed := by
  cases a with
  | compose =>
    cases hscreen : s.process.screen with
    | some profiles => simp [Saves.step, Process.step, hscreen] at hstep
    | none =>
      simp only [Saves.step, Process.step, hscreen, Option.some.injEq] at hstep
      subst hstep
      obtain ⟨profiles, hplain, hload⟩ := h.load
      refine ⟨fun text htext => ?_, fun shown hshown => ?_, h.file⟩
      · -- an opened map has the text that it had, or that of the file
        obtain hmemory | hdisk := htext
        · apply h.texts text
          have hget := Option.some.inj hmemory
          cases hentry : s.process.preferences.memory with
          | none => exact .inr (by rwa [hentry] at hget)
          | some entry => exact .inl (by rw [hentry] at hget; exact congrArg some hget)
        · exact h.texts text (.inr hdisk)
      · rw [← Option.some.inj hshown, shown_opened, shown_of_load hload]
        exact Process.plain_stored hplain
  | dispose =>
    cases hscreen : s.process.screen with
    | none => simp [Saves.step, Process.step, hscreen] at hstep
    | some profiles =>
      simp only [Saves.step, Process.step, hscreen, Option.some.injEq] at hstep
      subst hstep
      exact ⟨h.texts, fun _ hshown => (by cases hshown), h.file⟩
  | restart =>
    obtain rfl := Option.some.inj hstep
    refine ⟨fun text htext => ?_, fun _ hshown => (by cases hshown), h.file⟩
    obtain hmemory | hdisk := htext
    · cases hmemory
    · exact h.texts text (.inr hdisk)
  | operate op written =>
    cases hscreen : s.process.screen with
    | none => simp [Saves.step, hscreen] at hstep
    | some profiles =>
      simp only [Saves.step, hscreen, Option.some.injEq] at hstep
      subst hstep
      exact h.operate hscreen op.fitsLine

/-- **Step lemma**: an action keeps what is kept exactly when a button does. -/
theorem kept_step_iff (hsound : s.Sound malformed) (h : s.Kept malformed) (a : SaveAction) :
    (∀ t, s.step fold malformed a = some t → t.Kept malformed) ↔ s.Keeps fold a := by
  cases a with
  | compose =>
    refine iff_of_true (fun t hstep => ?_) trivial
    cases hscreen : s.process.screen with
    | some profiles => simp [Saves.step, Process.step, hscreen] at hstep
    | none =>
      simp only [Saves.step, Process.step, hscreen, Option.some.injEq] at hstep
      subst hstep
      refine ⟨h.loaded, fun shown hshown => ?_⟩
      exact (Option.some.inj hshown).symm.trans (shown_of_load h.loaded)
  | dispose =>
    refine iff_of_true (fun t hstep => ?_) trivial
    cases hscreen : s.process.screen with
    | none => simp [Saves.step, Process.step, hscreen] at hstep
    | some profiles =>
      simp only [Saves.step, Process.step, hscreen, Option.some.injEq] at hstep
      subst hstep
      exact ⟨h.loaded, fun _ hshown => by cases hshown⟩
  | restart =>
    refine iff_of_true (fun t hstep => ?_) trivial
    obtain rfl := Option.some.inj hstep
    -- what the file has is the kept list, which loses nothing when it is read back
    exact ⟨h.stored hsound ▸ hsound.file, fun _ hshown => by cases hshown⟩
  | operate op written =>
    cases hscreen : s.process.screen with
    | none =>
      refine iff_of_true (fun t hstep => ?_) fun profiles hprofiles => ?_
      · simp [Saves.step, hscreen] at hstep
      · exact absurd (hscreen.symm.trans hprofiles) (by simp)
    | some profiles =>
      simp only [Saves.step, hscreen, Keeps, Option.some.injEq, forall_eq']
      exact kept_operate_iff hsound h hscreen op.fitsLine

/-- **Failed saves.**  All along a run of the screen, what is shown and what is loaded is the list
    of the last save that went well, exactly when every save that is written gives a name that
    can be read back, and every save that is not written is idle. -/
theorem failed_saves_change_nothing_iff (fold : UInt16 → UInt16) (malformed : List UInt8 → JString)
    (actions : List SaveAction) :
    (∀ pre s, pre <+: actions → run (step fold malformed) {} pre = some s → s.Kept malformed) ↔
      AllSteps (step fold malformed) (Keeps fold) {} actions :=
  forall_run_iff_allSteps_of_invariant (fun _ _ _ hsound _ hstep => hsound.step hstep)
    (fun _ a _ hsound h => kept_step_iff hsound h a) sound_init kept_init

end Invariant

/-- The Tor profile is deleted, and the file cannot be written. -/
def failedDeletion : List SaveAction :=
  [.compose, .operate (.delete (ascii "tor")) false]

/-- The screen shows four profiles, and `load` returns three. -/
theorem failed_deletion_is_loaded :
    ¬ ∀ (fold : UInt16 → UInt16) (malformed : List UInt8 → JString) (actions : List SaveAction)
      (s : Saves), run (step fold malformed) {} actions = some s → s.Kept malformed := by
  intro h
  have hkept := h JString.foldCase (fun _ => []) failedDeletion _ rfl
  have hplain : Plain (Operation.updated ProfileCatalog.defaultProfiles (.delete (ascii "tor"))) :=
    fun it hit => plain_default it (List.mem_filter.mp hit).1
  have hload := @ProfileStore.load_save (fun _ => [])
    (Preferences.opened {}) _ (fun it hit => (hplain it hit).1) false
  have hsame := Except.ok.inj (hload.symm.trans hkept.loaded)
  exact absurd (congrArg List.length hsame) (by decide)

end Saves

end DarkMed.Profiles
