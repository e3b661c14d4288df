import DarkMed.Profiles.Store

/-!
# Profiles After a Wipe

`ProfilesScreen`, the preferences it saves to, and `DataWiper.wipeAll` in one process.  The
screen loads the profiles when it is composed and saves from its own copy after that; the wiper
deletes the preferences file, and leaves the map alone that the process holds of it: the one
map that it clears is `darkmed_secure_metadata`'s.

So what comes back after a wipe is what the map and a composed screen held during it.  Where
they hold the default profiles at most, wiped profiles are gone for good.
-/

namespace DarkMed.Profiles

open DarkMed.Lib DarkMed.Lib.Transition

/-! ## The screen -/

/-- A text of `UUID.randomUUID()`. -/
structure Uuid where
  text : JString
  digits : ∀ c ∈ text, isDigit c = true ∨ 0x61 ≤ c ∧ c ≤ 0x66 ∨ c = 0x2D

/-- The text of a UUID holds no separator of the line format. -/
theorem Uuid.fitsLine (uuid : Uuid) : uuid.text.FitsLine := by
  intro c hc
  -- tab, line feed and carriage return are none of the characters
  have hne : ∀ x : UInt16, isDigit x = false → ¬ (0x61 ≤ x ∧ x ≤ 0x66) → x ≠ 0x2D → c ≠ x := by
    rintro x hdigit hletter hhyphen rfl
    rcases uuid.digits c hc with h | h | h
    · exact absurd (h.symm.trans hdigit) nofun
    · exact hletter h
    · exact hhyphen h
  refine ⟨hne _ ?_ ?_ ?_, hne _ ?_ ?_ ?_, hne _ ?_ ?_ ?_⟩ <;> decide

/-- What the buttons of the screen do. -/
inductive ScreenOperation where
  | create (draftName : JString) (uuid : Uuid)
  | rename (profileId draftName : JString)
  | duplicate (profile : ConnectionProfile) (uuid : Uuid)
  | delete (profileId : JString)

/-- The catalog's operation; a duplicate is `"${profile.name} Copy"`. -/
def ScreenOperation.operation : ScreenOperation → Operation
  | .create draftName uuid => .create draftName uuid.text
  | .rename profileId draftName => .rename profileId draftName
  | .duplicate profile uuid => .duplicate profile.id (profile.name ++ ascii " Copy") uuid.text
  | .delete profileId => .delete profileId

/-- What the screen asks for fits a line: the ids it makes are UUIDs. -/
theorem ScreenOperation.fitsLine (op : ScreenOperation) : op.operation.FitsLine := by
  cases op with
  | create draftName uuid => exact uuid.fitsLine
  | duplicate profile uuid => exact uuid.fitsLine
  | rename profileId draftName => trivial
  | delete profileId => trivial

/-! ## The process -/

structure Process where
  preferences : Preferences := {}
  /-- `profiles` of the screen, while it is composed. -/
  screen : Option (List ConnectionProfile) := none
  /-- The wiper has deleted the preferences file, and has not returned. -/
  wiping : Bool := false
  /-- A wipe has returned Completed; this field and the ones below are read by nothing. -/
  wiped : Bool := false
  /-- Since then, something has been saved. -/
  saved : Bool := false
  /-- The profiles that operations have made since then. -/
  born : List ConnectionProfile := []
  /-- The profiles that have been written to the file since then. -/
  written : List ConnectionProfile := []

inductive Action where
  /-- `ProfilesScreen` enters the composition. -/
  | compose
  | dispose
  /-- A button; `written` says whether the file could be written. -/
  | operate (op : ScreenOperation) (written : Bool)
  /-- The wiper deletes the contents of `shared_prefs`. -/
  | deleteFile
  /-- `wipeAll` returns Completed. -/
  | completed
  /-- `wipeAll` returns Failed. -/
  | failed

namespace Process

section Steps

variable (fold : UInt16 → UInt16) (malformed : List UInt8 → JString)

/-- `runCatching { store.load() }.getOrDefault(ProfileCatalog.defaultProfiles())` -/
def shown (preferences : Preferences) : List ConnectionProfile :=
  match ProfileStore.load malformed preferences with
  | .ok profiles => profiles
  | .error _ => ProfileCatalog.defaultProfiles

/-- A button of a screen that shows `profiles`: the operation, `check(store.save(updated))`, and
    `profiles = updated`. -/
def operate (s : Process) (profiles : List ConnectionProfile) (op : Operation) (written : Bool) :
    Process :=
  match op.result fold profiles with
  | .error _ => s
  | .ok updated =>
    let (preferences, saved) := ProfileStore.save s.preferences updated written
    { s with
      preferences
      screen := if saved then some updated else some profiles
      saved := true
      born := s.born ++ updated.filter (· ∉ profiles)
      written := if saved then s.written ++ updated else s.written }

def step (s : Process) : Action → Option Process
  | .compose =>
    match s.screen with
    | some _ => none
    | none =>
      some { s with
        preferences := s.preferences.opened
        screen := some (shown malformed s.preferences.opened) }
  | .dispose =>
    match s.screen with
    | some _ => some { s with screen := none }
    | none => none
  | .operate op written =>
    match s.screen with
    | some profiles => some (s.operate fold profiles op.operation written)
    | none => none
  | .deleteFile =>
    some { s with preferences := { s.preferences with disk := none }, wiping := true }
  | .completed =>
    if s.wiping then
      some { s with wiping := false, wiped := true, saved := false, born := [], written := [] }
    else none
  | .failed => some { s with wiping := false }

end Steps

/-! ## Gone for good -/

/-- The profile is there without what was before the wipe: a default one, or one that was made
    since, perhaps as it is read back. -/
def Since (s : Process) (it : ConnectionProfile) : Prop :=
  it ∈ ProfileCatalog.defaultProfiles ∨ ∃ made ∈ s.born, it = made ∨ it = ProfileStore.stored made

/-- Wiped profiles have not come back: until something is saved the default profiles are loaded,
    and every profile that was written is there without what was before. -/
def Gone (malformed : List UInt8 → JString) (s : Process) : Prop :=
  s.wiped = true →
    (s.saved = false →
      ProfileStore.load malformed s.preferences = .ok ProfileCatalog.defaultProfiles) ∧
    ∀ it ∈ s.written, s.Since it

/-- Nothing but the default profiles is held in the process. -/
def Clean (s : Process) : Prop :=
  (s.preferences.getString = none ∨
    s.preferences.getString = some (ProfileStore.serialize ProfileCatalog.defaultProfiles)) ∧
  ∀ profiles, s.screen = some profiles → ∀ it ∈ profiles, it ∈ ProfileCatalog.defaultProfiles

/-- A wipe that completes does so in a clean process. -/
def CompletesClean (s : Process) (a : Action) : Prop :=
  a = .completed → s.Clean

/-- What the process holds since the wipe. -/
structure Fresh (s : Process) : Prop where
  unsaved : s.saved = false → s.preferences.getString = none ∨
    s.preferences.getString = some (ProfileStore.serialize ProfileCatalog.defaultProfiles)
  held : ∀ text, s.preferences.getString = some text →
    ∃ profiles, text = ProfileStore.serialize profiles ∧ Plain profiles ∧
      ∀ it ∈ profiles, s.Since it
  shown : ∀ profiles, s.screen = some profiles → Plain profiles ∧ ∀ it ∈ profiles, s.Since it
  written : ∀ it ∈ s.written, s.Since it

section Fresh

variable {fold : UInt16 → UInt16} {malformed : List UInt8 → JString} {s t : Process}

theorem stored_of_mem_default {it : ConnectionProfile} (h : it ∈ ProfileCatalog.defaultProfiles) :
    ProfileStore.stored it = it := by
  have hall : ∀ it ∈ ProfileCatalog.defaultProfiles, it.name.Paired ∧ it.routeVerified = false := by
    decide
  exact ProfileStore.stored_eq_iff.mpr (hall it h)

/-- A profile keeps its origin when it is read back. -/
theorem Since.stored {it : ConnectionProfile} (h : s.Since it) :
    s.Since (ProfileStore.stored it) := by
  obtain hdefault | ⟨made, hmade, rfl | rfl⟩ := h
  · rw [stored_of_mem_default hdefault]
    exact .inl hdefault
  · exact .inr ⟨it, hmade, .inr rfl⟩
  · rw [ProfileStore.stored_stored]
    exact .inr ⟨made, hmade, .inr rfl⟩

/-- A default profile, or one born since the wipe, stays one as more are born. -/
theorem Since.mono {it : ConnectionProfile} (h : s.Since it) (hborn : ∀ made ∈ s.born, made ∈ t.born) :
    t.Since it := by
  obtain hdefault | ⟨made, hmade, hit⟩ := h
  · exact .inl hdefault
  · exact .inr ⟨made, hborn made hmade, hit⟩

theorem plain_stored {profiles : List ConnectionProfile} (h : Plain profiles) :
    Plain (profiles.map ProfileStore.stored) := by
  intro it hit
  obtain ⟨original, horiginal, rfl⟩ := List.mem_map.mp hit
  obtain ⟨⟨hid, hname⟩, -⟩ := h original horiginal
  have hstored : (ProfileStore.stored original).name ≠ [] := fun hnil =>
    hname (JString.written_eq_nil_iff.mp (utf16_eq_nil_iff.mp hnil))
  exact ⟨⟨hid, hstored⟩, rfl⟩

/-- What a composed screen shows of a fresh process. -/
theorem Fresh.shown_since (h : s.Fresh) :
    Plain (Process.shown malformed s.preferences) ∧
      ∀ it ∈ Process.shown malformed s.preferences, s.Since it := by
  have hdefault : Plain ProfileCatalog.defaultProfiles ∧
      ∀ it ∈ ProfileCatalog.defaultProfiles, s.Since it := ⟨plain_default, fun it => .inl⟩
  unfold Process.shown ProfileStore.load
  cases htext : s.preferences.getString with
  | none => exact hdefault
  | some text =>
    obtain ⟨profiles, rfl, hplain, hsince⟩ := h.held text htext
    simp only [ProfileStore.deserialize_serialize fun it hit => (hplain it hit).1]
    refine ⟨plain_stored hplain, fun it hit => ?_⟩
    obtain ⟨original, horiginal, rfl⟩ := List.mem_map.mp hit
    exact (hsince original horiginal).stored

/-- A wipe that completes in a clean process begins a fresh one. -/
theorem Clean.fresh (h : s.Clean) :
    Fresh { s with wiping := false, wiped := true, saved := false, born := [], written := [] } where
  unsaved _ := h.1
  held text htext := by
    have htext : s.preferences.getString = some text := htext
    obtain hnone | hdefault := h.1
    · exact absurd (hnone.symm.trans htext) nofun
    · obtain rfl := Option.some.inj (hdefault.symm.trans htext)
      exact ⟨_, rfl, plain_default, fun it => .inl⟩
  shown profiles hscreen := by
    have hall := h.2 profiles hscreen
    exact ⟨fun it hit => plain_default it (hall it hit), fun it hit => .inl (hall it hit)⟩
  written := nofun

/-- **An operation of a fresh process** makes profiles of its own, and keeps what is held fresh. -/
theorem Fresh.operate (h : s.Fresh) {profiles : List ConnectionProfile} {op : ScreenOperation}
    (hscreen : s.screen = some profiles) (written : Bool) :
    (s.operate fold profiles op.operation written).Fresh := by
  obtain ⟨hplain, hsince⟩ := h.shown profiles hscreen
  unfold Process.operate
  cases hresult : op.operation.result fold profiles with
  | error e => exact h
  | ok updated =>
    have hupdated : Plain updated := by
      have happly := @plain_apply fold profiles hplain op.operation op.fitsLine
      rwa [Operation.apply, hresult] at happly
    -- what is in the new list was in the old one, or is made by this operation
    have hnew : ∀ it ∈ updated, it ∈ profiles ∨ it ∈ updated.filter (· ∉ profiles) := by
      intro it hit
      by_cases hold : it ∈ profiles
      · exact .inl hold
      · exact .inr (List.mem_filter.mpr ⟨hit, by simpa using hold⟩)
    have hkeep : ∀ made ∈ s.born, made ∈ s.born ++ updated.filter (· ∉ profiles) :=
      fun made hmade => List.mem_append_left _ hmade
    refine ⟨fun h => (by cases h), ?_, ?_, ?_⟩
    · intro text htext
      cases htext
      refine ⟨updated, rfl, hupdated, fun it hit => ?_⟩
      obtain hold | hmade := hnew it hit
      · exact (hsince it hold).mono hkeep
      · exact .inr ⟨it, List.mem_append_right _ hmade, .inl rfl⟩
    · intro list hlist
      cases written with
      | true =>
        cases hlist
        refine ⟨hupdated, fun it hit => ?_⟩
        obtain hold | hmade := hnew it hit
        · exact (hsince it hold).mono hkeep
        · exact .inr ⟨it, List.mem_append_right _ hmade, .inl rfl⟩
      | false =>
        cases hlist
        exact ⟨hplain, fun it hit => (hsince it hit).mono hkeep⟩
    · intro it hit
      cases written with
      | true =>
        rcases List.mem_append.mp hit with hit | hit
        · exact (h.written it hit).mono hkeep
        · obtain hold | hmade := hnew it hit
          · exact (hsince it hold).mono hkeep
          · exact .inr ⟨it, List.mem_append_right _ hmade, .inl rfl⟩
      | false => exact (h.written it hit).mono hkeep

/-- **Step lemma**: what is held since the wipe stays fresh, and a wipe that completes in a clean
    process makes it so. -/
theorem Fresh.step {a : Action} (h : s.wiped = true → s.Fresh) (hclean : s.CompletesClean a)
    (hstep : step fold malformed s a = some t) : t.wiped = true → t.Fresh := by
  intro hwiped
  cases a with
  | compose =>
    simp only [Process.step] at hstep
    split at hstep
    · cases hstep
    · cases hstep
      obtain ⟨hunsaved, hheld, -, hwritten⟩ := h hwiped
      -- opening the preferences changes nothing of what they hold
      have hopened : ({ s with preferences := s.preferences.opened } : Process).Fresh :=
        ⟨hunsaved, hheld, (h hwiped).shown, hwritten⟩
      refine ⟨hunsaved, hheld, fun profiles hprofiles => ?_, hwritten⟩
      cases hprofiles
      exact hopened.shown_since
  | dispose =>
    simp only [Process.step] at hstep
    split at hstep
    · cases hstep
      exact ⟨(h hwiped).unsaved, (h hwiped).held, nofun, (h hwiped).written⟩
    · cases hstep
  | operate op written =>
    simp only [Process.step] at hstep
    split at hstep
    next profiles hscreen =>
      cases hstep
      have hbefore : s.wiped = true := by
        revert hwiped
        unfold Process.operate
        split <;> exact id
      exact (h hbefore).operate hscreen written
    · cases hstep
  | deleteFile =>
    cases hstep
    obtain ⟨hunsaved, hheld, hshown, hwritten⟩ := h hwiped
    -- without a map, what is held has gone with the file
    have hget : ∀ text, ({ s.preferences with disk := none } : Preferences).getString = some text →
        s.preferences.getString = some text := by
      intro text
      unfold Preferences.getString
      cases s.preferences.memory with
      | none => exact nofun
      | some _ => exact id
    refine ⟨fun hsaved => ?_, fun text htext => hheld text (hget text htext), hshown, hwritten⟩
    cases htext : ({ s.preferences with disk := none } : Preferences).getString with
    | none => exact .inl rfl
    | some text =>
      have hsame := hget text htext
      obtain hnone | hdefault := hunsaved hsaved
      · exact absurd (hnone.symm.trans hsame) nofun
      · exact .inr (hsame.symm.trans hdefault)
  | completed =>
    simp only [Process.step] at hstep
    split at hstep
    · cases hstep
      exact (hclean rfl).fresh
    · cases hstep
  | failed =>
    cases hstep
    exact ⟨(h hwiped).unsaved, (h hwiped).held, (h hwiped).shown, (h hwiped).written⟩

/-- What is fresh loads as the default profiles until something is saved. -/
theorem Fresh.gone (h : s.wiped = true → s.Fresh) : s.Gone malformed := by
  intro hwiped
  refine ⟨fun hsaved => ?_, (h hwiped).written⟩
  unfold ProfileStore.load
  obtain hnone | hdefault := (h hwiped).unsaved hsaved
  · rw [hnone]
  · rw [hdefault]
    have hback := @ProfileStore.deserialize_serialize malformed ProfileCatalog.defaultProfiles
      fun it hit => (plain_default it hit).1
    rw [ProfileStore.stored_defaultProfiles] at hback
    exact hback

/-- **Wiped profiles do not come back** in a run all of whose wipes complete in a clean process:
    from any file that was there when the process began. -/
theorem wiped_profiles_stay_gone {disk : Option JString} {actions : List Action}
    (hclean : AllSteps (Process.step fold malformed) CompletesClean
      { preferences := { disk } } actions)
    (hrun : run (Process.step fold malformed) { preferences := { disk } } actions = some s) :
    s.Gone malformed := by
  have hfresh : s.wiped = true → s.Fresh :=
    @run_invariant_of_allSteps _ _ _ (fun s => s.wiped = true → s.Fresh) CompletesClean
      (fun _ _ _ h hclean hstep => Fresh.step h hclean hstep)
      { preferences := { disk } } s actions nofun hclean hrun
  exact Fresh.gone hfresh

end Fresh

/-- A profile of the user. -/
def secret : ConnectionProfile :=
  { id := ascii "7", name := ascii "Secret" }

def secretUuid : Uuid :=
  ⟨ascii "7", by
    have htext : ascii "7" = [0x37] := by decide
    rw [htext, List.forall_mem_singleton]
    decide⟩

/-- The list of the screen with the profile. -/
def withSecret : List ConnectionProfile :=
  ProfileCatalog.defaultProfiles ++ [secret]

/-- A profile that is made before a wipe, with the screen closed by then. -/
def wipeAfterSecret : List Action :=
  [.compose, .operate (.create (ascii "Secret") secretUuid) true, .dispose, .deleteFile, .completed]

/-- A profile that is made after a wipe. -/
def secretAfterWipe : List Action :=
  [.compose, .deleteFile, .completed, .operate (.create (ascii "Secret") secretUuid) true]

theorem wiped_profiles_stay_gone_secretAfterWipe :
    ∃ s, run (Process.step JString.foldCase fun _ => []) { preferences := { disk := none } }
        secretAfterWipe = some s ∧ s.Gone fun _ => [] := by
  refine ⟨_, rfl, @wiped_profiles_stay_gone JString.foldCase (fun _ => []) _ none secretAfterWipe
    ?_ rfl⟩
  -- only the third action is a wipe that completes, with the default profiles on the screen
  refine ⟨nofun, fun t ht => ?_⟩
  cases ht
  refine ⟨nofun, fun t ht => ?_⟩
  cases ht
  refine ⟨fun _ => ⟨.inl rfl, ?_⟩, fun t ht => ?_⟩
  · intro profiles hprofiles
    cases hprofiles
    exact fun it hit => hit
  · cases ht
    exact ⟨nofun, fun t _ => trivial⟩

/-- The map of the preferences keeps the profile through the wipe, and `load` returns it. -/
theorem wiped_profile_comes_back :
    ¬ ∀ (fold : UInt16 → UInt16) (malformed : List UInt8 → JString) (disk : Option JString)
      (actions : List Action) (s : Process),
      run (Process.step fold malformed) { preferences := { disk } } actions = some s →
        s.Gone malformed := by
  intro h
  have hrun : run (Process.step JString.foldCase fun _ => []) { preferences := { disk := none } }
      wipeAfterSecret = some {
        preferences := { memory := some (some (ProfileStore.serialize withSecret)) }
        wiped := true } := rfl
  have hload := (h _ _ none _ _ hrun rfl).1 rfl
  have hplain : ∀ it ∈ withSecret, it.id.FitsLine ∧ it.name ≠ [] := by decide
  have hback := @ProfileStore.deserialize_serialize (fun _ => []) withSecret
    fun it hit => ⟨(hplain it hit).1, (hplain it hit).2⟩
  have hsame := Except.ok.inj (hback.symm.trans hload)
  exact absurd (congrArg List.length hsame) (by decide)

end Process

end DarkMed.Profiles
