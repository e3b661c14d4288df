import DarkMed.Settings.DataWiper
import Mathlib.Logic.Function.Basic

/-!
# What a Completed Wipe Has Seen

Each target directory is looked at for the last time right behind its own deletion: either it
is not there, or it is listed again and what it lists is tested for existence.  What these last
looks have seen still holds when `wipeAll` returns, unless a component makes an entry behind one
of them, or an entry that is still there does not exist by the test that follows links.
-/

namespace DarkMed.Settings

open DarkMed.Lib DarkMed.Lib.Transition DarkMed.Lib.FileSystem

/-- The directory has no entries, if it is there. -/
def Emptied (fs : Files JString) (directory : Path JString) : Prop :=
  ∀ d, resolve fs.tree directory = some d → fs.names d = []

namespace Wiper

def tasks (s : Wiper) : List WipeTask :=
  match s.phase with
  | .wiping tasks => tasks
  | _ => []

/-- The directories are being wiped, or have been. -/
def underway (s : Wiper) : Bool :=
  match s.phase with
  | .wiping _ | .deleteKey | .keyExists | .returned .completed => true
  | _ => false

/-- The preferences have been committed. -/
def begun (s : Wiper) : Bool :=
  match s.phase with
  | .stopping _ | .distinct _ | .commit => false
  | _ => true

/-- The last look at the directory is still to come. -/
def Pending (s : Wiper) (directory : Path JString) : Prop :=
  .enter directory ∈ s.tasks ∨ .list directory ∈ s.tasks ∨ .relist directory ∈ s.tasks

instance (s : Wiper) (directory : Path JString) : Decidable (s.Pending directory) :=
  inferInstanceAs (Decidable (_ ∨ _ ∨ _))

/-- The entries of the directory, but for those of one kind, are among these paths. -/
def Among (left : Files JString → Path JString → Prop) (fs : Files JString)
    (directory : Path JString) (remaining : List (Path JString)) : Prop :=
  ∀ d, resolve fs.tree directory = some d →
    ∀ name ∈ fs.names d, name :: directory ∈ remaining ∨ left fs (name :: directory)

/-- The entries that have not been left by the tests for existence are still to be tested. -/
def Held (left : Files JString → Path JString → Prop) (s : Wiper) (directory : Path JString) :
    Prop :=
  ∃ remaining, (remaining = [] ∨ .present directory remaining ∈ s.tasks) ∧
    Among left s.files directory remaining

def Accounted (left : Files JString → Path JString → Prop) (s : Wiper)
    (directory : Path JString) : Prop :=
  directory ∈ s.failed ∨ s.Pending directory ∨ s.Held left directory

/-- What the next test for existence lets pass is left. -/
def Leaves (left : Files JString → Path JString → Prop) (s : Wiper) : Prop :=
  match s.tasks with
  | .present _ (it :: _) :: _ =>
    s.files.isLink it = true → s.files.exists it = false → left s.files it
  | _ => True

/-- Nothing is left. -/
def nothing : Files JString → Path JString → Prop :=
  fun _ _ => False

/-! ## Conditions on steps -/

/-- The next test for existence is made on a dangling link. -/
def passesDangling (s : Wiper) : Bool :=
  match s.tasks with
  | .present _ (it :: _) :: _ => s.files.isLink it && !s.files.exists it
  | _ => false

/-- A new entry is not in the directory; and if the directory was not there, the entry does not
    make it one that was there already. -/
def Spares (fs : Files JString) (name : JString) (d : Location JString) (node : Node JString)
    (directory : Path JString) : Prop :=
  match resolve fs.tree directory with
  | some l => l ≠ d
  | none =>
    resolve (Function.update fs.tree (name :: d) (some node)) directory = none ∨
      resolve (Function.update fs.tree (name :: d) (some node)) directory = some (name :: d)

instance (fs : Files JString) (name : JString) (d : Location JString) (node : Node JString)
    (directory : Path JString) : Decidable (Spares fs name d node directory) :=
  match h : resolve fs.tree directory with
  | some l => decidable_of_iff (l ≠ d) (by simp [Spares, h])
  | none => decidable_of_iff (_ ∨ _) (by simp only [Spares, h]; exact Iff.rfl)

/-- The last looks are not made obsolete: no test for existence is made on a dangling link, and
    no entry spoils a directory that has been looked at for the last time. -/
def Calm (s : Wiper) : WipeAction → Prop
  | .wiper => s.passesDangling = false
  | .create name d node =>
    s.underway = true → ∀ directory ∈ s.targets, directory ∉ s.failed → ¬ s.Pending directory →
      Spares s.files name d node directory
  | .remove _ => True

instance (s : Wiper) (a : WipeAction) : Decidable (s.Calm a) :=
  match a with
  | .wiper => inferInstanceAs (Decidable (_ = _))
  | .create _ _ _ => inferInstanceAs (Decidable (_ → ∀ directory ∈ s.targets, _ → _ → _))
  | .remove _ => inferInstanceAs (Decidable True)

/-! ## Single calls -/

section Calls

variable {w : Platform} {s t : Wiper} {task : WipeTask} {rest : List WipeTask}
  {directory : Path JString} {left : Files JString → Path JString → Prop}

/-- What a call for the directories changes: it goes on with more calls, it may fail, and if it
    is a deletion the files change. -/
structure Advanced (w : Platform) (s t : Wiper) (task : WipeTask) (rest : List WipeTask) : Prop where
  phase : t.phase = .wiping t.tasks
  rest : rest ⊆ t.tasks
  failed : s.failed ⊆ t.failed
  files : t.files = s.files ∨
    ∃ it, task = .delete it ∧ t.files = (s.files.delete w.undeletable it).1
  targets : t.targets = s.targets
  metadata : t.metadata = s.metadata
  metadataCleared : t.metadataCleared = s.metadataCleared

/-- No call of the wipe adds an entry. -/
theorem Advanced.sub (h : Advanced w s t task rest) : Sub t.files.tree s.files.tree := by
  obtain hsame | ⟨it, -, hdeleted⟩ := h.files
  · rw [hsame]
    exact Sub.refl _
  · rw [hdeleted]
    exact Files.sub_delete

theorem advanced_goOn {tasks : List WipeTask} (h : rest ⊆ tasks) :
    Advanced w s (s.goOn tasks) task rest :=
  ⟨rfl, h, List.Subset.refl _, .inl rfl, rfl, rfl, rfl⟩

theorem advanced_fail : Advanced w s (s.fail directory rest) task rest :=
  ⟨rfl, List.Subset.refl _, List.subset_append_left _ _, .inl rfl, rfl, rfl, rfl⟩

/-- What one call of the wipe can do: tasks are only added, failures only recorded, at most one
    entry goes. -/
theorem perform_advanced (w : Platform) (s : Wiper) (rest : List WipeTask) (task : WipeTask) :
    Advanced w s (s.perform w rest task) task rest := by
  have hself : rest ⊆ rest := List.Subset.refl rest
  have hcons : ∀ task : WipeTask, rest ⊆ task :: rest := fun task => List.subset_cons_self task rest
  cases task with
  | enter directory =>
    rw [perform]
    split
    · exact advanced_goOn (hcons _)
    · exact advanced_goOn hself
  | list directory =>
    rw [perform]
    split
    · exact advanced_fail
    · refine ⟨rfl, ?_, List.Subset.refl _, .inl rfl, rfl, rfl, rfl⟩
      exact List.subset_append_of_subset_right _ (hcons _)
  | start child =>
    rw [perform]
    dsimp only
    split <;> exact ⟨rfl, hcons _, List.Subset.refl _, .inl rfl, rfl, rfl, rfl⟩
  | single child =>
    rw [perform]
    split
    · exact advanced_goOn (hcons _)
    · exact advanced_goOn hself
  | walk root =>
    rw [perform]
    split
    · exact advanced_goOn (hcons _)
    · exact advanced_goOn (List.subset_append_of_subset_right _ (hcons _))
  | visit file =>
    rw [perform]
    split <;> exact advanced_goOn (hcons _)
  | delete it =>
    have hdone : rest ⊆
        if (s.files.delete w.undeletable it).2 then rest else .check it :: rest := by
      split
      · exact hself
      · exact hcons _
    exact ⟨rfl, hdone, List.Subset.refl _, .inr ⟨it, rfl, rfl⟩, rfl, rfl, rfl⟩
  | check it => exact ⟨rfl, hself, List.Subset.refl _, .inl rfl, rfl, rfl, rfl⟩
  | verify child => exact ⟨rfl, hself, List.Subset.refl _, .inl rfl, rfl, rfl, rfl⟩
  | relist directory =>
    rw [perform]
    split
    · exact advanced_fail
    · split
      · exact advanced_goOn (hcons _)
      · exact advanced_fail
  | present directory remaining =>
    cases remaining with
    | nil => exact advanced_goOn hself
    | cons it remaining =>
      rw [perform]
      split
      · exact advanced_fail
      · exact advanced_goOn (hcons _)

/-- A directory stays accounted for as tasks and failures are added and entries go. -/
theorem Accounted.mono (h : s.Accounted left directory) (hfailed : s.failed ⊆ t.failed)
    (htasks : s.tasks ⊆ t.tasks) (hfiles : Sub t.files.tree s.files.tree)
    (hleft : ∀ it, left s.files it → left t.files it) : t.Accounted left directory := by
  obtain hfail | hpending | ⟨remaining, hremaining, hnames⟩ := h
  -- what has failed and what is still to be called only grows, and entries only go
  · exact .inl (hfailed hfail)
  · exact .inr (.inl (hpending.imp (fun hmem => htasks hmem)
      (Or.imp (fun hmem => htasks hmem) fun hmem => htasks hmem)))
  · refine .inr (.inr ⟨remaining, hremaining.imp_right fun hmem => htasks hmem, ?_⟩)
    intro d hd name hname
    have hbefore := hnames d (resolve_mono hfiles hd) name (Files.names_subset hfiles hname)
    exact hbefore.imp_right (hleft _)

/-- A directory is accounted for without the next call, unless the call is one of those that
    look at it. -/
theorem accounted_cons (hphase : s.phase = .wiping (task :: rest))
    (h : s.Accounted left directory) :
    (s.goOn rest).Accounted left directory ∨
      task = .enter directory ∨ task = .list directory ∨ task = .relist directory ∨
      ∃ remaining, task = .present directory remaining ∧ Among left s.files directory remaining := by
  have htasks : s.tasks = task :: rest := by rw [tasks, hphase]
  obtain hfail | hpending | ⟨remaining, hremaining, hnames⟩ := h
  · exact .inl (.inl hfail)
  · unfold Pending at hpending
    rw [htasks, List.mem_cons, List.mem_cons, List.mem_cons] at hpending
    obtain (rfl | hmem) | (rfl | hmem) | (rfl | hmem) := hpending
    · exact .inr (.inl rfl)
    · exact .inl (.inr (.inl (.inl hmem)))
    · exact .inr (.inr (.inl rfl))
    · exact .inl (.inr (.inl (.inr (.inl hmem))))
    · exact .inr (.inr (.inr (.inl rfl)))
    · exact .inl (.inr (.inl (.inr (.inr hmem))))
  · rw [htasks, List.mem_cons] at hremaining
    obtain hnil | rfl | hmem := hremaining
    · exact .inl (.inr (.inr ⟨remaining, .inl hnil, hnames⟩))
    · exact .inr (.inr (.inr (.inr ⟨remaining, rfl, hnames⟩)))
    · exact .inl (.inr (.inr ⟨remaining, .inr hmem, hnames⟩))

/-- A directory whose look fails is recorded as failed. -/
theorem accounted_fail : (s.fail directory rest).Accounted left directory :=
  .inl (List.mem_append_right _ (List.mem_singleton_self directory))

/-! ### The calls that look at a directory -/

/-- The first look: the directory is to be listed, or is not there. -/
theorem accounted_enter : (s.perform w rest (.enter directory)).Accounted left directory := by
  rw [perform]
  split
  · exact .inr (.inl (.inr (.inl List.mem_cons_self)))
  next habsent =>
    -- a directory that is not there needs no other look
    refine .inr (.inr ⟨[], .inl rfl, fun d hd => ?_⟩)
    exact absurd (Files.exists_iff.mpr ⟨d, hd⟩) habsent

theorem accounted_list : (s.perform w rest (.list directory)).Accounted left directory := by
  rw [perform]
  split
  · exact accounted_fail
  · exact .inr (.inl (.inr (.inr (List.mem_append_right _ List.mem_cons_self))))

/-- The last look: every name that is listed is still to be tested. -/
theorem accounted_relist : (s.perform w rest (.relist directory)).Accounted left directory := by
  rw [perform]
  split
  · exact accounted_fail
  next remaining hlisted =>
    split
    -- what has been listed is what is tested from here on
    · obtain ⟨d, hd, -, rfl⟩ := Files.listFiles_eq_some hlisted
      refine .inr (.inr ⟨_, .inr List.mem_cons_self, fun d' hd' name hname => ?_⟩)
      obtain rfl : d = d' := Option.some.inj (hd.symm.trans hd')
      exact .inl (List.mem_map_of_mem hname)
    · exact accounted_fail

/-- A test fails the directory or takes a name off the list, unless the name is a link it cannot
    see. -/
theorem accounted_present {remaining : List (Path JString)}
    (hphase : s.phase = .wiping (.present directory remaining :: rest)) (hleaves : s.Leaves left)
    (hnames : Among left s.files directory remaining) :
    (s.perform w rest (.present directory remaining)).Accounted left directory := by
  cases remaining with
  | nil => exact .inr (.inr ⟨[], .inl rfl, hnames⟩)
  | cons it remaining =>
    rw [perform]
    split
    · exact accounted_fail
    next hgone =>
      refine .inr (.inr ⟨remaining, .inr List.mem_cons_self, fun d hd name hname => ?_⟩)
      obtain hmem | hleft := hnames d hd name hname
      · obtain rfl | hmem := List.mem_cons.mp hmem
        · -- an entry that does not exist by the test is a link
          obtain hexists | hlink := Files.exists_or_isLink hd hname
          · exact absurd hexists hgone
          · rw [Leaves, tasks, hphase] at hleaves
            exact .inr (hleaves hlink (Bool.eq_false_iff.mpr hgone))
        · exact .inl hmem
      · exact .inr hleft

/-- **One call** keeps a directory accounted for. -/
theorem accounted_perform (hphase : s.phase = .wiping (task :: rest)) (hleaves : s.Leaves left)
    (hleft : ∀ it, left s.files it → left (s.perform w rest task).files it)
    (h : s.Accounted left directory) : (s.perform w rest task).Accounted left directory := by
  have hadvanced := perform_advanced w s rest task
  obtain hrest | rfl | rfl | rfl | ⟨remaining, rfl, hnames⟩ := accounted_cons hphase h
  · exact hrest.mono hadvanced.failed hadvanced.rest hadvanced.sub hleft
  · exact accounted_enter
  · exact accounted_list
  · exact accounted_relist
  · exact accounted_present hphase hleaves hnames

/-! ### The other components -/

/-- A new entry that spares a directory adds nothing to it. -/
theorem Held.create {name : JString} {d : Location JString} {node : Node JString}
    (h : s.Held nothing directory) (hspares : Spares s.files name d node directory)
    (hdir : isDir s.files.tree d = true) (habsent : s.files.tree (name :: d) = none) :
    Held nothing { s with files := s.files.create name d node hdir habsent } directory := by
  obtain ⟨remaining, hremaining, hnames⟩ := h
  have htree : (s.files.create name d node hdir habsent).tree =
      Function.update s.files.tree (name :: d) (some node) := by
    funext l
    rw [Files.tree_create, Function.update_apply]
  refine ⟨remaining, hremaining, fun l hl it hit => ?_⟩
  obtain ⟨itsNode, hnode⟩ := Files.mem_names_iff.mp hit
  change resolve (s.files.create name d node hdir habsent).tree directory = some l at hl
  cases hbefore : resolve s.files.tree directory with
  | some l' =>
    rw [Spares, hbefore] at hspares
    obtain rfl : l' = l :=
      Option.some.inj ((resolve_mono (Files.sub_create hdir habsent) hbefore).symm.trans hl)
    -- the entry that is met is not the new one, which is in another directory
    rw [Files.tree_create, if_neg fun hsame => hspares (List.cons_eq_cons.mp hsame).2] at hnode
    exact hnames l' hbefore it (Files.mem_names_iff.mpr ⟨itsNode, hnode⟩)
  | none =>
    rw [Spares, hbefore, ← htree, hl] at hspares
    obtain rfl : l = name :: d := Option.some.inj (hspares.resolve_left nofun)
    -- nothing is below the new entry, as nothing was there
    rw [Files.tree_create, if_neg (List.cons_ne_self it _)] at hnode
    have hthere := isDir_iff.mp (Files.isDir_of_tree hnode)
    simp [habsent] at hthere

end Calls

/-! ## What a step of the wiper can do -/

/-- Nothing has failed when the key is looked for, and it is not there. -/
structure Reports (w : Platform) (s : Wiper) : Prop where
  phase : s.phase = .keyExists
  opened : w.loadForCheck = .ok ()
  failed : s.failed = []
  metadataCleared : s.metadataCleared = true
  key : s.key = false

/-- A step beside the directories: it calls nothing on them and does not report success. -/
structure Quiet (s t : Wiper) : Prop where
  files : t.files = s.files
  failed : t.failed = s.failed
  metadata : t.metadata = s.metadata
  metadataCleared : t.metadataCleared = s.metadataCleared
  tasks : t.tasks = []
  underway : t.underway = true → s.underway = true ∧ s.tasks = [] ∧ t.targets = s.targets
  begun : t.begun = false → s.begun = false
  phase : t.phase ≠ .returned .completed

section Steps

variable {w : Platform} {s t : Wiper}

/-- `COMPLETED` is reported on no failure, with the metadata and the key gone. -/
theorem outcome_eq_completed_iff {keyStillPresent : Bool} : s.outcome keyStillPresent = .completed ↔
    s.failed = [] ∧ s.metadataCleared = true ∧ keyStillPresent = false := by
  unfold outcome
  cases hcleared : s.metadataCleared with
  | false => simp
  -- the failures are looked at before the key
  | true =>
    by_cases hfailed : s.failed = []
    · cases keyStillPresent <;> simp [hfailed]
    · simp [hfailed]

theorem keyExists_eq_ok_iff {present stillPresent : Bool} :
    w.keyExists present = .ok stillPresent ↔ w.loadForCheck = .ok () ∧ present = stillPresent := by
  unfold Platform.keyExists
  cases hload : w.loadForCheck with
  | error message => exact iff_of_false nofun fun h => absurd h.1 nofun
  | ok => exact ⟨fun h => ⟨rfl, Except.ok.inj h⟩, fun h => congrArg Except.ok h.2⟩

/-- A success is reported from there only. -/
theorem Reports.advance (h : s.Reports w) :
    s.advance w = some { s with phase := .returned .completed } := by
  have hkey : w.keyExists s.key = .ok false := keyExists_eq_ok_iff.mpr ⟨h.opened, h.key⟩
  have houtcome : s.outcome false = .completed :=
    outcome_eq_completed_iff.mpr ⟨h.failed, h.metadataCleared, rfl⟩
  simp only [Wiper.advance, h.phase, hkey, houtcome]

/-- **What a step can do.** -/
theorem advance_cases (hstep : s.advance w = some t) :
    Quiet s t ∨
      (∃ metadataCleared, s.phase = .commit ∧ t = { s with
        phase := .wiping (s.targets.map .enter)
        files := w.committed s.files
        metadata := if metadataCleared then [] else s.metadata
        metadataCleared }) ∨
      (∃ task rest, s.phase = .wiping (task :: rest) ∧ t = s.perform w rest task) ∨
      (s.Reports w ∧ t = { s with phase := .returned .completed }) := by
  unfold Wiper.advance at hstep
  split at hstep
  -- the stop requests, and the call of `wipeAll`
  next hphase =>
    cases hstep
    exact .inl ⟨rfl, rfl, rfl, rfl, rfl, nofun, fun _ => by rw [begun, hphase], nofun⟩
  next hphase =>
    cases hstep
    exact .inl ⟨rfl, rfl, rfl, rfl, rfl, nofun, fun _ => by rw [begun, hphase], nofun⟩
  -- `distinctBy`
  next hphase =>
    cases hstep
    exact .inl ⟨rfl, rfl, rfl, rfl, rfl, nofun, fun _ => by rw [begun, hphase], nofun⟩
  next it rest hphase =>
    split at hstep
    · cases hstep
      exact .inl ⟨rfl, rfl, rfl, rfl, rfl, nofun, nofun, nofun⟩
    · dsimp only at hstep
      split at hstep <;>
      · cases hstep
        exact .inl ⟨rfl, rfl, rfl, rfl, rfl, nofun, fun _ => by rw [begun, hphase], nofun⟩
  next hphase =>
    split at hstep
    · cases hstep
      exact .inl ⟨rfl, rfl, rfl, rfl, rfl, nofun, nofun, nofun⟩
    next metadataCleared _ =>
      cases hstep
      exact .inr (.inl ⟨metadataCleared, hphase, rfl⟩)
  -- the directories
  next hphase =>
    cases hstep
    exact .inl ⟨rfl, rfl, rfl, rfl, rfl,
      fun _ => ⟨by rw [Wiper.underway, hphase], by rw [Wiper.tasks, hphase], rfl⟩, nofun, nofun⟩
  next task rest hphase =>
    cases hstep
    exact .inr (.inr (.inl ⟨task, rest, hphase, rfl⟩))
  -- the key, and the result
  next hphase =>
    split at hstep
    · cases hstep
      exact .inl ⟨rfl, rfl, rfl, rfl, rfl, nofun, nofun, nofun⟩
    · cases hstep
      exact .inl ⟨rfl, rfl, rfl, rfl, rfl,
        fun _ => ⟨by rw [Wiper.underway, hphase], by rw [Wiper.tasks, hphase], rfl⟩, nofun, nofun⟩
  next hphase =>
    split at hstep
    · cases hstep
      exact .inl ⟨rfl, rfl, rfl, rfl, rfl, nofun, nofun, nofun⟩
    next keyStillPresent hkey =>
      cases hstep
      cases houtcome : s.outcome keyStillPresent with
      | failed reason => exact .inl ⟨rfl, rfl, rfl, rfl, rfl, nofun, nofun, nofun⟩
      | completed =>
        obtain ⟨hopened, rfl⟩ := keyExists_eq_ok_iff.mp hkey
        obtain ⟨hfailed, hcleared, habsent⟩ := outcome_eq_completed_iff.mp houtcome
        exact .inr (.inr (.inr ⟨⟨hphase, hopened, hfailed, hcleared, habsent⟩, rfl⟩))
  next hphase => cases hstep

end Steps

/-! ## Runs -/

/-- Every target directory is accounted for, and a wipe is reported as completed only if nothing
    has failed. -/
structure Audit (left : Files JString → Path JString → Prop) (s : Wiper) : Prop where
  accounted : s.underway = true → ∀ directory ∈ s.targets, s.Accounted left directory
  reported : s.phase = .returned .completed →
    s.failed = [] ∧ s.metadataCleared = true ∧ s.key = false
  cleared : s.metadataCleared = true → s.metadata = []

section Runs

variable {w : Platform} {s t : Wiper} {a : WipeAction}
  {left : Files JString → Path JString → Prop}

/-- A step that makes no call on a directory loses none of those that nothing is to come for. -/
theorem Audit.accounted_of_empty (h : s.Audit left) (hunderway : s.underway = true)
    (htasks : s.tasks = []) (htargets : t.targets = s.targets) (hfailed : t.failed = s.failed)
    (hfiles : t.files = s.files) : ∀ directory ∈ t.targets, t.Accounted left directory := by
  intro directory hmem
  have hbefore := h.accounted hunderway directory (htargets ▸ hmem)
  refine hbefore.mono (hfailed ▸ List.Subset.refl _) (htasks ▸ List.nil_subset _) ?_ fun it => ?_
  · rw [hfiles]
    exact Sub.refl _
  · rw [hfiles]
    exact id

/-- **One step of the wiper** keeps the audit. -/
theorem Audit.advance (h : s.Audit left) (hleaves : s.Leaves left)
    (hleft : ∀ it, Sub t.files.tree s.files.tree → left s.files it → left t.files it)
    (hstep : s.advance w = some t) : t.Audit left := by
  obtain hquiet | ⟨metadataCleared, -, rfl⟩ | ⟨task, rest, hphase, rfl⟩ | ⟨hreports, rfl⟩ :=
    advance_cases hstep
  · refine ⟨fun hunderway => ?_, fun hphase => absurd hphase hquiet.phase, fun hcleared => ?_⟩
    · obtain ⟨hbefore, htasks, htargets⟩ := hquiet.underway hunderway
      exact h.accounted_of_empty hbefore htasks htargets hquiet.failed hquiet.files
    · rw [hquiet.metadata]
      exact h.cleared (hquiet.metadataCleared ▸ hcleared)
  · -- all looks are still to come when the directories are begun
    refine ⟨fun _ directory hmem => ?_, nofun, fun hcleared => if_pos hcleared⟩
    exact .inr (.inl (.inl (List.mem_map_of_mem hmem)))
  · have hunderway : s.underway = true := by rw [underway, hphase]
    have hadvanced := perform_advanced w s rest task
    refine ⟨fun _ directory hmem => ?_, fun hreturned => ?_, fun hcleared => ?_⟩
    · exact accounted_perform hphase hleaves (fun it => hleft it hadvanced.sub)
        (h.accounted hunderway directory (hadvanced.targets ▸ hmem))
    · exact absurd (hadvanced.phase.symm.trans hreturned) nofun
    · rw [hadvanced.metadata]
      exact h.cleared (hadvanced.metadataCleared ▸ hcleared)
  · have hunderway : s.underway = true := by rw [underway, hreports.phase]
    have htasks : s.tasks = [] := by rw [tasks, hreports.phase]
    exact ⟨fun _ => h.accounted_of_empty hunderway htasks rfl rfl rfl,
      fun _ => ⟨hreports.failed, hreports.metadataCleared, hreports.key⟩, h.cleared⟩

/-- **A calm step** leaves nothing. -/
theorem Audit.step (h : s.Audit nothing) (hcalm : s.Calm a) (hstep : s.step w a = some t) :
    t.Audit nothing := by
  cases a with
  | wiper =>
    refine h.advance ?_ (fun _ _ => id) hstep
    unfold Leaves
    split
    next it remaining rest htasks =>
      intro hlink hgone
      simp [Calm, passesDangling, htasks, hlink, hgone] at hcalm
    · trivial
  | create name d node =>
    rw [Wiper.step] at hstep
    split at hstep
    · cases hstep
    · split at hstep
      next hnew =>
        cases hstep
        refine ⟨fun hunderway directory hmem => ?_, h.reported, h.cleared⟩
        by_cases hfail : directory ∈ s.failed
        · exact .inl hfail
        · by_cases hpending : s.Pending directory
          · exact .inr (.inl hpending)
          · -- the last look is behind, so the new entry has to spare the directory
            have hheld := ((h.accounted hunderway directory hmem).resolve_left hfail).resolve_left
              hpending
            have hspares := hcalm hunderway directory hmem hfail hpending
            exact .inr (.inr (hheld.create hspares hnew.1 hnew.2))
      · cases hstep
  | remove l =>
    rw [Wiper.step] at hstep
    split at hstep
    · cases hstep
    · split at hstep
      next hempty =>
        cases hstep
        refine ⟨fun hunderway directory hmem => ?_, h.reported, h.cleared⟩
        exact (h.accounted hunderway directory hmem).mono (List.Subset.refl _)
          (List.Subset.refl _) (Files.sub_remove hempty) fun _ => id
      · cases hstep

/-- What an audit says of a completed wipe: the entries of the targets are those that have been
    left. -/
theorem Audit.completed (h : s.Audit left) (hphase : s.phase = .returned .completed) :
    (∀ directory ∈ s.targets, Among left s.files directory []) ∧ s.metadata = [] ∧
      s.key = false := by
  obtain ⟨hfailed, hcleared, hkey⟩ := h.reported hphase
  refine ⟨fun directory hmem => ?_, h.cleared hcleared, hkey⟩
  have htasks : s.tasks = [] := by rw [tasks, hphase]
  have hunderway : s.underway = true := by rw [underway, hphase]
  obtain hfail | hpending | ⟨remaining, hremaining, hnames⟩ := h.accounted hunderway directory hmem
  · rw [hfailed] at hfail
    cases hfail
  · simp [Pending, htasks] at hpending
  · obtain rfl : remaining = [] := by simpa [htasks] using hremaining
    exact hnames

/-- A directory of which no name is left to account for is empty. -/
theorem emptied_of_among {directory : Path JString} (h : Among nothing s.files directory []) :
    Emptied s.files directory := by
  intro d hd
  rw [List.eq_nil_iff_forall_not_mem]
  exact fun name hname => (h d hd name hname).elim List.not_mem_nil id

/-- **A completed wipe is complete when it is reported**, in every interleaving with the other
    components that is calm. -/
theorem complete_when_reported {files : Files JString} {metadata : List (JString × JString)}
    {key : Bool} {actions : List WipeAction}
    (hcalm : AllSteps (step w) Calm (confirmed files metadata key) actions)
    (hrun : run (step w) (confirmed files metadata key) actions = some s)
    (hcompleted : s.phase = .returned .completed) :
    ∀ directory ∈ s.targets, Emptied s.files directory := by
  have hstart : (confirmed files metadata key).Audit nothing := ⟨nofun, nofun, nofun⟩
  have haudit : s.Audit nothing :=
    run_invariant_of_allSteps (fun _ _ _ => Audit.step) hstart hcalm hrun
  exact fun directory hmem => emptied_of_among ((haudit.completed hcompleted).1 directory hmem)

end Runs

/-- A device on which every call succeeds. -/
def obedient (context : Context) : Platform where
  context
  deviceContext := context
  undeletable _ := false
  unreadable _ := false
  canonicalError _ := none
  commit := .ok true
  committed := id
  committed_kept _ _ _ h _ := h
  loadForDeletion := .ok ()
  deleteEntry := .ok true
  loadForCheck := .ok ()

/-- All directories of the application are one. -/
def oneDirectory (directory : Path JString) : Context where
  filesDir := directory
  cacheDir := directory
  codeCacheDir := directory
  externalFilesDir := none
  externalCacheDir := none
  noBackupFilesDir := directory
  dataDir := directory

/-- The directory `/files`, with nothing in it. -/
def emptyFiles : Files JString where
  entries := [([ascii "files"], .directory)]
  nodup := by decide
  parents := by decide

def emptyDevice : Platform :=
  obedient (oneDirectory [ascii "files"])

/-- While `/files` is being wiped two files are made in it, one of which is removed again behind the
    first listing; and behind the last look at it, and at two directories that are not there, a file
    is made beside it. -/
def lateFiles : List WipeAction :=
  List.replicate 22 .wiper ++ [.create (ascii "torrc") [ascii "files"] .file, .wiper,
    .create (ascii "lock") [ascii "files"] .file, .wiper, .remove [ascii "lock", ascii "files"]] ++
  List.replicate 11 .wiper ++ .create (ascii "log") [] .file :: List.replicate 6 .wiper

theorem complete_when_reported_lateFile : ∃ s,
    run (step emptyDevice) (confirmed emptyFiles [] true) lateFiles = some s ∧
      s.phase = .returned .completed ∧ s.files.tree [ascii "log"] = some .file ∧
      ∀ directory ∈ s.targets, Emptied s.files directory := by
  have hends : ((run (step emptyDevice) (confirmed emptyFiles [] true) lateFiles).any
      fun s => s.phase = .returned .completed ∧
        s.files.tree [ascii "log"] = some .file) = true := by decide +kernel
  obtain ⟨s, hrun, hend⟩ := (Option.any_eq_true _ _).mp hends
  obtain ⟨hcompleted, hlog⟩ := of_decide_eq_true hend
  exact ⟨s, hrun, hcompleted, hlog,
    complete_when_reported (by decide +kernel) hrun hcompleted⟩

/-- A directory that is made behind the last look at `/files` is there when the wipe is reported as
    completed. -/
theorem incomplete_when_reported :
    ¬ ∀ (w : Platform) (files : Files JString) (metadata : List (JString × JString)) (key : Bool)
      (actions : List WipeAction) (s : Wiper),
      run (step w) (confirmed files metadata key) actions = some s →
        s.phase = .returned .completed → ∀ directory ∈ s.targets, Emptied s.files directory := by
  intro h
  have hends : ((run (step emptyDevice) (confirmed emptyFiles [] true)
      (List.replicate 26 .wiper ++ .create (ascii "tor") [ascii "files"] .directory ::
        List.replicate 8 .wiper)).any
      fun s => s.phase = .returned .completed ∧ [ascii "files"] ∈ s.targets ∧
        resolve s.files.tree [ascii "files"] = some [ascii "files"] ∧
        s.files.names [ascii "files"] = [ascii "tor"]) = true := by decide +kernel
  obtain ⟨s, hrun, hend⟩ := (Option.any_eq_true _ _).mp hends
  obtain ⟨hcompleted, hmem, hresolve, hnames⟩ := of_decide_eq_true hend
  have hempty := h emptyDevice emptyFiles [] true _ s hrun hcompleted _ hmem _ hresolve
  exact absurd (hnames.symm.trans hempty) (by decide)

end Wiper

end DarkMed.Settings
