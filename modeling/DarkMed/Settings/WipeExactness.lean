import DarkMed.Settings.WipeVerification

/-!
# What a Wipe Removes

`wipeAll` with no other component at work: which entries it takes away, and which it leaves when
it reports that it has completed.  Where a target directory is, its canonical path says.

The walk follows links, so it can delete outside the target directories; and the last look at a
directory passes over a link that leads nowhere.  Nothing else can go wrong.
-/

namespace DarkMed.Settings

open DarkMed.Lib DarkMed.Lib.Transition DarkMed.Lib.FileSystem

/-- The location is that of a target directory, or below one. -/
def AtTarget (w : Platform) (files : Files JString) (l : Location JString) : Prop :=
  ∃ directory ∈ w.candidates, files.canonicalPath directory <:+ l

instance (w : Platform) (files : Files JString) (l : Location JString) :
    Decidable (AtTarget w files l) :=
  inferInstanceAs (Decidable (∃ directory ∈ w.candidates, files.canonicalPath directory <:+ l))

namespace Wiper

/-- The states that `wipeAll` comes to on its own. -/
inductive Reached (w : Platform) (s₀ : Wiper) : Wiper → Prop
  | start : Reached w s₀ s₀
  | call {s t : Wiper} (before : Reached w s₀ s) (step : s.advance w = some t) : Reached w s₀ t

/-- A completed wipe has emptied the target directories and cleared the metadata and the key, and
    no wipe has removed an entry outside the target directories. -/
structure WipedExactly (w : Platform) (files : Files JString) (s : Wiper) : Prop where
  completed : s.phase = .returned .completed →
    (∀ directory ∈ s.targets, Emptied s.files directory) ∧ s.metadata = [] ∧ s.key = false
  kept : ∀ l node, files.tree l = some node → ¬ AtTarget w files l.tail →
    s.files.tree l = some node

/-- An entry that a deletion would take away. -/
def Removable (w : Platform) (s : Wiper) (l : Location JString) : Prop :=
  s.files.tree l ≠ none ∧ w.undeletable l = false ∧ s.files.names l = []

/-- The next call is the right one: a deletion that takes away an entry that was there is made in
    a target directory, and what is reported as completed holds no dangling link. -/
structure Exact (w : Platform) (files : Files JString) (s : Wiper) : Prop where
  deletes : ∀ name parent rest, s.phase = .wiping (.delete (name :: parent) :: rest) →
    ∀ d, resolve s.files.tree parent = some d → files.tree (name :: d) ≠ none →
      s.Removable w (name :: d) → AtTarget w files d
  reports : s.Reports w → ∀ directory ∈ s.targets, ∀ d,
    resolve s.files.tree directory = some d → ∀ name ∈ s.files.names d,
      s.files.isLink (name :: directory) = true → s.files.exists (name :: directory) = true

section Calls

variable {w : Platform} {files : Files JString} {s s₀ t : Wiper}

/-- What the tests for existence leave: with fewer entries, it is left all the more. -/
def absent : Files JString → Path JString → Prop :=
  fun fs it => fs.exists it = false

/-- Entries only go, so what is absent stays absent. -/
theorem absent_of_sub {fs fs' : Files JString} {it : Path JString} (hsub : Sub fs'.tree fs.tree)
    (h : absent fs it) : absent fs' it := by
  apply Bool.eq_false_iff.mpr
  intro hexists
  obtain ⟨l, hl⟩ := Files.exists_iff.mp hexists
  exact absurd (Files.exists_iff.mpr ⟨l, resolve_mono hsub hl⟩) (Bool.eq_false_iff.mp h)

/-- With `absent` for what may be left, every state leaves what it has to. -/
theorem leaves_absent : s.Leaves absent := by
  unfold Leaves
  split
  · exact fun _ hgone => hgone
  · trivial

/-- The invariant of the calls: beside what is claimed, the audit in which dangling links are left,
    and the files as they were until the preferences are committed. -/
structure Sound (w : Platform) (files : Files JString) (s : Wiper) : Prop where
  audit : s.Audit absent
  untouched : s.begun = false → s.files = files
  exactly : s.WipedExactly w files

/-- Before the first call nothing has been touched. -/
theorem sound_called {metadata : List (JString × JString)} {key : Bool} :
    (called w files metadata key).Sound w files :=
  ⟨⟨nofun, nofun, nofun⟩, fun _ => rfl, ⟨nofun, fun _ _ hnode _ => hnode⟩⟩

/-- A deletion that is exact takes nothing away that is outside. -/
theorem kept_delete {it : Path JString} {rest : List WipeTask} (hexact : s.Exact w files)
    (hphase : s.phase = .wiping (.delete it :: rest)) {l : Location JString} {node : Node JString}
    (hnode : files.tree l = some node) (hkept : s.files.tree l = some node)
    (houtside : ¬ AtTarget w files l.tail) :
    (s.files.delete w.undeletable it).1.tree l = some node := by
  obtain hsame | ⟨name, parent, d, hempty, rfl, hd, hdeletable, hremoved⟩ :=
    Files.delete_cases s.files w.undeletable it
  · rw [hsame]
    exact hkept
  · rw [hremoved, Files.tree_remove]
    split
    next hl =>
      subst hl
      have hthere : files.tree (name :: d) ≠ none := by rw [hnode]; nofun
      have hremovable : s.Removable w (name :: d) := ⟨by rw [hkept]; nofun, hdeletable, hempty⟩
      exact absurd (hexact.deletes name parent rest hphase d hd hthere hremovable) houtside
    · exact hkept

/-- **One exact call** keeps the invariant. -/
theorem Sound.advance (h : s.Sound w files) (hexact : s.Exact w files)
    (hstep : s.advance w = some t) : t.Sound w files := by
  have haudit : t.Audit absent :=
    h.audit.advance leaves_absent (fun it hsub => absent_of_sub hsub) hstep
  obtain hquiet | ⟨metadataCleared, hphase, rfl⟩ | ⟨task, rest, hphase, rfl⟩ | ⟨hreports, rfl⟩ :=
    advance_cases hstep
  · refine ⟨haudit, fun hbegun => ?_, fun hphase => absurd hphase hquiet.phase, ?_⟩
    · exact hquiet.files.trans (h.untouched (hquiet.begun hbegun))
    · rw [hquiet.files]
      exact h.exactly.kept
  · -- the preferences are the only thing that is written before the deletions
    refine ⟨haudit, fun h => (by cases h), fun h => (by cases h), fun l node hnode houtside => ?_⟩
    have hfiles : s.files = files := h.untouched (by rw [begun, hphase])
    rw [hfiles]
    refine w.committed_kept files l node hnode fun hpreferences => houtside ?_
    exact ⟨_, by simp [Platform.candidates, wipeCandidates, List.reduceOption], hpreferences⟩
  · have hadvanced := perform_advanced w s rest task
    have hwiping := hadvanced.phase
    refine ⟨haudit, fun hbegun => ?_, fun hreturned => ?_, fun l node hnode houtside => ?_⟩
    · rw [begun, hwiping] at hbegun
      cases hbegun
    · exact absurd (hwiping.symm.trans hreturned) (by simp)
    · have hkept := h.exactly.kept l node hnode houtside
      obtain hsame | ⟨it, rfl, hdeleted⟩ := hadvanced.files
      · rw [hsame]
        exact hkept
      · rw [hdeleted]
        exact kept_delete hexact hphase hnode hkept houtside
  · refine ⟨haudit, fun h => (by cases h), fun hcompleted => ?_, h.exactly.kept⟩
    obtain ⟨hleft, hmetadata, hkey⟩ := haudit.completed hcompleted
    refine ⟨fun directory hmem d hd => ?_, hmetadata, hkey⟩
    rw [List.eq_nil_iff_forall_not_mem]
    intro name hname
    -- what is left is a link that leads nowhere, and there is none
    have hgone : ¬ s.files.exists (name :: directory) = true :=
      Bool.eq_false_iff.mp ((hleft directory hmem d hd name hname).resolve_left List.not_mem_nil)
    have hlink := (Files.exists_or_isLink hd hname).resolve_left hgone
    exact hgone (hexact.reports hreports directory hmem d hd name hname hlink)

/-- The wipe stays sound in every state it reaches. -/
theorem Sound.reached (hstart : s₀.Sound w files)
    (hexact : ∀ s, Reached w s₀ s → s.Exact w files) (h : Reached w s₀ s) : s.Sound w files := by
  induction h with
  | start => exact hstart
  | call hbefore hstep ih => exact ih.advance (hexact _ hbefore) hstep

/-- A call that is not exact does what is claimed not to happen. -/
theorem exact_of_wipedExactly (h : ∀ t, Reached w s₀ t → t.WipedExactly w files)
    (hs : Reached w s₀ s) : s.Exact w files := by
  refine ⟨fun name parent rest hphase d hd hthere hremovable => ?_,
    fun hreports directory hmem d hd name hname _ => ?_⟩
  · by_contra houtside
    -- the next state has lost an entry that is outside
    obtain ⟨hpresent, hdeletable, hempty⟩ := hremovable
    obtain ⟨node, hnode⟩ := Option.ne_none_iff_exists'.mp hthere
    have hstep : s.advance w = some (s.perform w rest (.delete (name :: parent))) := by
      simp only [advance, hphase]
    have hkept := (h _ (hs.call hstep)).kept (name :: d) node hnode houtside
    have hdeleted : (s.perform w rest (.delete (name :: parent))).files =
        s.files.remove (name :: d) hempty := by
      simp [perform, Files.delete, hd, hpresent, hdeletable, hempty]
    rw [hdeleted, Files.tree_remove, if_pos rfl] at hkept
    cases hkept
  · -- the next state reports the success, and the directory still has an entry
    have hempty := ((h _ (hs.call hreports.advance)).completed rfl).1 directory hmem d hd
    change s.files.names d = [] at hempty
    rw [hempty] at hname
    cases hname

end Calls

/-! ## Only links -/

/-- The path is in a directory that is in or below a target directory, through whatever links. -/
def Inside (w : Platform) (files fs : Files JString) (it : Path JString) : Prop :=
  ∃ name parent, it = name :: parent ∧
    ∀ d, resolve fs.tree parent = some d → AtTarget w files d

/-- The path leads to a target directory, or below one. -/
def LeadsInside (w : Platform) (files fs : Files JString) (it : Path JString) : Prop :=
  ∀ l, resolve fs.tree it = some l → AtTarget w files l

/-- What is listed leads inside, and what is deleted is inside. -/
def TaskInside (w : Platform) (files fs : Files JString) : WipeTask → Prop
  | .list directory => LeadsInside w files fs directory
  | .walk root => Inside w files fs root ∧ LeadsInside w files fs root
  | .start it | .single it | .visit it | .delete it => Inside w files fs it
  | _ => True

/-- The next call does not leave the target directories: each of them is where its canonical path
    was, and no link that is taken for a directory leads out of them. -/
def Contained (w : Platform) (files : Files JString) (s : Wiper) : Prop :=
  match s.tasks with
  | .enter directory :: _ => LeadsInside w files s.files directory
  | .start it :: _ | .visit it :: _ =>
    s.files.isLink it = true → s.files.isDirectory it = true → LeadsInside w files s.files it
  | _ => True

section Links

variable {w : Platform} {files fs fs' : Files JString} {s s₀ t : Wiper} {task : WipeTask}
  {rest : List WipeTask} {it : Path JString}

theorem Inside.mono (h : Inside w files fs it) (hsub : Sub fs'.tree fs.tree) :
    Inside w files fs' it := by
  obtain ⟨name, parent, rfl, hparent⟩ := h
  exact ⟨name, parent, rfl, fun d hd => hparent d (resolve_mono hsub hd)⟩

theorem LeadsInside.mono (h : LeadsInside w files fs it) (hsub : Sub fs'.tree fs.tree) :
    LeadsInside w files fs' it :=
  fun l hl => h l (resolve_mono hsub hl)

theorem TaskInside.mono (h : TaskInside w files fs task) (hsub : Sub fs'.tree fs.tree) :
    TaskInside w files fs' task := by
  cases task with
  | list directory => exact LeadsInside.mono h hsub
  | walk root => exact ⟨h.1.mono hsub, h.2.mono hsub⟩
  | start it => exact Inside.mono h hsub
  | single it => exact Inside.mono h hsub
  | visit it => exact Inside.mono h hsub
  | delete it => exact Inside.mono h hsub
  | _ => trivial

/-- What is no link leads to where it is. -/
theorem Inside.leadsInside (h : Inside w files fs it)
    (hlink : fs.isLink it = true → LeadsInside w files fs it) : LeadsInside w files fs it := by
  intro l hl
  obtain ⟨name, parent, rfl, hparent⟩ := h
  obtain ⟨d, hd, -, rfl | ⟨target, hnode, -⟩⟩ := exists_resolve_of_cons hl
  · obtain ⟨directory, hmem, hsuffix⟩ := hparent d hd
    exact ⟨directory, hmem, hsuffix.trans (List.suffix_cons name d)⟩
  · exact hlink (Files.isLink_of_tree hd hnode) l hl

/-- What a directory inside lists is inside. -/
theorem LeadsInside.inside {children : List (Path JString)} {unreadable : Location JString → Bool}
    (h : LeadsInside w files fs it) (hlisted : fs.listFiles unreadable it = some children) :
    ∀ child ∈ children, Inside w files fs child := by
  obtain ⟨d, hd, -, rfl⟩ := Files.listFiles_eq_some hlisted
  intro child hchild
  obtain ⟨name, -, rfl⟩ := List.mem_map.mp hchild
  exact ⟨name, it, rfl, h⟩

theorem mem_or_of_mem_cons {P : WipeTask → Prop} {new task' : WipeTask}
    (hmem : task' ∈ new :: rest) (hnew : P new) : task' ∈ rest ∨ P task' := by
  obtain rfl | hmem := List.mem_cons.mp hmem
  · exact .inr hnew
  · exact .inl hmem

/-- **One contained call** calls nothing outside. -/
theorem taskInside_perform (hphase : s.phase = .wiping (task :: rest))
    (hcontained : s.Contained w files) (hinside : TaskInside w files s.files task)
    {task' : WipeTask} (hmem : task' ∈ (s.perform w rest task).tasks) :
    task' ∈ rest ∨ TaskInside w files s.files task' := by
  have htasks : s.tasks = task :: rest := by rw [tasks, hphase]
  rw [Contained, htasks] at hcontained
  cases task with
  | enter directory =>
    rw [perform] at hmem
    split at hmem
    · exact mem_or_of_mem_cons hmem hcontained
    · exact .inl hmem
  | list directory =>
    rw [perform] at hmem
    split at hmem
    · exact .inl hmem
    next children hlisted =>
      obtain hmem | hmem := List.mem_append.mp hmem
      -- each child is walked and verified, and the directory is listed again behind them
      · obtain ⟨child, hchild, hwalk⟩ := List.mem_flatMap.mp hmem
        have hin : Inside w files s.files child := LeadsInside.inside hinside hlisted child hchild
        obtain rfl | hwalk := List.mem_cons.mp hwalk
        · exact .inr hin
        · rw [List.mem_singleton.mp hwalk]
          exact .inr trivial
      · exact mem_or_of_mem_cons hmem trivial
  | start child =>
    rw [perform] at hmem
    dsimp only at hmem
    split at hmem
    next hdir =>
      -- what is entered is a directory of its own, or a link that is contained
      have hleads : LeadsInside w files s.files _ :=
        Inside.leadsInside hinside fun hlink => hcontained hlink hdir
      exact mem_or_of_mem_cons hmem ⟨hinside, hleads⟩
    · exact mem_or_of_mem_cons hmem hinside
  | single child =>
    rw [perform] at hmem
    split at hmem
    · exact mem_or_of_mem_cons hmem hinside
    · exact .inl hmem
  | walk root =>
    rw [perform] at hmem
    split at hmem
    · exact mem_or_of_mem_cons hmem hinside.1
    next fileList hlisted =>
      obtain hmem | hmem := List.mem_append.mp hmem
      · obtain ⟨file, hfile, rfl⟩ := List.mem_map.mp hmem
        exact .inr (LeadsInside.inside hinside.2 hlisted file hfile)
      · exact mem_or_of_mem_cons hmem hinside.1
  | visit file =>
    rw [perform] at hmem
    split at hmem
    next hdir =>
      have hleads : LeadsInside w files s.files _ :=
        Inside.leadsInside hinside fun hlink => hcontained hlink hdir
      exact mem_or_of_mem_cons hmem ⟨hinside, hleads⟩
    · exact mem_or_of_mem_cons hmem hinside
  | delete it =>
    change task' ∈ if (s.files.delete w.undeletable it).2 then rest else .check it :: rest at hmem
    split at hmem
    · exact .inl hmem
    · exact mem_or_of_mem_cons hmem trivial
  | check it => exact .inl hmem
  | verify child => exact .inl hmem
  | relist directory =>
    rw [perform] at hmem
    split at hmem
    · exact .inl hmem
    · split at hmem
      · exact mem_or_of_mem_cons hmem trivial
      · exact .inl hmem
  | present directory remaining =>
    cases remaining with
    | nil => exact .inl hmem
    | cons it remaining =>
      rw [perform] at hmem
      split at hmem
      · exact .inl hmem
      · exact mem_or_of_mem_cons hmem trivial

/-- The invariant of contained calls. -/
structure Confined (w : Platform) (files : Files JString) (s : Wiper) : Prop where
  audit : s.Audit nothing
  inside : ∀ task ∈ s.tasks, TaskInside w files s.files task

/-- One call of a contained wipe stays inside the targets. -/
theorem Confined.advance (h : s.Confined w files) (hcontained : s.Contained w files)
    (hseen : s.passesDangling = false) (hstep : s.advance w = some t) : t.Confined w files := by
  refine ⟨h.audit.step (a := .wiper) hseen hstep, fun task' hmem => ?_⟩
  obtain hquiet | ⟨metadataCleared, -, rfl⟩ | ⟨task, rest, hphase, rfl⟩ | ⟨-, rfl⟩ :=
    advance_cases hstep
  · rw [hquiet.tasks] at hmem
    cases hmem
  · -- the first tasks only enter the targets
    obtain ⟨directory, -, rfl⟩ := List.mem_map.mp hmem
    trivial
  · have htasks : s.tasks = task :: rest := by rw [tasks, hphase]
    have hsub := (perform_advanced w s rest task).sub
    obtain hrest | hnew := taskInside_perform hphase hcontained
      (h.inside task (htasks ▸ List.mem_cons_self)) hmem
    · exact (h.inside task' (htasks ▸ List.mem_cons_of_mem task hrest)).mono hsub
    · exact hnew.mono hsub
  · cases hmem

/-- **Only links** make a call that is not exact: a link that leads out of the target directories
    and is taken for a directory, or one that leads nowhere and is passed over by the last look. -/
theorem exact_of_contained {metadata : List (JString × JString)} {key : Bool}
    (h : ∀ s, Reached w (called w files metadata key) s →
      s.Contained w files ∧ s.passesDangling = false)
    (hs : Reached w (called w files metadata key) s) : s.Exact w files := by
  have hconfined : s.Confined w files := by
    induction hs with
    | start => exact ⟨⟨nofun, nofun, nofun⟩, nofun⟩
    | call hbefore hstep ih => exact ih.advance (h _ hbefore).1 (h _ hbefore).2 hstep
  refine ⟨fun name parent rest hphase d hd _ _ => ?_, fun hreports directory hmem d hd name hname _ => ?_⟩
  · have htasks : s.tasks = .delete (name :: parent) :: rest := by rw [tasks, hphase]
    obtain ⟨_, _, hsame, hparent⟩ :=
      hconfined.inside (.delete (name :: parent)) (htasks ▸ List.mem_cons_self)
    obtain ⟨rfl, rfl⟩ := List.cons_eq_cons.mp hsame
    exact hparent d hd
  · -- a step later the audit says that the directory is empty
    have haudit := hconfined.audit.step (a := .wiper) (h s hs).2 hreports.advance
    have hempty := emptied_of_among ((haudit.completed rfl).1 directory hmem) d hd
    change s.files.names d = [] at hempty
    rw [hempty] at hname
    cases hname

end Links

/-! ## Exactness -/

/-- **A wipe is exact** in every state that it comes to exactly when every one of its calls is; and
    so it is where no call follows a link out of the target directories, or passes over one that
    leads nowhere. -/
theorem wipe_exact_iff (w : Platform) (files : Files JString) (metadata : List (JString × JString))
    (key : Bool) :
    ((∀ s, Reached w (called w files metadata key) s → s.WipedExactly w files) ↔
      ∀ s, Reached w (called w files metadata key) s → s.Exact w files) ∧
    ((∀ s, Reached w (called w files metadata key) s →
        s.Contained w files ∧ s.passesDangling = false) →
      ∀ s, Reached w (called w files metadata key) s → s.WipedExactly w files) := by
  have hsound : (∀ s, Reached w (called w files metadata key) s → s.Exact w files) →
      ∀ s, Reached w (called w files metadata key) s → s.WipedExactly w files :=
    fun h _ hs => (sound_called.reached h hs).exactly
  refine ⟨⟨fun h _ hs => exact_of_wipedExactly h hs, hsound⟩, fun hlinks => hsound fun _ hs => ?_⟩
  exact exact_of_contained hlinks hs

section Runs

variable {w : Platform} {s₀ s : Wiper}

/-- Steps of the wiper alone are such calls. -/
theorem reached_of_run {k : Nat} (h : run (step w) s₀ (List.replicate k .wiper) = some s) :
    Reached w s₀ s := by
  induction k generalizing s with
  | zero =>
    obtain rfl : s₀ = s := Option.some.inj h
    exact .start
  | succ k ih =>
    rw [List.replicate_succ'] at h
    obtain ⟨t, ht, hlast⟩ := run_concat h
    exact (ih ht).call hlast

theorem run_of_reached (h : Reached w s₀ s) :
    ∃ k, run (step w) s₀ (List.replicate k .wiper) = some s := by
  induction h with
  | start => exact ⟨0, rfl⟩
  | @call s t _ hstep ih =>
    obtain ⟨k, hk⟩ := ih
    refine ⟨k + 1, ?_⟩
    rw [List.replicate_succ', run_append, hk]
    show (s.advance w).bind some = some t
    rw [hstep, Option.bind_some]

/-- What holds at each call of a wipe that ends holds of all states that it comes to. -/
theorem forall_reached {P : Wiper → Prop} {n : Nat}
    (hall : AllSteps (step w) (fun s _ => P s) s₀ (List.replicate n .wiper))
    (hend : run (step w) s₀ (List.replicate n .wiper) = none) (h : Reached w s₀ s) : P s := by
  obtain ⟨k, hk⟩ := run_of_reached h
  obtain ⟨j, rfl⟩ | ⟨j, rfl⟩ : (∃ j, n = k + (j + 1)) ∨ ∃ j, k = n + j := by
    obtain hlt | hle := Nat.lt_or_ge k n
    · exact .inl ⟨n - k - 1, by omega⟩
    · exact .inr ⟨k - n, by omega⟩
  · rw [List.replicate_add, List.replicate_succ] at hall
    exact hall.after_run hk
  · -- the wipe has returned before
    rw [List.replicate_add, run_append, hend] at hk
    cases hk

end Runs

instance (w : Platform) (files fs : Files JString) (it : Path JString) :
    Decidable (LeadsInside w files fs it) :=
  match h : resolve fs.tree it with
  | some l => decidable_of_iff (AtTarget w files l) (by simp [LeadsInside, h])
  | none => .isTrue (by simp [LeadsInside, h])

instance (w : Platform) (files : Files JString) (s : Wiper) : Decidable (s.Contained w files) :=
  match h : s.tasks with
  | .enter directory :: _ =>
    decidable_of_iff (LeadsInside w files s.files directory) (by simp [Contained, h])
  | .start it :: _ | .visit it :: _ =>
    decidable_of_iff (s.files.isLink it = true → s.files.isDirectory it = true →
      LeadsInside w files s.files it) (by simp [Contained, h])
  | [] | .list _ :: _ | .single _ :: _ | .walk _ :: _ | .delete _ :: _ | .check _ :: _
  | .verify _ :: _ | .relist _ :: _ | .present _ _ :: _ => .isTrue (by simp [Contained, h])

/-- A link in `/files` to a directory beside it, which is listed behind it. -/
def innerLink : Files JString where
  entries := [
    ([ascii "files"], .directory),
    ([ascii "recent", ascii "files"], .link ⟨false, [.name (ascii "cache")]⟩),
    ([ascii "cache", ascii "files"], .directory),
    ([ascii "page", ascii "cache", ascii "files"], .file),
    ([ascii "other"], .file)]
  nodup := by decide
  parents := by decide

/-- The page is deleted through the link, and nothing else goes wrong either. -/
theorem wipe_exact_innerLink :
    (∀ s, Reached emptyDevice (called emptyDevice innerLink [] true) s →
      s.WipedExactly emptyDevice innerLink) ∧
    ∃ s, Reached emptyDevice (called emptyDevice innerLink [] true) s ∧
      s.phase = .returned .completed ∧
      s.files.entries.map Prod.fst = [[ascii "files"], [ascii "other"]] := by
  constructor
  · have hlinks : AllSteps (step emptyDevice)
        (fun s _ => s.Contained emptyDevice innerLink ∧ s.passesDangling = false)
        (called emptyDevice innerLink [] true) (List.replicate 40 .wiper) := by decide +kernel
    have hend : run (step emptyDevice) (called emptyDevice innerLink [] true)
        (List.replicate 40 .wiper) = none := by decide +kernel
    exact (wipe_exact_iff emptyDevice innerLink [] true).2 fun s hs =>
      forall_reached hlinks hend hs
  · have hends : ((run (step emptyDevice) (called emptyDevice innerLink [] true)
        (List.replicate 39 .wiper)).any fun s => s.phase = .returned .completed ∧
          s.files.entries.map Prod.fst = [[ascii "files"], [ascii "other"]]) = true := by
      decide +kernel
    obtain ⟨s, hrun, hend⟩ := (Option.any_eq_true _ _).mp hends
    obtain ⟨hcompleted, hleft⟩ := of_decide_eq_true hend
    exact ⟨s, reached_of_run hrun, hcompleted, hleft⟩

/-- Two links in `/files`, to a directory outside and to nowhere. -/
def linkedFiles : Files JString where
  entries := [
    ([ascii "files"], .directory),
    ([ascii "out", ascii "files"], .link ⟨true, [.name (ascii "other")]⟩),
    ([ascii "lost", ascii "files"], .link ⟨true, [.name (ascii "nowhere")]⟩),
    ([ascii "other"], .directory),
    ([ascii "note", ascii "other"], .file)]
  nodup := by decide
  parents := by decide

/-- The wipe completes: the file outside is gone, and the link to nowhere is still there. -/
theorem wipe_follows_links : ∃ s, Reached emptyDevice (called emptyDevice linkedFiles [] true) s ∧
    s.phase = .returned .completed ∧
    (¬ ∀ directory ∈ s.targets, Emptied s.files directory) ∧
    ∃ l, linkedFiles.tree l = some .file ∧ ¬ AtTarget emptyDevice linkedFiles l.tail ∧
      s.files.tree l = none := by
  have hends : ((run (step emptyDevice) (called emptyDevice linkedFiles [] true)
      (List.replicate 39 .wiper)).any
      fun s => s.phase = .returned .completed ∧ [ascii "files"] ∈ s.targets ∧
        resolve s.files.tree [ascii "files"] = some [ascii "files"] ∧
        s.files.names [ascii "files"] = [ascii "lost"] ∧
        s.files.tree [ascii "note", ascii "other"] = none) = true := by decide +kernel
  obtain ⟨s, hrun, hend⟩ := (Option.any_eq_true _ _).mp hends
  obtain ⟨hcompleted, hmem, hresolve, hnames, hgone⟩ := of_decide_eq_true hend
  refine ⟨s, reached_of_run hrun, hcompleted, fun hemptied => ?_, [ascii "note", ascii "other"],
    by decide +kernel, by decide +kernel, hgone⟩
  exact absurd (hnames.symm.trans (hemptied _ hmem _ hresolve)) (by decide)

end Wiper

end DarkMed.Settings
