import DarkMed.Jni.Ownership

/-!
# The Configuration Path

`startNative` lends the worker a pointer to the UTF-8 copy of its `config_path`
and releases the copy when it returns.  The worker reads the path several calls
deep, when it opens the file and when it reports that it cannot.

The sibling bridge `hev-jni.c` hands its thread a copy of its own.  Here the
schedule decides: the reads are of the given path as long as `startNative`
returns after the last of them.
-/

namespace DarkMed.Jni

open DarkMed.Lib.Transition

/-! ## The lent string -/

/-- `startNative` does not release the path before the worker it has spawned is done with it. -/
def ReleasedAfterReads (s : State) : Action → Prop
  | .caller _ =>
    match s.holder with
    | some (.start call (.release true)) => (s.threads call).any WorkerPc.readsPath = false
    | _ => True
  | _ => True

instance (s : State) (a : Action) : Decidable (ReleasedAfterReads s a) := by
  unfold ReleasedAfterReads
  split
  · split <;> infer_instance
  · infer_instance

/-- Every read of its path by a worker found the string passed to the call that spawned it. -/
def ReadsGivenPath (s : State) : Prop :=
  ∀ i found, (i, found) ∈ s.history.pathReads → found = some (s.configPath i)

/-- A call's copy is readable until the call releases it, and a worker that may still read the
    path is the one whose call has not released it. -/
structure PathBuffer (s : State) : Prop where
  waiting : ∀ call ∈ s.waiting, s.utfChars call = some (s.configPath call)
  holder : ∀ call pc, s.holder = some (.start call pc) →
    s.utfChars call = some (s.configPath call)
  reader : ∀ i, (s.threads i).any WorkerPc.readsPath →
    s.holder = some (.start i (.release true))
  reads : ∀ i found, (i, found) ∈ s.history.pathReads →
    i < s.calls ∧ found = some (s.configPath i)

theorem PathBuffer.start {s : State} {call : Nat} {pc : StartPc} {ok : Bool} (hs : PathBuffer s)
    (hnum : Numbering s) (hholder : s.holder = some (.start call pc))
    (hok : ReleasedAfterReads s (.caller ok)) : PathBuffer (startStep s call pc ok) := by
  have hframe := startStep_frame s call pc ok
  have hcall := hnum.holder call pc hholder
  by_cases hrelease : ∃ result, pc = .release result
  · obtain ⟨result, rfl⟩ := hrelease
    constructor
    · intro other hmem
      have hne : other ≠ call := fun heq => hcall.2 (heq ▸ hmem)
      simpa [startStep, Function.update_of_ne hne] using hs.waiting other hmem
    · intro _ _ h
      cases h
    · -- the condition: no worker reads on when the copy is gone
      intro i hreads
      have hwas := hs.reader i hreads
      cases hholder.symm.trans hwas
      simp only [ReleasedAfterReads, hholder] at hok
      exact absurd hreads (by simp [startStep, hok])
    · exact hs.reads
  · -- no other statement releases the copy
    have hutf := hframe.utfChars fun result heq => hrelease ⟨result, heq⟩
    constructor
    · rw [hframe.waiting, hframe.configPath, hutf]
      exact hs.waiting
    · intro call' pc' hholder'
      rw [hframe.configPath, hutf]
      rcases hframe.holder with hnone | ⟨pc'', hsome⟩
      · simp [hnone] at hholder'
      · cases hsome.symm.trans hholder'
        exact hs.holder _ pc hholder
    · intro i hreads
      rcases hframe.threads i with hsame | ⟨rfl, -, hnew⟩
      · cases hholder.symm.trans (hs.reader i (hsame ▸ hreads))
        exact absurd ⟨true, rfl⟩ hrelease
      · exact hnew
    · rw [hframe.pathReads, hframe.configPath, hframe.calls]
      exact hs.reads

theorem PathBuffer.step {s t : State} {a : Action} (hs : PathBuffer s) (hnum : Numbering s)
    (hok : ReleasedAfterReads s a) (h : step s a = some t) : PathBuffer t := by
  -- a worker that reads is only there while its call is about to return
  have hnoreader : (∀ i, s.holder ≠ some (.start i (.release true))) →
      ∀ i, ¬ (s.threads i).any WorkerPc.readsPath := fun hnot i hreads =>
    hnot i (hs.reader i hreads)
  cases step_inv h with
  | callStart path =>
    have hold : ∀ call, call < s.calls → s.utfChars call = some (s.configPath call) →
        Function.update s.utfChars s.calls (some path) call =
          some (Function.update s.configPath s.calls path call) := by
      intro call hlt hcall
      simp [Function.update_of_ne (Nat.ne_of_lt hlt), hcall]
    constructor
    · intro call hmem
      rcases List.mem_append.mp hmem with hmem | hlast
      · exact hold call (hnum.waiting call hmem) (hs.waiting call hmem)
      · simp [List.mem_singleton.mp hlast]
    · intro call pc hholder
      exact hold call (hnum.holder call pc hholder).1 (hs.holder call pc hholder)
    · exact hs.reader
    · intro i found hmem
      obtain ⟨hlt, hfound⟩ := hs.reads i found hmem
      exact ⟨Nat.lt_succ_of_lt hlt, by simp [Function.update_of_ne (Nat.ne_of_lt hlt), hfound]⟩
  | lockStart hfree hmem =>
    constructor
    · exact fun call hcall => hs.waiting call (List.mem_of_mem_erase hcall)
    · intro call pc hholder
      cases hholder
      exact hs.waiting _ hmem
    · exact fun i hreads => absurd hreads (hnoreader (by simp [hfree]) i)
    · exact hs.reads
  | lockStop hfree =>
    exact ⟨hs.waiting, nofun, fun i hreads => absurd hreads (hnoreader (by simp [hfree]) i),
      hs.reads⟩
  | start ok hholder => exact hs.start hnum hholder hok
  | stop ok hholder h =>
    have hframe := stopStep_frame hholder h
    constructor
    · rw [hframe.waiting, hframe.configPath, hframe.utfChars]
      exact hs.waiting
    · intro call pc hholder'
      rcases hframe.holder with hnone | ⟨pc', hsome⟩
      · simp [hnone] at hholder'
      · cases hsome.symm.trans hholder'
    · intro i hreads
      rcases hframe.threads i with hsame | ⟨-, hnone⟩
      · exact absurd (hsame ▸ hreads) (hnoreader (by simp [hholder]) i)
      · simp [hnone] at hreads
    · rw [hframe.pathReads, hframe.configPath, hframe.calls]
      exact hs.reads
  | @worker _ i pc pc' _ hpc h =>
    have hreader : pc.readsPath → s.holder = some (.start i (.release true)) := fun hreads =>
      hs.reader i (by simpa [hpc] using hreads)
    constructor
    · rw [h.waiting, h.configPath, h.utfChars]
      exact hs.waiting
    · rw [h.holder, h.configPath, h.utfChars]
      exact hs.holder
    · intro j hreads
      rw [h.holder]
      by_cases hj : j = i
      · subst hj
        exact hreader (h.readsPath (by simpa [h.threads] using hreads))
      · exact hs.reader j (by simpa [h.threads, Function.update_of_ne hj] using hreads)
    · rw [h.configPath, h.calls]
      -- what a worker reads now is the copy that its call still has
      rcases h.pathReads with hsame | ⟨hreads, hnew⟩
      · exact hsame ▸ hs.reads
      · intro j found hmem
        rw [hnew] at hmem
        rcases List.mem_append.mp hmem with hmem | hlast
        · exact hs.reads j found hmem
        · cases List.mem_singleton.mp hlast
          have hholder := hreader hreads
          exact ⟨(hnum.holder _ _ hholder).1, hs.holder _ _ hholder⟩

/-! ## Every run -/

theorem pathBuffer_of_run {as : List Action} {s : State}
    (hok : AllSteps step ReleasedAfterReads {} as) (h : run step {} as = some s) :
    Numbering s ∧ PathBuffer s :=
  run_invariant_of_allSteps (I := fun s => Numbering s ∧ PathBuffer s)
    (fun _ _ _ hs hok ht => ⟨hs.1.step ht, hs.2.step hs.1 hok ht⟩)
    ⟨numbering_initial, nofun, nofun, nofun, nofun⟩ hok h

/-- **The tunnel reads the configuration it was given**, in a run in which every `startNative`
    returns after its worker's last read of the path. -/
theorem reads_given_path {as : List Action} {s : State}
    (hok : AllSteps step ReleasedAfterReads {} as) (h : run step {} as = some s) :
    ReadsGivenPath s :=
  fun i found hmem => ((pathBuffer_of_run hok h).2.reads i found hmem).2

/-- The worker opens the file before `startNative` returns. -/
theorem reads_given_path_openedFirst :
    ∃ s, run step {} (startActions 0 ++ List.replicate 3 (.worker 0 (.proceed true)) ++
        [.caller true]) = some s ∧
      s.history.pathReads = [(0, some "/data/tun2socks.yml")] ∧ ReadsGivenPath s := by
  have hrun : (run step {} (startActions 0 ++ List.replicate 3 (.worker 0 (.proceed true)) ++
      [.caller true])).map (·.history.pathReads) =
      some [(0, some "/data/tun2socks.yml")] := by decide
  obtain ⟨s, hs, hreads⟩ := Option.map_eq_some_iff.mp hrun
  exact ⟨s, hs, hreads, reads_given_path (by decide) hs⟩

/-- `startNative` returns true, and only then does its worker open the file. -/
def releasedFirst : List Action :=
  startActions 0 ++ [.caller true] ++ List.replicate 2 (.worker 0 (.proceed true))

/-- The worker reads a string that is gone. -/
theorem releasedFirst_reads_released :
    ¬ ∀ as s, run step {} as = some s → ReadsGivenPath s := by
  intro hall
  have hrun : (run step {} releasedFirst).map
      (fun s => (s.history.pathReads, s.history.returned)) =
      some ([(0, none)], [(0, true)]) := by decide
  obtain ⟨s, hs, hrecord⟩ := Option.map_eq_some_iff.mp hrun
  obtain ⟨hreads, -⟩ := Prod.mk.inj hrecord
  have hfound := hall _ s hs 0 none (by simp [hreads])
  cases hfound

end DarkMed.Jni
