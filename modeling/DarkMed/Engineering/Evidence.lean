import DarkMed.Engineering.Dependencies

/-!
# Current Evidence

The last accepted record of an agent is what its area's status stands on.  The proof of a
runtime PASS is asked for by the tool that a submission names, not by its area; and the
release gate looks for a signed artifact in the whole log, not in the last records.
-/

namespace DarkMed.Engineering

open DarkMed.Lib DarkMed.Lib.Transition AgentRegistry

namespace ProjectState

/-- The last accepted record of an agent. -/
def lastRecord (state : ProjectState) (agent : EngineeringAgentId) : Option EvidenceRecord :=
  (state.evidence.filter (·.agent == agent)).getLast?

section LastRecord

variable {state : ProjectState} {x : Submission}

/-- What is accepted is well formed. -/
theorem wellFormed_of_accepts (h : state.accepts x = true) : wellFormed x = true := by
  rw [accepts, Bool.and_eq_true] at h
  exact h.1

/-- An accepted record is its agent's last one. -/
theorem lastRecord_accept (h : state.accepts x = true) (agent : EngineeringAgentId) :
    (state.accept x.agent x.evidence).lastRecord agent =
      if agent = x.agent then some x.evidence else state.lastRecord agent := by
  have hagent := (completeEvidence_of_wellFormed (wellFormed_of_accepts h)).1
  simp only [lastRecord, accept, List.filter_append]
  by_cases hx : agent = x.agent
  · simp [hx, hagent]
  · -- records of another agent are not looked at
    have hne : (x.evidence.agent == agent) = false := by
      rw [hagent]
      exact beq_eq_false_iff_ne.mpr (Ne.symm hx)
    simp [hx, hne]

end LastRecord

/-! ## Runtime proof -/

/-- The agent's last accepted record mentions a device or network test. -/
def HasProof (state : ProjectState) (agent : EngineeringAgentId) : Prop :=
  ∃ evidence, state.lastRecord agent = some evidence ∧ evidence.runtimeProof = true

/-- No runtime area passes without runtime proof, nor does a release. -/
structure RuntimeProven (state : ProjectState) : Prop where
  passed : ∀ agent, runtimeAgent agent = true → state.passed agent = true → state.HasProof agent
  released : state.releaseGate = .releaseAllowed →
    ∀ agent, runtimeAgent agent = true → state.HasProof agent

/-- A PASS that is accepted from a runtime agent names a device or network test, or mentions one. -/
def ProofGiven (state : ProjectState) (x : Submission) : Prop :=
  state.accepts x = true → runtimeAgent x.agent = true → x.evidence.result = .pass →
    x.tool ∈ runtime ∨ x.evidence.runtimeProof = true

/-- An open gate asks for no more than every agent that has passed. -/
theorem runtimeProven_iff {state : ProjectState} :
    state.RuntimeProven ↔
      ∀ agent, runtimeAgent agent = true → state.passed agent = true → state.HasProof agent := by
  refine ⟨fun h => h.passed, fun h => ⟨h, fun hgate agent hruntime => ?_⟩⟩
  exact h agent hruntime ((releaseGate_eq_allowed_iff.mp hgate).1 agent)

/-- A test of a device or a network is accepted as PASS only with its proof. -/
theorem runtimeProof_of_tool {x : Submission} (hwell : wellFormed x = true)
    (htool : x.tool ∈ runtime)
    (hresult : x.evidence.result = .pass) : x.evidence.runtimeProof = true := by
  have htool : [EngineeringTool.runDeviceTest, .runNetworkTest].contains x.tool = true :=
    List.contains_iff_mem.mpr htool
  have hproven : x.evidence.runtimePassWithoutProof x.tool = false := by
    simp only [wellFormed, Bool.and_eq_true, Bool.not_eq_true'] at hwell
    exact hwell.2
  rw [EvidenceRecord.runtimePassWithoutProof, htool, hresult] at hproven
  simpa using hproven

/-- **Step lemma**: a submission keeps the runtime areas proven exactly when it gives the proof. -/
theorem runtimeProven_step_iff {state : ProjectState} (h : state.RuntimeProven) (x : Submission) :
    (state.step x).RuntimeProven ↔ state.ProofGiven x := by
  cases haccepts : state.accepts x with
  | false =>
    rw [step_of_not_accepts haccepts]
    exact iff_of_true h fun haccepted => absurd (haccepts.symm.trans haccepted) nofun
  | true =>
    rw [step_of_accepts haccepts, runtimeProven_iff]
    rw [runtimeProven_iff] at h
    have hlast := lastRecord_accept haccepts
    constructor
    · intro hafter _ hruntime hresult
      -- the accepted record is its agent's last one now
      obtain ⟨evidence, hevidence, hproof⟩ := hafter x.agent hruntime
        (by rw [passed_accept, if_pos rfl, hresult]; rfl)
      rw [hlast, if_pos rfl] at hevidence
      obtain rfl := Option.some.inj hevidence
      exact .inr hproof
    · intro hgiven agent hruntime hpassed
      rw [passed_accept] at hpassed
      split at hpassed
      · -- the submitting agent passes by this record, every other one by its own
        next hx =>
        subst hx
        have hresult : x.evidence.result = .pass := by simpa using hpassed
        refine ⟨x.evidence, by rw [hlast, if_pos rfl], ?_⟩
        rcases hgiven haccepts hruntime hresult with htool | hproof
        · exact runtimeProof_of_tool (wellFormed_of_accepts haccepts) htool hresult
        · exact hproof
      · next hx =>
        obtain ⟨evidence, hevidence, hproof⟩ := h agent hruntime hpassed
        exact ⟨evidence, by rw [hlast, if_neg hx, hevidence], hproof⟩

/-- **No runtime area passes without proof exactly when** every PASS that is accepted from a
    runtime agent names a device or network test, or mentions one all the same. -/
theorem runtime_proven_iff (xs : List Submission) :
    (∀ pre, pre <+: xs → (after pre).RuntimeProven) ↔ AllSteps (total step) ProofGiven {} xs := by
  refine forall_prefix_iff_allSteps ?_ fun state x _ h => runtimeProven_step_iff h x
  exact runtimeProven_iff.mpr fun agent _ hpassed =>
    absurd (not_passed_default agent ▸ hpassed) nofun

/-- The storage area passes on a reading of its source. -/
theorem storage_passed_unproven :
    ¬ ∀ xs : List Submission, (after xs).RuntimeProven := by
  intro h
  have hproven := (h [unitTests .storageSecurity .pass]).passed .storageSecurity (by decide)
    (by decide +kernel)
  obtain ⟨evidence, hevidence, hproof⟩ := hproven
  have hunproven : ((after [unitTests .storageSecurity .pass]).lastRecord .storageSecurity).all
      (!·.runtimeProof) = true := by
    decide +kernel
  rw [hevidence] at hunproven
  simp [hproof] at hunproven

/-! ## Signed artifacts -/

/-- The agent's last accepted record is of a signed artifact. -/
def CurrentlySigned (state : ProjectState) (agent : EngineeringAgentId) : Prop :=
  ∃ evidence, state.lastRecord agent = some evidence ∧ evidence.signedArtifact = true

/-- The release gate relies on a last record, and not on one that was superseded. -/
def ReleasesCurrent (state : ProjectState) : Prop :=
  state.releaseGate = .releaseAllowed → ∃ agent, state.CurrentlySigned agent

/-- The submission completes the passed areas without a signed artifact, while the signed records
    of the log are superseded already, or are superseded by this one. -/
structure CompletesUnsigned (state : ProjectState) (x : Submission) : Prop where
  accepted : state.accepts x = true
  result : x.evidence.result = .pass
  unsigned : x.evidence.signedArtifact = false
  others : ∀ agent, agent ≠ x.agent → state.passed agent = true
  logged : ∃ evidence ∈ state.evidence, evidence.signedArtifact = true
  superseded : ∀ agent, agent ≠ x.agent → ¬ state.CurrentlySigned agent

/-- What every run of submissions keeps: nothing blocks, and no record lacks its evidence. -/
structure Logged (state : ProjectState) : Prop where
  blockers : state.blockers = []
  evidence : ∀ it ∈ state.evidence,
    it.tests ≠ [] ∧ it.commands ≠ [] ∧ it.evidence ≠ [] ∧ it.limitations ≠ []

/-- Every submission leaves a log of complete records. -/
theorem Logged.step {state : ProjectState} (h : state.Logged) (x : Submission) :
    (state.step x).Logged := by
  cases haccepts : state.accepts x with
  | false => rwa [step_of_not_accepts haccepts]
  | true =>
    rw [step_of_accepts haccepts]
    refine ⟨h.blockers, fun it hit => ?_⟩
    rcases List.mem_append.mp hit with hit | hit
    · exact h.evidence it hit
    · rw [List.mem_singleton.mp hit]
      exact (completeEvidence_of_wellFormed (wellFormed_of_accepts haccepts)).2

/-- With such a log the gate opens on PASS everywhere and a signed artifact anywhere. -/
theorem releaseGate_of_logged {state : ProjectState} (h : state.Logged) :
    state.releaseGate = .releaseAllowed ↔
      (∀ agent, state.passed agent = true) ∧ ∃ it ∈ state.evidence, it.signedArtifact = true := by
  rw [releaseGate_eq_allowed_iff]
  constructor
  · exact fun ⟨hpassed, _, _, hsigned⟩ => ⟨hpassed, hsigned⟩
  · rintro ⟨hpassed, it, hit, hsigned⟩
    exact ⟨hpassed, h.blockers, ⟨List.ne_nil_of_mem hit, h.evidence⟩, it, hit, hsigned⟩

/-- **Step lemma**: a submission leaves the gate to the last records unless it completes the passed
    areas unsigned. -/
theorem releasesCurrent_step_iff {state : ProjectState} (hlogged : state.Logged)
    (h : state.ReleasesCurrent) (x : Submission) :
    (state.step x).ReleasesCurrent ↔ ¬ state.CompletesUnsigned x := by
  cases haccepts : state.accepts x with
  | false =>
    rw [step_of_not_accepts haccepts]
    exact iff_of_true h fun hbad => absurd (haccepts.symm.trans hbad.accepted) nofun
  | true =>
    have hlogged' := hlogged.step x
    have hlast := lastRecord_accept haccepts
    rw [step_of_accepts haccepts] at hlogged' ⊢
    rw [ReleasesCurrent, releaseGate_of_logged hlogged']
    constructor
    · intro hafter hbad
      have hpassed : ∀ agent, (state.accept x.agent x.evidence).passed agent = true := by
        intro agent
        rw [passed_accept]
        split
        · simpa using hbad.result
        · next hx => exact hbad.others agent hx
      -- the gate opens on the old record of the log
      obtain ⟨it, hit, hsigned⟩ := hbad.logged
      obtain ⟨agent, evidence, hevidence, hcurrent⟩ :=
        hafter ⟨hpassed, it, List.mem_append_left _ hit, hsigned⟩
      rw [hlast] at hevidence
      split at hevidence
      · obtain rfl := Option.some.inj hevidence
        exact absurd (hbad.unsigned.symm.trans hcurrent) nofun
      · next hx => exact hbad.superseded agent hx ⟨evidence, hevidence, hcurrent⟩
    · rintro hgood ⟨hpassed, it, hit, hsigned⟩
      by_contra hnone
      have hunsigned : x.evidence.signedArtifact ≠ true := fun hsigned =>
        hnone ⟨x.agent, x.evidence, by rw [hlast, if_pos rfl], hsigned⟩
      -- a gate that is open on no last record was opened by this submission
      refine hgood
        ⟨haccepts, ?_, by simpa using hunsigned, fun agent hx => ?_, ?_, fun agent hx => ?_⟩
      · have hown := hpassed x.agent
        rw [passed_accept, if_pos rfl] at hown
        simpa using hown
      · have hother := hpassed agent
        rwa [passed_accept, if_neg hx] at hother
      · rcases List.mem_append.mp hit with hit | hit
        · exact ⟨it, hit, hsigned⟩
        · exact absurd (List.mem_singleton.mp hit ▸ hsigned) hunsigned
      · rintro ⟨evidence, hevidence, hcurrent⟩
        exact hnone ⟨agent, evidence, by rw [hlast, if_neg hx, hevidence], hcurrent⟩

/-- **The release gate relies on current evidence exactly when** no PASS without a signed artifact
    completes the passed areas while the signed records of the log are superseded. -/
theorem releases_current_iff (xs : List Submission) :
    (∀ pre, pre <+: xs → (after pre).ReleasesCurrent) ↔
      AllSteps (total step) (fun state x => ¬ state.CompletesUnsigned x) {} xs := by
  have hlogged : Logged {} := ⟨rfl, List.forall_mem_nil _⟩
  have hclosed : ReleasesCurrent {} := fun hgate =>
    absurd ((releaseGate_eq_allowed_iff.mp hgate).1 .research) nofun
  have hkeep : ∀ state, ∀ x ∈ xs, Logged state → Logged (step state x) := fun _ x _ h => h.step x
  have hstep : ∀ state, ∀ x ∈ xs, Logged state → ReleasesCurrent state →
      (ReleasesCurrent (step state x) ↔ ¬ CompletesUnsigned state x) :=
    fun _ x _ hlogged h => releasesCurrent_step_iff hlogged h x
  exact forall_prefix_iff_allSteps_of_invariant hkeep hstep hlogged hclosed

/-- All agents pass, the release on a signed artifact. -/
def signedRelease : List Submission :=
  definitions.map fun definition =>
    if definition.id = .releaseEngineer then
      ⟨definition.id, .readSource,
        unitTestRecord definition.id .pass [ascii "test evidence SHA-256 signature"]⟩
    else unitTests definition.id .pass

/-- The release passes again, without its artifact. -/
theorem superseded_signature_releases :
    ¬ ∀ xs : List Submission, (after xs).ReleasesCurrent := by
  intro h
  -- the gate is open, while no agent's last record is of a signed artifact
  obtain ⟨agent, evidence, hevidence, hsigned⟩ :=
    h (signedRelease ++ [unitTests .releaseEngineer .pass]) (by decide +kernel)
  have hunsigned : (definitions.map (·.id)).all (fun agent =>
      ((after (signedRelease ++ [unitTests .releaseEngineer .pass])).lastRecord agent).all
        (!·.signedArtifact)) = true := by
    decide +kernel
  have hlast := List.all_eq_true.mp hunsigned agent (dependencyOrder_definitions.complete agent)
  rw [hevidence] at hlast
  simp [hsigned] at hlast

end ProjectState

end DarkMed.Engineering
