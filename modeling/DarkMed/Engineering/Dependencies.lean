import DarkMed.Engineering.Contracts
import DarkMed.Lib.Dependency

/-!
# Dependencies of Areas

A submission is accepted only when the areas of all direct dependencies have status PASS.
The registry's order is therefore exactly the order of first passes.  Later on nothing
checks it again: a record with another result takes PASS from an area, and leaves the
areas that depend on it as they are.
-/

namespace DarkMed.Engineering

open DarkMed.Lib DarkMed.Lib.Transition Relation AgentRegistry

namespace ProjectState

/-! ## Statuses behind a submission -/

section Statuses

variable {state : ProjectState} {x : Submission}

/-- An accepted record decides about its own agent, and about no other. -/
theorem passed_accept (agent other : EngineeringAgentId) (evidence : EvidenceRecord) :
    (state.accept agent evidence).passed other =
      if other = agent then evidence.result == .pass else state.passed other := by
  by_cases h : other = agent
  · subst h
    simp [passed, accept]
  · -- agents share no area, so another agent's status is as it was
    have harea : (definition other).area ≠ (definition agent).area := fun heq => h (area_inj.mp heq)
    simp [passed, accept, h, harea]

/-- The check asks for PASS of each dependency. -/
theorem dependenciesReady_iff {agent : EngineeringAgentId} :
    state.dependenciesReady agent = true ↔
      ∀ dep, AgentRegistry.DependsOn agent dep → state.passed dep = true := by
  rw [dependenciesReady, List.all_eq_true]
  rfl

/-- A submission that passes the checks is entered. -/
theorem step_of_accepts (h : state.accepts x = true) :
    state.step x = state.accept x.agent x.evidence := by
  rcases submit_spec state x with ⟨-, -, hstep⟩ | ⟨hrejected, -, -⟩
  · exact hstep
  · exact absurd (hrejected.symm.trans h) nofun

/-- One that does not changes nothing. -/
theorem step_of_not_accepts (h : state.accepts x = false) : state.step x = state := by
  rcases submit_spec state x with ⟨haccepted, -, -⟩ | ⟨-, -, hstep⟩
  · exact absurd (haccepted.symm.trans h) nofun
  · exact hstep

/-- The dependencies of what is accepted have passed. -/
theorem ready_of_accepts (h : state.accepts x = true) :
    ∀ dep, AgentRegistry.DependsOn x.agent dep → state.passed dep = true := by
  rw [accepts, Bool.and_eq_true] at h
  exact dependenciesReady_iff.mp h.2

end Statuses

/-- No agent depends on itself. -/
theorem not_dependsOn_self (agent : EngineeringAgentId) :
    ¬ AgentRegistry.DependsOn agent agent := by
  unfold AgentRegistry.DependsOn
  cases agent <;> decide

/-! ## PASS and the dependencies -/

/-- Whatever an agent with a passed area depends on has passed. -/
def Justified (state : ProjectState) : Prop :=
  ∀ agent, state.passed agent = true →
    ∀ dep, TransGen AgentRegistry.DependsOn agent dep → state.passed dep = true

/-- The submission is accepted, and takes PASS from an area that a passed area needs directly. -/
def Regresses (state : ProjectState) (x : Submission) : Prop :=
  state.accepts x = true ∧ x.evidence.result ≠ .pass ∧
    ∃ agent, AgentRegistry.DependsOn agent x.agent ∧ state.passed agent = true

/-- It is enough to look at the dependencies themselves. -/
theorem justified_iff {state : ProjectState} :
    state.Justified ↔
      ∀ agent, state.passed agent = true →
        ∀ dep, AgentRegistry.DependsOn agent dep → state.passed dep = true := by
  constructor
  · exact fun h agent hagent dep hdep => h agent hagent dep (.single hdep)
  · exact fun h agent hagent => forall_transGen h (h agent hagent)

/-- **Step lemma**: a submission keeps every PASS justified unless it regresses. -/
theorem justified_step_iff {state : ProjectState} (h : state.Justified) (x : Submission) :
    (state.step x).Justified ↔ ¬ state.Regresses x := by
  cases haccepts : state.accepts x with
  | false =>
    rw [step_of_not_accepts haccepts]
    exact iff_of_true h fun hregress => absurd (haccepts.symm.trans hregress.1) nofun
  | true =>
    rw [step_of_accepts haccepts, justified_iff]
    rw [justified_iff] at h
    constructor
    · rintro hafter ⟨-, hresult, agent, hdep, hpassed⟩
      -- the passed agent is not the submitting one, so it stays passed
      have hne : agent ≠ x.agent := by
        rintro rfl
        exact not_dependsOn_self _ hdep
      have hkept := hafter agent (by rw [passed_accept, if_neg hne, hpassed]) x.agent hdep
      rw [passed_accept, if_pos rfl] at hkept
      exact hresult (by simpa using hkept)
    · intro hregress agent hagent dep hdep
      -- the agent's dependencies had passed before the submission
      have hready : state.passed dep = true := by
        by_cases hx : agent = x.agent
        · exact ready_of_accepts haccepts dep (hx ▸ hdep)
        · rw [passed_accept, if_neg hx] at hagent
          exact h agent hagent dep hdep
      rw [passed_accept]
      split
      · next hx =>
        subst hx
        by_cases hresult : x.evidence.result = .pass
        · simpa using hresult
        · -- the submission took PASS from the dependency of a passed agent: it regresses
          have hne : agent ≠ x.agent := by
            rintro rfl
            exact not_dependsOn_self _ hdep
          rw [passed_accept, if_neg hne] at hagent
          exact absurd ⟨haccepts, hresult, agent, hdep, hagent⟩ hregress
      · exact hready

/-- At the beginning nothing has passed. -/
theorem not_passed_default (agent : EngineeringAgentId) : passed {} agent = false := rfl

/-- **PASS stays justified by its dependencies exactly when** no accepted submission gives
    another result to an area that a passed area depends on. -/
theorem pass_justified_iff (xs : List Submission) :
    (∀ pre, pre <+: xs → (after pre).Justified) ↔
      AllSteps (total step) (fun state x => ¬ state.Regresses x) {} xs := by
  refine forall_prefix_iff_allSteps ?_ fun state x _ h => justified_step_iff h x
  exact fun agent hagent => absurd (not_passed_default agent ▸ hagent) nofun

/-- The record of an agent's unit tests. -/
def unitTestRecord (agent : EngineeringAgentId) (result : EngineeringStatus)
    (evidence : List JString) : EvidenceRecord where
  id := ascii "test"
  agent := agent
  component := ascii "component"
  before := ascii "not tested"
  finding := ascii "test finding"
  rootCause := ascii "test root cause"
  research := ascii "test research"
  proposedDesign := ascii "test design"
  change := ascii "test change"
  filesModified := [ascii "test"]
  tests := [ascii "test"]
  commands := [ascii "test command"]
  result := result
  evidence := evidence
  limitations := [ascii "unit test only"]
  nextAction := ascii "continue"

def unitTests (agent : EngineeringAgentId) (result : EngineeringStatus) : Submission :=
  ⟨agent, .readSource, unitTestRecord agent result [ascii "test evidence"]⟩

/-- The build fails after the architecture has passed on it. -/
theorem architecture_passed_on_failed_build :
    ¬ ∀ xs : List Submission, (after xs).Justified := by
  intro h
  have hjustified := h [unitTests .buildToolchain .pass, unitTests .coreArchitecture .pass,
    unitTests .buildToolchain .fail]
  have hbuild := hjustified .coreArchitecture (by decide +kernel) .buildToolchain
    (.single (by unfold AgentRegistry.DependsOn; decide))
  exact absurd hbuild (by decide +kernel)

/-! ## The order of submissions -/

/-- What is passed after a run was passed by an accepted submission of the run. -/
theorem exists_accepts_of_passed {xs : List Submission} {agent : EngineeringAgentId}
    (h : (after xs).passed agent = true) :
    ∃ pre x, pre ++ [x] <+: xs ∧ (after pre).accepts x = true ∧ x.agent = agent := by
  induction xs using List.reverseRecOn with
  | nil => exact absurd (not_passed_default agent ▸ h) nofun
  | append_singleton xs x ih =>
    have hafter : after (xs ++ [x]) = (after xs).step x := by simp [after]
    by_cases hlast : (after xs).accepts x = true ∧ x.agent = agent
    · exact ⟨xs, x, List.prefix_rfl, hlast⟩
    · -- the last submission left the agent's area alone
      have hbefore : (after xs).passed agent = true := by
        rw [hafter] at h
        cases haccepts : (after xs).accepts x with
        | false => rwa [step_of_not_accepts haccepts] at h
        | true =>
          have hne : agent ≠ x.agent := fun heq => hlast ⟨haccepts, heq.symm⟩
          rwa [step_of_accepts haccepts, passed_accept, if_neg hne] at h
      obtain ⟨pre, y, hprefix, hy⟩ := ih hbefore
      exact ⟨pre, y, hprefix.trans (List.prefix_append _ _), hy⟩

/-- When an area has passed, everything its agent depends on passed at an earlier moment. -/
theorem exists_passed_before {agent dep : EngineeringAgentId}
    (hdep : TransGen AgentRegistry.DependsOn agent dep)
    {xs : List Submission} (h : (after xs).passed agent = true) :
    ∃ pre, pre <+: xs ∧ pre.length < xs.length ∧ (after pre).passed dep = true := by
  -- each dependency on the way was passed when the submission that needs it was accepted
  induction hdep with
  | single hdep =>
    obtain ⟨pre, x, hprefix, haccepts, rfl⟩ := exists_accepts_of_passed h
    have hlength := hprefix.length_le
    rw [List.length_append, List.length_singleton] at hlength
    exact ⟨pre, (List.prefix_append _ _).trans hprefix, by omega, ready_of_accepts haccepts _ hdep⟩
  | tail _ hlast ih =>
    -- the way there ends at an agent that had passed earlier still
    obtain ⟨mid, hmid, hshorter, hpassed⟩ := ih
    obtain ⟨pre, x, hprefix, haccepts, rfl⟩ := exists_accepts_of_passed hpassed
    have hlength := hprefix.length_le
    rw [List.length_append, List.length_singleton] at hlength
    exact ⟨pre, ((List.prefix_append _ _).trans hprefix).trans hmid, by omega,
      ready_of_accepts haccepts _ hlast⟩

/-- Every agent once, and behind everything it depends on. -/
structure DependencyOrder (order : List EngineeringAgentId) : Prop where
  nodup : order.Nodup
  complete : ∀ agent, agent ∈ order
  ordered : ∀ i agent, order[i]? = some agent →
    ∀ dep, AgentRegistry.DependsOn agent dep → dep ∈ order.take i

/-- The registry lists its agents in such an order. -/
theorem dependencyOrder_definitions : DependencyOrder (definitions.map (·.id)) := by
  refine ⟨by decide, fun agent => by cases agent <;> decide, fun i agent hagent dep hdep => ?_⟩
  have hall : (List.range (definitions.map (·.id)).length).all (fun i =>
      ((definitions.map (·.id))[i]?).all fun agent =>
        (definition agent).dependencies.all ((definitions.map (·.id)).take i).contains) = true := by
    decide +kernel
  -- positions outside the list hold no agent
  have hi : i < (definitions.map (·.id)).length := (List.getElem?_eq_some_iff.mp hagent).1
  have hdeps := List.all_eq_true.mp hall i (List.mem_range.mpr hi)
  rw [hagent, Option.all_some, List.all_eq_true] at hdeps
  exact List.contains_iff_mem.mp (hdeps dep hdep)

/-- A well-formed submission of a passed record. -/
def CompletePass (x : Submission) : Prop :=
  wellFormed x = true ∧ x.evidence.result = .pass

/-- A complete PASS whose dependencies have passed is accepted. -/
theorem accepts_of_complete {state : ProjectState} {x : Submission} (hx : CompletePass x)
    (hready : ∀ dep, AgentRegistry.DependsOn x.agent dep → state.passed dep = true) :
    state.accepts x = true := by
  rw [accepts, Bool.and_eq_true]
  exact ⟨hx.1, dependenciesReady_iff.mpr hready⟩

/-- What is left of a run of complete passes, each behind its dependencies. -/
theorem after_of_complete {xs : List Submission} (hcomplete : ∀ x ∈ xs, CompletePass x)
    (hordered : ∀ pre x post, xs = pre ++ x :: post → ∀ dep, AgentRegistry.DependsOn x.agent dep →
      ∃ y ∈ pre, y.agent = dep) :
    (∀ x ∈ xs, (after xs).passed x.agent = true) ∧
      (after xs).evidence = xs.map (·.evidence) ∧ (after xs).blockers = [] := by
  induction xs using List.reverseRecOn with
  | nil => exact ⟨List.forall_mem_nil _, rfl, rfl⟩
  | append_singleton xs x ih =>
    obtain ⟨hpassed, hevidence, hblockers⟩ := ih
      (fun y hy => hcomplete y (List.mem_append_left _ hy))
      fun pre y post heq => hordered pre y (post ++ [x]) (by simp [heq])
    have hx : CompletePass x := hcomplete x (by simp)
    -- the dependencies were submitted before, and by induction they are passed
    have haccepts : (after xs).accepts x = true := by
      refine accepts_of_complete hx fun dep hdep => ?_
      obtain ⟨y, hy, rfl⟩ := hordered xs x [] rfl dep hdep
      exact hpassed y hy
    have hafter : after (xs ++ [x]) = (after xs).accept x.agent x.evidence := by
      rw [← step_of_accepts haccepts]
      simp [after]
    rw [hafter]
    refine ⟨fun y hy => ?_, by simp [accept, hevidence], hblockers⟩
    rw [passed_accept]
    split
    · simpa using hx.2
    · next hne =>
      rcases List.mem_append.mp hy with hy | hy
      · exact hpassed y hy
      · exact absurd (congrArg Submission.agent (List.mem_singleton.mp hy)) hne

/-- The release gate opens when every area has passed, nothing blocks, no record lacks its
    evidence, and some record of the log is of a signed artifact. -/
theorem releaseGate_eq_allowed_iff {state : ProjectState} :
    state.releaseGate = .releaseAllowed ↔
      (∀ agent, state.passed agent = true) ∧ state.blockers = [] ∧
      (state.evidence ≠ [] ∧ ∀ it ∈ state.evidence,
        it.tests ≠ [] ∧ it.commands ≠ [] ∧ it.evidence ≠ [] ∧ it.limitations ≠ []) ∧
      ∃ it ∈ state.evidence, it.signedArtifact = true := by
  -- every area has its agent, so the statuses can be asked for by agent
  have hall : (∀ area ∈ EngineeringArea.entries, (state.statuses area == some .pass) = true) ↔
      ∀ agent, state.passed agent = true := by
    constructor
    · exact fun h agent => h (definition agent).area (EngineeringArea.mem_entries _)
    · intro h area _
      have hpassed := h (owner area)
      rwa [passed, area_owner] at hpassed
  have hgate : state.releaseGate = .releaseAllowed ↔
      ((EngineeringArea.entries.all fun area => state.statuses area == some .pass) &&
        state.blockers.isEmpty && (!state.evidence.isEmpty && state.evidence.all fun it =>
          !it.tests.isEmpty && !it.commands.isEmpty && !it.evidence.isEmpty &&
            !it.limitations.isEmpty) && state.evidence.any (·.signedArtifact)) = true := by
    simp only [releaseGate]
    split
    · next hopen => exact iff_of_true rfl hopen
    · next hclosed => exact iff_of_false nofun hclosed
  rw [hgate]
  simp only [Bool.and_eq_true, List.all_eq_true, hall, Bool.not_eq_true', List.isEmpty_iff,
    List.isEmpty_eq_false_iff, List.any_eq_true, and_assoc]

section Order

variable {xs : List Submission}

/-- In such an order every dependency comes before what needs it. -/
theorem DependencyOrder.submitted_before (horder : DependencyOrder (xs.map (·.agent)))
    {pre post : List Submission} {x : Submission} (heq : xs = pre ++ x :: post)
    {dep : EngineeringAgentId} (hdep : AgentRegistry.DependsOn x.agent dep) :
    ∃ y ∈ pre, y.agent = dep := by
  have hmem := horder.ordered pre.length x.agent (by simp [heq]) dep hdep
  rw [heq, List.map_append, List.take_left' (by simp)] at hmem
  exact List.mem_map.mp hmem

/-- A complete PASS is accepted where it stands in a dependency order. -/
theorem accepted_of_dependencyOrder (horder : DependencyOrder (xs.map (·.agent)))
    (hcomplete : ∀ x ∈ xs, CompletePass x) {pre post : List Submission} {x : Submission}
    (heq : xs = pre ++ x :: post) :
    ((after pre).submit x.agent x.tool x.evidence).decision = .accepted := by
  -- a prefix of the run is a run of the same kind
  have hordered : ∀ p y q, pre = p ++ y :: q → ∀ dep, AgentRegistry.DependsOn y.agent dep →
      ∃ z ∈ p, z.agent = dep := by
    intro p y q hpq dep hdep
    have hwhole : xs = p ++ y :: (q ++ x :: post) := by simp [heq, hpq]
    exact horder.submitted_before hwhole hdep
  -- so all of it has been accepted
  have hpre := @after_of_complete pre
    (fun y hy => hcomplete y (by rw [heq]; exact List.mem_append_left _ hy)) hordered
  have haccepts : (after pre).accepts x = true := by
    refine accepts_of_complete (hcomplete x (by simp [heq])) fun dep hdep => ?_
    obtain ⟨y, hy, rfl⟩ := horder.submitted_before heq hdep
    exact hpre.1 y hy
  rcases submit_spec (after pre) x with ⟨-, hdecision, -⟩ | ⟨hrejected, -, -⟩
  · exact hdecision
  · exact absurd (hrejected.symm.trans haccepts) nofun

/-- Behind the whole order all areas have passed, and a signed artifact opens the gate. -/
theorem releaseAllowed_of_dependencyOrder (horder : DependencyOrder (xs.map (·.agent)))
    (hcomplete : ∀ x ∈ xs, CompletePass x) {x : Submission} (hx : x ∈ xs)
    (hsigned : x.evidence.signedArtifact = true) : (after xs).releaseGate = .releaseAllowed := by
  obtain ⟨hpassed, hevidence, hblockers⟩ :=
    after_of_complete hcomplete fun _ _ _ heq _ hdep => horder.submitted_before heq hdep
  refine releaseGate_eq_allowed_iff.mpr ⟨fun agent => ?_, hblockers, ?_, ?_⟩
  · obtain ⟨y, hy, rfl⟩ := List.mem_map.mp (horder.complete agent)
    exact hpassed y hy
  · rw [hevidence]
    refine ⟨List.ne_nil_of_mem (List.mem_map_of_mem hx), List.forall_mem_map.mpr fun y hy => ?_⟩
    exact (completeEvidence_of_wellFormed (hcomplete y hy).1).2
  · rw [hevidence]
    exact ⟨x.evidence, List.mem_map_of_mem hx, hsigned⟩

end Order

/-- **The dependency order is exactly what submissions follow.**  Whatever a passed area's agent
    depends on passed at an earlier moment; and in any order that puts the agents behind their
    dependencies, one complete PASS record each is accepted at every step, and opens the release
    gate when one of them is of a signed artifact. -/
theorem dependency_order_exact :
    (∀ xs agent, (after xs).passed agent = true →
      ∀ dep, TransGen AgentRegistry.DependsOn agent dep →
      ∃ pre, pre <+: xs ∧ pre.length < xs.length ∧ (after pre).passed dep = true) ∧
    (∀ xs : List Submission, DependencyOrder (xs.map (·.agent)) → (∀ x ∈ xs, CompletePass x) →
      (∀ pre x post, xs = pre ++ x :: post →
        ((after pre).submit x.agent x.tool x.evidence).decision = .accepted) ∧
      ((∃ x ∈ xs, x.evidence.signedArtifact = true) →
        (after xs).releaseGate = .releaseAllowed)) := by
  refine ⟨fun xs agent h dep hdep => exists_passed_before hdep h, fun xs horder hcomplete => ?_⟩
  constructor
  · intro pre x post heq
    exact accepted_of_dependencyOrder horder hcomplete heq
  · rintro ⟨x, hx, hsigned⟩
    exact releaseAllowed_of_dependencyOrder horder hcomplete hx hsigned

end ProjectState

end DarkMed.Engineering
