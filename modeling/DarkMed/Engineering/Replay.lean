import DarkMed.Engineering.Evidence

/-!
# The Log of Accepted Records

Statuses and log are changed together, so the statuses are a function of the log: of each area
the result of the last record whose agent owns it.  An accepted submission changes one area, and
the checks of a submission read the areas of its agent's direct dependencies only.

From the two: runs of the same accepted submissions, with one of each agent at most, end alike in
whatever order they are; and two submissions commute when neither agent depends on the other.
-/

namespace DarkMed.Engineering

open DarkMed.Lib DarkMed.Lib.Transition AgentRegistry

/-- The status that a log of records gives to an area. -/
def replay (log : List EvidenceRecord) (area : EngineeringArea) : EngineeringStatus :=
  match (log.filter fun it => (definition it.agent).area == area).getLast? with
  | some it => it.result
  | none => .notTested

/-- A record at the end counts for the area of its agent, and for no other. -/
theorem replay_concat (log : List EvidenceRecord) (it : EvidenceRecord) (area : EngineeringArea) :
    replay (log ++ [it]) area =
      if area = (definition it.agent).area then it.result else replay log area := by
  unfold replay
  rw [List.filter_append, List.filter_singleton]
  by_cases harea : area = (definition it.agent).area
  · simp [harea]
  · have hother : ((definition it.agent).area == area) = false :=
      beq_eq_false_iff_ne.mpr (Ne.symm harea)
    simp [harea, hother]

/-- In a log with one record of each agent at most, the order of the records does not matter. -/
theorem replay_perm {log log' : List EvidenceRecord} (h : log.Perm log')
    (hagents : (log.map (·.agent)).Nodup) : replay log = replay log' := by
  funext area
  unfold replay
  have hfilter := h.filter fun it => (definition it.agent).area == area
  -- the records of an area are records of one agent, so there is at most one
  have hagent : ∀ it ∈ log.filter fun it => (definition it.agent).area == area,
      it.agent = owner area := by
    intro it hit
    have harea : (definition it.agent).area = area := by simpa using (List.mem_filter.mp hit).2
    rw [← harea, owner_area]
  have hnodup : ((log.filter fun it => (definition it.agent).area == area).map (·.agent)).Nodup :=
    hagents.sublist (List.filter_sublist.map _)
  cases hrecords : log.filter fun it => (definition it.agent).area == area with
  | nil =>
    rw [hrecords] at hfilter
    rw [List.nil_perm.mp hfilter]
  | cons first rest =>
    rw [hrecords] at hfilter hnodup hagent
    cases rest with
    | nil => rw [List.singleton_perm.mp hfilter]
    | cons second rest =>
      have hsame : first.agent = second.agent :=
        (hagent first (by simp)).trans (hagent second (by simp)).symm
      simp [hsame] at hnodup

namespace ProjectState

/-- The decision about a submission. -/
def decision (state : ProjectState) (x : Submission) : OrchestratorDecision :=
  (state.submit x.agent x.tool x.evidence).decision

/-- The records of the submissions that are accepted, in their order. -/
def acceptedRecords : ProjectState → List Submission → List EvidenceRecord
  | _, [] => []
  | state, x :: xs =>
    if state.decision x = .accepted then x.evidence :: acceptedRecords (state.step x) xs
    else acceptedRecords (state.step x) xs

section Decisions

variable {state : ProjectState} {x : Submission}

/-- What is accepted is what passes the checks. -/
theorem decision_eq_accepted_iff : state.decision x = .accepted ↔ state.accepts x = true := by
  rcases submit_spec state x with ⟨haccepts, hdecision, -⟩ | ⟨hrejected, hdecision, -⟩
  · exact iff_of_true hdecision haccepts
  · exact iff_of_false hdecision fun haccepts => nomatch hrejected.symm.trans haccepts

/-- An accepted submission is entered. -/
theorem step_of_accepted (h : state.decision x = .accepted) :
    state.step x = state.accept x.agent x.evidence :=
  step_of_accepts (decision_eq_accepted_iff.mp h)

/-- One that is not accepted changes nothing. -/
theorem step_of_not_accepted (h : state.decision x ≠ .accepted) : state.step x = state := by
  apply step_of_not_accepts
  rwa [Ne, decision_eq_accepted_iff, Bool.not_eq_true] at h

/-- An accepted record is complete, and its agent's own. -/
theorem complete_of_accepted (h : state.decision x = .accepted) :
    x.evidence.agent = x.agent ∧ x.evidence.completeEvidence x.evidence.agent = true := by
  have hwell : wellFormed x = true := wellFormed_of_accepts (decision_eq_accepted_iff.mp h)
  have hagent : x.evidence.agent = x.agent := (completeEvidence_of_wellFormed hwell).1
  refine ⟨hagent, ?_⟩
  simp only [wellFormed, Bool.and_eq_true] at hwell
  rw [hagent]
  exact hwell.1.2

end Decisions

/-! ## Statuses and log -/

/-- The statuses are those of the log, whose records are complete. -/
structure Replayed (state : ProjectState) : Prop where
  statuses : ∀ area, state.statuses area = some (replay state.evidence area)
  complete : ∀ it ∈ state.evidence, it.completeEvidence it.agent = true

/-- At the beginning there is nothing to replay. -/
theorem replayed_default : Replayed {} :=
  ⟨fun _ => rfl, List.forall_mem_nil _⟩

/-- **Step lemma**: a submission keeps statuses and log together. -/
theorem Replayed.step {state : ProjectState} (h : state.Replayed) (x : Submission) :
    (state.step x).Replayed := by
  by_cases haccepted : state.decision x = .accepted
  · obtain ⟨hagent, hcomplete⟩ := complete_of_accepted haccepted
    rw [step_of_accepted haccepted]
    refine ⟨fun area => ?_, fun it hit => ?_⟩
    · show Function.update state.statuses _ _ area = some (replay (state.evidence ++ [_]) area)
      rw [replay_concat, Function.update_apply, hagent]
      split
      · rfl
      · exact h.statuses area
    · rcases List.mem_append.mp hit with hit | hit
      · exact h.complete it hit
      · rw [List.mem_singleton.mp hit]
        exact hcomplete
  · rw [step_of_not_accepted haccepted]
    exact h

/-- The log grows by the records that are accepted, in order. -/
theorem evidence_foldl (state : ProjectState) (xs : List Submission) :
    (xs.foldl step state).evidence = state.evidence ++ acceptedRecords state xs := by
  induction xs generalizing state with
  | nil => exact (List.append_nil _).symm
  | cons x xs ih =>
    rw [List.foldl_cons, ih, acceptedRecords]
    split
    -- the record of an accepted submission is the next of the log
    next haccepted =>
      rw [step_of_accepted haccepted]
      exact List.append_assoc _ _ _
    next hrejected => rw [step_of_not_accepted hrejected]

/-- The statuses are those of the log behind any submissions. -/
theorem replayed_after (xs : List Submission) : (after xs).Replayed := by
  have hstep : ∀ state, ∀ x ∈ xs, Replayed state → Replayed (state.step x) :=
    fun _ x _ h => h.step x
  exact foldl_invariant hstep replayed_default

/-- **Statuses are the replay of the accepted log.**  Behind every run the log is that of the
    accepted records, the statuses are those of the log, every record in it is complete, and no
    submission that was not accepted has changed the state. -/
theorem statuses_are_replay (xs : List Submission) :
    (after xs).evidence = acceptedRecords {} xs ∧
    (∀ area, (after xs).statuses area = some (replay (after xs).evidence area)) ∧
    (∀ it ∈ (after xs).evidence, it.completeEvidence it.agent = true) ∧
    ∀ pre x post, xs = pre ++ x :: post → (after pre).decision x ≠ .accepted →
      ((after pre).submit x.agent x.tool x.evidence).state = after pre := by
  obtain ⟨hstatuses, hcomplete⟩ := replayed_after xs
  refine ⟨?_, hstatuses, hcomplete, fun pre x post _ hrejected => ?_⟩
  · rw [after, evidence_foldl]
    rfl
  · exact step_of_not_accepted hrejected

/-! ## Two submissions -/

section Commute

variable {state : ProjectState} {x y : Submission}

/-- Of the state, a decision reads whether the dependencies are ready. -/
theorem decision_congr {state' : ProjectState}
    (h : state.dependenciesReady x.agent = state'.dependenciesReady x.agent) :
    state.decision x = state'.decision x := by
  unfold decision submit
  rw [h]
  split_ifs <;> rfl

/-- A submission leaves an agent's dependencies alone, if its own agent is none of them. -/
theorem dependenciesReady_step {agent : EngineeringAgentId}
    (h : ¬ AgentRegistry.DependsOn agent y.agent) :
    (state.step y).dependenciesReady agent = state.dependenciesReady agent := by
  cases haccepts : state.accepts y with
  | false => rw [step_of_not_accepts haccepts]
  | true =>
    rw [step_of_accepts haccepts, Bool.eq_iff_iff, dependenciesReady_iff, dependenciesReady_iff]
    refine forall_congr' fun dep => imp_congr_right fun hdep => ?_
    have hne : dep ≠ y.agent := by
      rintro rfl
      exact h hdep
    rw [passed_accept, if_neg hne]

/-- A submission of an agent that is not needed does not change the decision. -/
theorem decision_step (h : ¬ AgentRegistry.DependsOn x.agent y.agent) :
    (state.step y).decision x = state.decision x :=
  decision_congr (dependenciesReady_step h)

/-- Only the area of the agent changes, and only if the submission is accepted. -/
theorem statuses_step (state : ProjectState) (x : Submission) :
    (state.step x).statuses = if state.decision x = .accepted then
      Function.update state.statuses (definition x.agent).area x.evidence.result
    else state.statuses := by
  split
  next haccepted =>
    rw [step_of_accepted haccepted]
    rfl
  next hrejected => rw [step_of_not_accepted hrejected]

/-- **Submissions of independent agents commute.** -/
theorem statuses_step_comm (hne : x.agent ≠ y.agent)
    (hxy : ¬ AgentRegistry.DependsOn x.agent y.agent)
    (hyx : ¬ AgentRegistry.DependsOn y.agent x.agent) :
    ((state.step x).step y).statuses = ((state.step y).step x).statuses := by
  have harea : (definition x.agent).area ≠ (definition y.agent).area := fun h => hne (area_inj.mp h)
  rw [statuses_step, statuses_step state x, statuses_step (state.step y), statuses_step state y,
    decision_step hxy, decision_step hyx]
  -- where both are accepted, they write the statuses of different areas
  split_ifs
  · exact Function.update_comm harea _ _ _
  all_goals rfl

end Commute

/-! ## Any order -/

/-- Every submission is accepted. -/
def AllAccepted (xs : List Submission) : Prop :=
  AllSteps (total step) (fun state x => state.decision x = .accepted) {} xs

/-- Where all are accepted, all records are in the log. -/
theorem acceptedRecords_of_allSteps {state : ProjectState} {xs : List Submission}
    (h : AllSteps (total step) (fun state x => state.decision x = .accepted) state xs) :
    acceptedRecords state xs = xs.map (·.evidence) := by
  induction xs generalizing state with
  | nil => rfl
  | cons x xs ih =>
    rw [allSteps_total_cons] at h
    rw [acceptedRecords, if_pos h.1, ih h.2, List.map_cons]

/-- The log of a run that is accepted entirely, and the agents of its records. -/
theorem evidence_of_allAccepted {xs : List Submission} (h : AllAccepted xs) :
    (after xs).evidence = xs.map (·.evidence) ∧
      (after xs).evidence.map (·.agent) = xs.map (·.agent) := by
  have hevidence : (after xs).evidence = xs.map (·.evidence) :=
    (statuses_are_replay xs).1.trans (acceptedRecords_of_allSteps h)
  refine ⟨hevidence, ?_⟩
  rw [hevidence, List.map_map]
  apply List.map_congr_left
  intro x hx
  obtain ⟨pre, post, rfl⟩ := List.append_of_mem hx
  exact (complete_of_accepted (h.after_run (run_total _ pre))).1

/-- Every record in the log is complete. -/
theorem logged_after (xs : List Submission) : (after xs).Logged := by
  have hstep : ∀ state, ∀ x ∈ xs, Logged state → Logged (state.step x) := fun _ x _ h => h.step x
  exact foldl_invariant hstep ⟨rfl, List.forall_mem_nil _⟩

/-- The gate reads of the log which records are there, not where. -/
theorem releaseGate_congr {state state' : ProjectState} (h : state.Logged) (h' : state'.Logged)
    (hstatuses : state.statuses = state'.statuses) (hlog : state.evidence.Perm state'.evidence) :
    state.releaseGate = state'.releaseGate := by
  have hiff : state.releaseGate = .releaseAllowed ↔ state'.releaseGate = .releaseAllowed := by
    rw [releaseGate_of_logged h, releaseGate_of_logged h']
    apply and_congr
    · simp only [passed, hstatuses]
    · simp only [hlog.mem_iff]
  cases hgate : state.releaseGate with
  | releaseAllowed => exact (hiff.mp hgate).symm
  | releaseBlocked =>
    cases hgate' : state'.releaseGate with
    | releaseAllowed => cases hgate.symm.trans (hiff.mpr hgate')
    | releaseBlocked => rfl

/-- Two orders of the same submissions, one of each agent at most, that are both accepted. -/
theorem outcome_perm {xs ys : List Submission} (hperm : xs.Perm ys)
    (hagents : (xs.map (·.agent)).Nodup) (hxs : AllAccepted xs) (hys : AllAccepted ys) :
    (after xs).statuses = (after ys).statuses ∧ (after xs).releaseGate = (after ys).releaseGate := by
  obtain ⟨hevidence, hlogAgents⟩ := evidence_of_allAccepted hxs
  have hlog : (after xs).evidence.Perm (after ys).evidence := by
    rw [hevidence, (evidence_of_allAccepted hys).1]
    exact hperm.map _
  have hreplay : replay (after xs).evidence = replay (after ys).evidence :=
    replay_perm hlog (hlogAgents ▸ hagents)
  have hstatuses : (after xs).statuses = (after ys).statuses := by
    funext area
    rw [(replayed_after xs).statuses, (replayed_after ys).statuses, hreplay]
  exact ⟨hstatuses, releaseGate_congr (logged_after xs) (logged_after ys) hstatuses hlog⟩

/-- **The order of accepted submissions does not matter**: not to the statuses and the release
    gate, and in no state to two submissions of agents that are independent of each other. -/
theorem order_does_not_matter :
    (∀ xs ys : List Submission, xs.Perm ys → (xs.map (·.agent)).Nodup →
      AllAccepted xs → AllAccepted ys →
        (∀ area, (after xs).statuses area = (after ys).statuses area) ∧
          (after xs).releaseGate = (after ys).releaseGate) ∧
    ∀ (state : ProjectState) (x y : Submission), x.agent ≠ y.agent →
      ¬ AgentRegistry.DependsOn x.agent y.agent → ¬ AgentRegistry.DependsOn y.agent x.agent →
        state.decision x = (state.step y).decision x ∧
          (state.step x).decision y = state.decision y ∧
          ((state.step x).step y).statuses = ((state.step y).step x).statuses := by
  constructor
  · intro xs ys hperm hagents hxs hys
    obtain ⟨hstatuses, hgate⟩ := outcome_perm hperm hagents hxs hys
    exact ⟨congrFun hstatuses, hgate⟩
  · intro state x y hne hxy hyx
    exact ⟨(decision_step hxy).symm, decision_step hyx, statuses_step_comm hne hxy hyx⟩

/-- The build passes and the documentation fails, in either order. -/
theorem order_does_not_matter_build :
    (∀ area, (after [unitTests .buildToolchain .pass, unitTests .documentationEvidence .fail]).statuses
        area =
      (after [unitTests .documentationEvidence .fail, unitTests .buildToolchain .pass]).statuses
        area) ∧
    decision {} (unitTests .buildToolchain .pass) =
      (step {} (unitTests .documentationEvidence .fail)).decision
        (unitTests .buildToolchain .pass) := by
  obtain ⟨hperm, hcommute⟩ := order_does_not_matter
  constructor
  · have hfirst : AllAccepted [unitTests .buildToolchain .pass,
        unitTests .documentationEvidence .fail] := by
      unfold AllAccepted
      decide +kernel
    have hsecond : AllAccepted [unitTests .documentationEvidence .fail,
        unitTests .buildToolchain .pass] := by
      unfold AllAccepted
      decide +kernel
    exact (hperm _ _ (.swap _ _ []) (by decide) hfirst hsecond).1
  · have hbuild : ¬ AgentRegistry.DependsOn .buildToolchain .documentationEvidence := by
      unfold AgentRegistry.DependsOn
      decide
    have hdocumentation : ¬ AgentRegistry.DependsOn .documentationEvidence .buildToolchain := by
      unfold AgentRegistry.DependsOn
      decide
    exact (hcommute {} _ _ (by decide) hbuild hdocumentation).1

end ProjectState

end DarkMed.Engineering
