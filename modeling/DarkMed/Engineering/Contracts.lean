import DarkMed.Lib.Kotlin
import DarkMed.Lib.Transition

/-!
# Engineering Contracts

`EngineeringContracts.kt`: the registry of agents, each with an area, its allowed tools
and the agents it depends on; the submission of evidence records; and the release gate.

A state maps every area to the result of its last accepted record, and logs all accepted
records.
-/

namespace DarkMed.Engineering

open DarkMed.Lib

/-! ## Registry -/

/-- `enum class EngineeringAgentId` -/
inductive EngineeringAgentId where
  | buildToolchain
  | coreArchitecture
  | torEngine
  | vpnRouting
  | wireguard
  | dnsLeaks
  | killSwitch
  | storageSecurity
  | browserOnion
  | torAdvancedNetwork
  | aiAssistant
  | aiModel
  | securityAuditor
  | testEngineer
  | releaseEngineer
  | androidCompatibility
  | uiUxBranding
  | failureInjection
  | forensicCodeAuditor
  | documentationEvidence
  | research
  deriving DecidableEq, Repr

/-- `enum class EngineeringArea` -/
inductive EngineeringArea where
  | build
  | architecture
  | tor
  | vpn
  | wireguard
  | dns
  | killSwitch
  | storage
  | browser
  | torAdvanced
  | assistant
  | aiModel
  | security
  | testing
  | release
  | androidCompatibility
  | uiUx
  | failureInjection
  | forensics
  | documentation
  | research
  deriving DecidableEq, Repr

/-- `EngineeringArea.entries` -/
def EngineeringArea.entries : List EngineeringArea :=
  [.build, .architecture, .tor, .vpn, .wireguard, .dns, .killSwitch, .storage, .browser,
    .torAdvanced, .assistant, .aiModel, .security, .testing, .release, .androidCompatibility, .uiUx,
    .failureInjection, .forensics, .documentation, .research]

/-- The entries are all areas. -/
theorem EngineeringArea.mem_entries (area : EngineeringArea) : area ∈ entries := by
  cases area <;> decide

/-- `enum class EngineeringStatus` -/
inductive EngineeringStatus where
  | notTested
  | pass
  | fail
  | blocked
  | unknown
  | realDeviceRequired
  | networkRequired
  | notImplemented
  deriving DecidableEq, Repr

/-- `enum class EngineeringTool` -/
inductive EngineeringTool where
  | readSource
  | modifyOwnScope
  | runUnitTests
  | runBuild
  | runLint
  | runApkForensics
  | runSecurityAudit
  | runAndroidTest
  | runNetworkTest
  | runDeviceTest
  | writeReport
  | researchOfficialSource
  deriving DecidableEq, Repr

/-- `data class AgentDefinition`, with lists for its sets. -/
structure AgentDefinition where
  id : EngineeringAgentId
  area : EngineeringArea
  allowedTools : List EngineeringTool
  dependencies : List EngineeringAgentId

namespace AgentRegistry

def common : List EngineeringTool :=
  [.readSource, .modifyOwnScope, .runUnitTests, .writeReport]

def runtime : List EngineeringTool :=
  [.runDeviceTest, .runNetworkTest]

def research : List EngineeringTool :=
  [.researchOfficialSource]

def definitions : List AgentDefinition :=
  [⟨.buildToolchain, .build, common ++ [EngineeringTool.runBuild] ++ [EngineeringTool.runLint],
      []⟩,
    ⟨.coreArchitecture, .architecture, common ++ research, [.buildToolchain]⟩,
    ⟨.torEngine, .tor, common ++ runtime ++ research, [.coreArchitecture]⟩,
    ⟨.vpnRouting, .vpn, common ++ runtime ++ research, [.coreArchitecture]⟩,
    ⟨.wireguard, .wireguard, common ++ runtime ++ research, [.vpnRouting]⟩,
    ⟨.dnsLeaks, .dns, common ++ runtime ++ research, [.vpnRouting]⟩,
    ⟨.killSwitch, .killSwitch, common ++ runtime ++ research, [.vpnRouting, .dnsLeaks]⟩,
    ⟨.storageSecurity, .storage, common ++ runtime ++ research, []⟩,
    ⟨.browserOnion, .browser, common ++ runtime ++ research, [.vpnRouting]⟩,
    ⟨.torAdvancedNetwork, .torAdvanced, common ++ runtime ++ research, [.torEngine]⟩,
    ⟨.aiAssistant, .assistant, common, [.coreArchitecture]⟩,
    ⟨.aiModel, .aiModel, common ++ research, [.aiAssistant]⟩,
    ⟨.securityAuditor, .security,
      common ++ research ++ [EngineeringTool.runApkForensics] ++ [EngineeringTool.runSecurityAudit],
      [.buildToolchain]⟩,
    ⟨.testEngineer, .testing,
      common ++ [EngineeringTool.runBuild] ++ [EngineeringTool.runLint] ++
        [EngineeringTool.runAndroidTest] ++ [EngineeringTool.runApkForensics],
      [.buildToolchain]⟩,
    ⟨.releaseEngineer, .release,
      common ++ [EngineeringTool.runBuild] ++ [EngineeringTool.runApkForensics],
      [.testEngineer, .securityAuditor]⟩,
    ⟨.androidCompatibility, .androidCompatibility, common ++ runtime ++ research,
      [.buildToolchain]⟩,
    ⟨.uiUxBranding, .uiUx, common, []⟩,
    ⟨.failureInjection, .failureInjection,
      common ++ [EngineeringTool.runUnitTests] ++ [EngineeringTool.runDeviceTest] ++
        [EngineeringTool.runNetworkTest],
      [.coreArchitecture]⟩,
    ⟨.forensicCodeAuditor, .forensics, common ++ research, [.coreArchitecture]⟩,
    ⟨.documentationEvidence, .documentation, common, []⟩,
    ⟨.research, .research, [.readSource, .researchOfficialSource, .writeReport], []⟩]

/-- `definitions.first { it.id == id }`; every agent has a definition. -/
def definition (id : EngineeringAgentId) : AgentDefinition :=
  (definitions.find? (·.id == id)).get (by cases id <;> rfl)

/-- The agent of an area. -/
def owner (area : EngineeringArea) : EngineeringAgentId :=
  ((definitions.find? (·.area == area)).get (by cases area <;> rfl)).id

/-- No two agents share an area, and every area has an agent. -/
theorem owner_area (id : EngineeringAgentId) : owner (definition id).area = id := by
  cases id <;> rfl

/-- Every area has an agent. -/
theorem area_owner (area : EngineeringArea) : (definition (owner area)).area = area := by
  cases area <;> rfl

/-- No two agents have one area. -/
theorem area_inj {a b : EngineeringAgentId} :
    (definition a).area = (definition b).area ↔ a = b := by
  refine ⟨fun h => ?_, fun h => h ▸ rfl⟩
  rw [← owner_area a, ← owner_area b, h]

/-- The agent's submissions are checked against these agents' areas. -/
def DependsOn (agent dep : EngineeringAgentId) : Prop :=
  dep ∈ (definition agent).dependencies

/-- The agent may run device or network tests. -/
def runtimeAgent (agent : EngineeringAgentId) : Bool :=
  (definition agent).allowedTools.contains .runDeviceTest ||
    (definition agent).allowedTools.contains .runNetworkTest

end AgentRegistry

/-! ## Evidence -/

structure EvidenceRecord where
  id : JString
  agent : EngineeringAgentId
  component : JString
  before : JString
  finding : JString
  rootCause : JString
  research : JString
  proposedDesign : JString
  change : JString
  filesModified : List JString
  tests : List JString
  commands : List JString
  result : EngineeringStatus
  evidence : List JString
  limitations : List JString
  nextAction : JString

namespace EvidenceRecord

def requiredText (evidence : EvidenceRecord) : List JString :=
  [evidence.id, evidence.component, evidence.before, evidence.finding, evidence.rootCause,
    evidence.research, evidence.proposedDesign, evidence.change, evidence.nextAction]

/-- `completeEvidence` of `submit` -/
def completeEvidence (agent : EngineeringAgentId) (evidence : EvidenceRecord) : Bool :=
  evidence.agent == agent && evidence.requiredText.all (·.isNotBlank) &&
    !evidence.filesModified.isEmpty && !evidence.tests.isEmpty && !evidence.commands.isEmpty &&
    !evidence.evidence.isEmpty && !evidence.limitations.isEmpty

/-- An item mentions a device or network test. -/
def runtimeProof (evidence : EvidenceRecord) : Bool :=
  evidence.evidence.any fun item =>
    item.containsIgnoreCase "real device" || item.containsIgnoreCase "network verified" ||
      item.containsIgnoreCase "network test"

/-- `runtimePassWithoutProof` of `submit` -/
def runtimePassWithoutProof (tool : EngineeringTool) (evidence : EvidenceRecord) : Bool :=
  [EngineeringTool.runDeviceTest, .runNetworkTest].contains tool && evidence.result == .pass &&
    !evidence.runtimeProof

/-- A passed record whose items mention an artifact's hash and its signature. -/
def signedArtifact (evidence : EvidenceRecord) : Bool :=
  evidence.result == .pass && evidence.evidence.any (·.containsIgnoreCase "SHA-256") &&
    evidence.evidence.any (·.containsIgnoreCase "signature")

end EvidenceRecord

/-! ## Orchestrator -/

/-- `data class ProjectState`, with its default arguments. -/
structure ProjectState where
  statuses : EngineeringArea → Option EngineeringStatus := fun _ => some .notTested
  evidence : List EvidenceRecord := []
  blockers : List JString := []

inductive OrchestratorDecision where
  | accepted
  | rejectedUnauthorizedTool
  | blockedDependency
  | rejectedInvalidEvidence
  deriving DecidableEq, Repr

structure AgentSubmission where
  decision : OrchestratorDecision
  reason : String
  state : ProjectState

inductive ReleaseDecision where
  | releaseAllowed
  | releaseBlocked
  deriving DecidableEq, Repr

namespace ProjectState

/-- The area of the agent has status PASS. -/
def passed (state : ProjectState) (agent : EngineeringAgentId) : Bool :=
  state.statuses (AgentRegistry.definition agent).area == some .pass

def dependenciesReady (state : ProjectState) (agent : EngineeringAgentId) : Bool :=
  (AgentRegistry.definition agent).dependencies.all state.passed

/-- The state behind an accepted submission. -/
def accept (state : ProjectState) (agent : EngineeringAgentId) (evidence : EvidenceRecord) :
    ProjectState :=
  { state with
    statuses := Function.update state.statuses (AgentRegistry.definition agent).area evidence.result
    evidence := state.evidence ++ [evidence] }

/-- `MasterEngineeringOrchestrator.submit` -/
def submit (state : ProjectState) (agent : EngineeringAgentId) (tool : EngineeringTool)
    (evidence : EvidenceRecord) : AgentSubmission :=
  if !(AgentRegistry.definition agent).allowedTools.contains tool then
    ⟨.rejectedUnauthorizedTool, "Tool is outside agent scope", state⟩
  else if !evidence.completeEvidence agent || evidence.runtimePassWithoutProof tool then
    ⟨.rejectedInvalidEvidence, "Evidence contract is incomplete or runtime PASS is unproven", state⟩
  else if !state.dependenciesReady agent then
    ⟨.blockedDependency, "Dependencies are not PASS", state⟩
  else ⟨.accepted, "Evidence accepted", state.accept agent evidence⟩

/-- `MasterEngineeringOrchestrator.releaseGate` -/
def releaseGate (state : ProjectState) : ReleaseDecision :=
  -- the statuses are those of the last records, while the log below holds all of them
  let allPass := EngineeringArea.entries.all fun area => state.statuses area == some .pass
  let completeEvidence := !state.evidence.isEmpty && state.evidence.all fun it =>
    !it.tests.isEmpty && !it.commands.isEmpty && !it.evidence.isEmpty && !it.limitations.isEmpty
  let noBlockers := state.blockers.isEmpty
  let signedArtifact := state.evidence.any (·.signedArtifact)
  if allPass && noBlockers && completeEvidence && signedArtifact then .releaseAllowed
  else .releaseBlocked

end ProjectState

/-! ## Runs of submissions -/

structure Submission where
  agent : EngineeringAgentId
  tool : EngineeringTool
  evidence : EvidenceRecord

namespace ProjectState

/-- The checks of `submit` on a submission by itself. -/
def wellFormed (x : Submission) : Bool :=
  (AgentRegistry.definition x.agent).allowedTools.contains x.tool &&
    x.evidence.completeEvidence x.agent && !x.evidence.runtimePassWithoutProof x.tool

/-- The submission passes every check of `submit`. -/
def accepts (state : ProjectState) (x : Submission) : Bool :=
  wellFormed x && state.dependenciesReady x.agent

/-- The state behind a submission. -/
def step (state : ProjectState) (x : Submission) : ProjectState :=
  (state.submit x.agent x.tool x.evidence).state

/-- The state behind a sequence of submissions to the default state. -/
def after (xs : List Submission) : ProjectState :=
  xs.foldl step {}

/-- A well-formed record is its agent's own, and leaves none of these lists empty. -/
theorem completeEvidence_of_wellFormed {x : Submission} (h : wellFormed x = true) :
    x.evidence.agent = x.agent ∧ x.evidence.tests ≠ [] ∧ x.evidence.commands ≠ [] ∧
      x.evidence.evidence ≠ [] ∧ x.evidence.limitations ≠ [] := by
  have hcomplete : x.evidence.completeEvidence x.agent = true := by
    simp only [wellFormed, Bool.and_eq_true] at h
    exact h.1.2
  simp only [EvidenceRecord.completeEvidence, Bool.and_eq_true, beq_iff_eq, Bool.not_eq_true',
    List.isEmpty_eq_false_iff] at hcomplete
  obtain ⟨⟨⟨⟨⟨⟨hagent, -⟩, -⟩, htests⟩, hcommands⟩, hevidence⟩, hlimitations⟩ := hcomplete
  exact ⟨hagent, htests, hcommands, hevidence, hlimitations⟩

/-- **What `submit` does**: it accepts exactly what passes its checks, and else changes nothing. -/
theorem submit_spec (state : ProjectState) (x : Submission) :
    (state.accepts x = true ∧ (state.submit x.agent x.tool x.evidence).decision = .accepted ∧
      state.step x = state.accept x.agent x.evidence) ∨
    (state.accepts x = false ∧ (state.submit x.agent x.tool x.evidence).decision ≠ .accepted ∧
      state.step x = state) := by
  have haccepts : state.accepts x =
      ((AgentRegistry.definition x.agent).allowedTools.contains x.tool &&
        (x.evidence.completeEvidence x.agent && !x.evidence.runtimePassWithoutProof x.tool) &&
          state.dependenciesReady x.agent) := by
    simp only [accepts, wellFormed, Bool.and_assoc]
  rw [haccepts]
  unfold step submit
  -- the checks in their order; each that fails returns the state as it was
  cases (AgentRegistry.definition x.agent).allowedTools.contains x.tool with
  | false => exact .inr ⟨rfl, nofun, rfl⟩
  | true =>
    cases x.evidence.completeEvidence x.agent with
    | false => exact .inr ⟨rfl, nofun, rfl⟩
    | true =>
      cases x.evidence.runtimePassWithoutProof x.tool with
      | true => exact .inr ⟨rfl, nofun, rfl⟩
      | false =>
        cases state.dependenciesReady x.agent with
        | false => exact .inr ⟨rfl, nofun, rfl⟩
        | true => exact .inl ⟨rfl, rfl, rfl⟩

end ProjectState

end DarkMed.Engineering
