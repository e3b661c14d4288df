import DarkMed.Engineering.AppiumSuite

/-!
# Sessions of the Appium Suite

When a session that has been created is closed, for every way in which the requests and the
writes of a run can turn out; and what the exit code says of the written result.

Each part of a run returns exactly under a condition on the answers, and is described by it: the
deletion of a session is reached exactly when all parts in front of it return.
-/

namespace DarkMed.Engineering.AppiumSuite

open DarkMed.Lib DarkMed.Lib.Program DarkMed.Lib.Python

section Conditions

variable (answers : (call : Call) → Answer call) (args : Args)

/-- The request returns, and its answer can be written. -/
def Collected (r : Request) (name : String) : Prop :=
  ∃ status payload, answers (.request r) = .returned status payload ∧
    answers (.saveJson name payload) = none

/-- The screenshot returns, and can be written if it has to be. -/
def Photographed (id : PyString) : Prop :=
  ∃ status payload,
    answers (.request (sessionRequest args id "/screenshot")) = .returned status payload ∧
      ∀ value, status = 200 → unwrap payload = .str value → answers (.saveScreenshot value) = none

def elementFile (label : String) : String :=
  "element_" ++ label.toLower ++ ".json"

/-- Nothing raises between the creation of the session and its deletion. -/
structure Inspected (id : PyString) : Prop where
  details : Collected answers (sessionRequest args id "") "session_details.json"
  windowSize : Collected answers (sessionRequest args id "/window/size") "window_size.json"
  source : Collected answers (sessionRequest args id "/source") "page_source.json"
  screenshot : Photographed answers args id
  elements : ∀ element ∈ elements,
    Collected answers (elementRequest args id element.2) (elementFile element.1)

/-- The identifier of the session can be used, and the session is inspected. -/
def Undisturbed (payload : Json) : Prop :=
  answers (.saveJson "session_create.json" payload) = none ∧
    ∃ id, sessionIdOf payload = .str id ∧ Inspected answers args id

/-- The server is up, so that a session is asked for if there is an application. -/
structure Ready : Prop where
  directory : answers .makeDirectory = none
  server : args.serverUrl ≠ []
  status : ∃ payload, answers (.request (statusRequest args)) = .returned 200 payload ∧
    answers (.saveJson "server_status.json" payload) = none

/-- A session is asked for, and the answer has an identifier. -/
structure Yielded (env : Environment) (payload : Json) : Prop where
  ready : Ready answers args
  created : ∃ capabilities status, buildCapabilities env args = .ok capabilities ∧
    answers (.request (createRequest args capabilities)) = .returned status payload
  identified : (sessionIdOf payload).truthy = true

end Conditions

/-- The call is none that writes the result, and as a request has one of the methods. -/
def Kind (methods : List Method) : Call → Prop
  | .request r => r.method ∈ methods
  | .saveResult _ => False
  | .makeDirectory | .saveJson _ _ | .saveScreenshot _ | .readError => True

/-! ## Parts of a run -/

section Parts

variable {answers : (call : Call) → Answer call} {args : Args} {methods : List Method} {s : Result}
  {r : Request}

/-- What may raise returns or raises. -/
theorem runs_raising (raised : Option PyString) (s : Result) :
    raised = none ∧ Runs answers (raising raised) s [] (.ok ()) s ∨
      raised ≠ none ∧ ∃ e, Runs answers (raising raised) s [] (.error e) s := by
  cases raised with
  | none => exact .inl ⟨rfl, Runs.pure ()⟩
  | some message => exact .inr ⟨by simp, _, Runs.throw (Raised.exception message)⟩

/-- A request returns where its answer is one, and raises otherwise. -/
theorem runs_requestJson (r : Request) (s : Result) :
    (∃ status payload, answers (.request r) = .returned status payload ∧
        Runs answers (requestJson r) s [.request r] (.ok (status, payload)) s) ∨
      (∀ status payload, answers (.request r) ≠ .returned status payload) ∧
        ∃ e, Runs answers (requestJson r) s [.request r] (.error e) s := by
  have hasked := @Runs.ask Call Answer Raised Result answers s (.request r)
  cases hanswer : answers (.request r) with
  | returned status payload =>
    rw [hanswer] at hasked
    exact .inl ⟨status, payload, rfl, hasked.bind (Runs.pure _)⟩
  | httpError code =>
    rw [hanswer] at hasked
    exact .inr ⟨by simp, _, hasked.bind (Runs.throw (Raised.httpError code))⟩
  | raised message =>
    rw [hanswer] at hasked
    exact .inr ⟨by simp, _, hasked.bind (Runs.throw (Raised.exception message))⟩

/-- What becomes of a request and of its file. -/
theorem runs_collect (r : Request) (name : String) (s : Result) :
    (∃ status payload, answers (.request r) = .returned status payload ∧
        answers (.saveJson name payload) = none ∧
        Runs answers (collect r name) s [.request r, .saveJson name payload]
          (.ok (status, payload)) s) ∨
      (∃ status payload e, answers (.request r) = .returned status payload ∧
        answers (.saveJson name payload) ≠ none ∧
        Runs answers (collect r name) s [.request r, .saveJson name payload] (.error e) s) ∨
      ∃ e, (∀ status payload, answers (.request r) ≠ .returned status payload) ∧
        Runs answers (collect r name) s [.request r] (.error e) s := by
  obtain ⟨status, payload, hanswer, hreturned⟩ | ⟨hanswer, e, hraised⟩ :=
    @runs_requestJson answers r s
  · obtain ⟨hnone, hsaved⟩ | ⟨hsome, e, hfailed⟩ :=
      @runs_raising answers (answers (.saveJson name payload)) s
    · have hwritten : Runs answers (saveJson name payload) s [.saveJson name payload] (.ok ()) s :=
        hsaved.ask_bind
      exact .inl ⟨status, payload, hanswer, hnone, hreturned.bind (hwritten.bind (Runs.pure _))⟩
    · have hwritten : Runs answers (saveJson name payload) s [.saveJson name payload] (.error e) s :=
        hfailed.ask_bind
      exact .inr (.inl ⟨status, payload, e, hanswer, hsome, hreturned.bind hwritten.bind_error⟩)
  · -- nothing is written of a request that raises
    exact .inr (.inr ⟨e, hanswer, hraised.bind_error⟩)

/-- Collecting returns exactly if the request is answered and its file is written. -/
theorem exactly_collect (hr : r.method ∈ methods) (name : String) :
    Exactly answers (Kind methods) (Collected answers r name) (collect r name) s
      fun answer t => answers (.request r) = .returned answer.1 answer.2 ∧ t = s := by
  have hkind : ∀ payload, ∀ call ∈ [Call.request r, .saveJson name payload], Kind methods call := by
    simp [Kind, hr]
  obtain ⟨status, payload, hanswer, hnone, hrun⟩ | ⟨status, payload, e, hanswer, hsome, hrun⟩ |
      ⟨e, hanswer, hrun⟩ := @runs_collect answers r name s
  · exact hrun.exactly_ok (hkind payload) ⟨status, payload, hanswer, hnone⟩ ⟨hanswer, rfl⟩
  · refine hrun.exactly_error (hkind payload) fun hcollected => ?_
    obtain ⟨_, other, hsame, hnone⟩ := hcollected
    obtain ⟨-, rfl⟩ := Response.returned.inj (hanswer.symm.trans hsame)
    exact hsome hnone
  · refine hrun.exactly_error (by simp [Kind, hr]) fun hcollected => ?_
    obtain ⟨status, payload, hreturned, -⟩ := hcollected
    exact hanswer status payload hreturned

/-- A request returns exactly if it is answered. -/
theorem exactly_requestJson (hr : r.method ∈ methods) :
    Exactly answers (Kind methods)
      (∃ status payload, answers (.request r) = .returned status payload) (requestJson r) s
      fun answer t => answers (.request r) = .returned answer.1 answer.2 ∧ t = s := by
  obtain ⟨status, payload, hanswer, hrun⟩ | ⟨hanswer, e, hrun⟩ := @runs_requestJson answers r s
  · exact hrun.exactly_ok (by simp [Kind, hr]) ⟨status, payload, hanswer⟩ ⟨hanswer, rfl⟩
  · refine hrun.exactly_error (by simp [Kind, hr]) fun hreturned => ?_
    obtain ⟨status, payload, hreturned⟩ := hreturned
    exact hanswer status payload hreturned

/-- Saving a screenshot returns exactly if it can be written. -/
theorem exactly_saveScreenshot (value : PyString) :
    Exactly answers (Kind methods) (answers (.saveScreenshot value) = none) (saveScreenshot value) s
      fun _ t => t = s := by
  refine Exactly.ask_bind trivial ?_
  obtain ⟨hnone, hrun⟩ | ⟨hsome, e, hrun⟩ :=
    @runs_raising answers (answers (.saveScreenshot value)) s
  · exact hrun.exactly_ok (by simp) hnone rfl
  · exact hrun.exactly_error (by simp) hsome

/-- The tests so far are these. -/
def Tested (ids : List String) (t : Result) : Prop :=
  t.tests.map Test.id = ids

/-- One test more. -/
theorem Tested.addTest {ids : List String} (h : Tested ids s) (test : Test) :
    Tested (ids ++ [test.id]) { s with tests := s.tests ++ [test] } := by
  rw [Tested, List.map_append, h]
  rfl

/-- Only an image that came with 200 has to be written. -/
theorem exactly_keepScreenshot (statusCode : Int) (screenshot : Json) {ids : List String}
    (h : Tested ids s) :
    Exactly answers (Kind methods)
      (∀ value, statusCode = 200 → screenshot = .str value → answers (.saveScreenshot value) = none)
      (keepScreenshot statusCode screenshot) s fun _ t => Tested ids t := by
  unfold keepScreenshot
  split
  next value =>
    split
    next hok =>
      have hwritten : answers (.saveScreenshot value) = none ∧ True ↔ ∀ other, statusCode = 200 →
          Json.str value = .str other → answers (.saveScreenshot other) = none := by
        rw [and_true]
        constructor
        · rintro hnone _ - ⟨⟩
          exact hnone
        · intro hall
          exact hall value hok rfl
      refine ((exactly_saveScreenshot value).bind fun _ t ht => ?_).congr hwritten
      subst ht
      exact Exactly.modify trivial h
    next hother => exact Exactly.pure (fun _ hok => absurd hok hother) h
  next hother => exact Exactly.pure (fun value _ hvalue => absurd hvalue (hother value)) h

/-- The screenshot is asked for, perhaps kept, and tested. -/
theorem exactly_photograph (hget : Method.get ∈ methods) {id : PyString} {ids : List String}
    (h : Tested ids s) :
    Exactly answers (Kind methods) (Photographed answers args id) (photograph args id) s
      fun _ t => Tested (ids ++ ["SCREENSHOT"]) t := by
  have hparts : (∃ status payload,
        answers (.request (sessionRequest args id "/screenshot")) = .returned status payload) ∧
      Photographed answers args id ↔ Photographed answers args id := by
    refine and_iff_right_of_imp fun hphotographed => ?_
    obtain ⟨status, payload, hanswer, -⟩ := hphotographed
    exact ⟨status, payload, hanswer⟩
  refine ((exactly_requestJson hget).bind ?_).congr hparts
  rintro ⟨statusCode, payload⟩ t ⟨hanswer, rfl⟩
  -- the answer is the one that the condition speaks of
  have hkept : (∀ value, statusCode = 200 → unwrap payload = .str value →
      answers (.saveScreenshot value) = none) ∧ True ↔ Photographed answers args id := by
    rw [and_true]
    constructor
    · intro hall
      exact ⟨statusCode, payload, hanswer, hall⟩
    · rintro ⟨status, other, hsame, hall⟩
      obtain ⟨rfl, rfl⟩ := Response.returned.inj (hanswer.symm.trans hsame)
      exact hall
  refine ((exactly_keepScreenshot statusCode (unwrap payload) h).bind fun _ u hu => ?_).congr hkept
  exact Exactly.modify trivial (hu.addTest _)

/-- Each element is looked for, and tested. -/
theorem exactly_findElements {id : PyString} (hget : Method.post ∈ methods)
    (elements : List (String × PyString)) {ids : List String} (h : Tested ids s) :
    Exactly answers (Kind methods)
      (∀ element ∈ elements,
        Collected answers (elementRequest args id element.2) (elementFile element.1))
      (findElements args id elements) s
      fun _ t => Tested (ids ++ elements.map fun element => "UI_" ++ element.1) t := by
  induction elements generalizing s ids with
  | nil => exact Exactly.pure nofun (by simpa using h)
  | cons element elements ih =>
    rw [List.forall_mem_cons]
    refine (exactly_collect hget _).bind ?_
    rintro ⟨statusCode, payload⟩ t ⟨-, rfl⟩
    refine Exactly.modify_bind ((ih (h.addTest _)).mono fun _ u hu => ?_)
    rw [List.append_assoc] at hu
    exact hu

/-- **Between creation and deletion** a run returns exactly if nothing raises. -/
theorem exactly_inspect (hget : Method.get ∈ methods) (hpost : Method.post ∈ methods)
    {id : PyString} {ids : List String} (h : Tested ids s) :
    Exactly answers (Kind methods) (Inspected answers args id) (inspect args id) s fun _ t =>
      Tested (ids ++ ["SESSION_CREATE", "WINDOW_SIZE", "PAGE_SOURCE", "SCREENSHOT", "UI_DASHBOARD",
        "UI_SECURITY_CENTER", "UI_SETTINGS"]) t := by
  have hparts : Collected answers (sessionRequest args id "") "session_details.json" ∧
      Collected answers (sessionRequest args id "/window/size") "window_size.json" ∧
      Collected answers (sessionRequest args id "/source") "page_source.json" ∧
      Photographed answers args id ∧ (∀ element ∈ elements,
        Collected answers (elementRequest args id element.2) (elementFile element.1)) ↔
      Inspected answers args id :=
    ⟨fun ⟨h1, h2, h3, h4, h5⟩ => ⟨h1, h2, h3, h4, h5⟩, fun ⟨h1, h2, h3, h4, h5⟩ => ⟨h1, h2, h3, h4, h5⟩⟩
  refine ((exactly_collect hget _).bind ?_).congr hparts
  rintro ⟨statusCode, details⟩ t ⟨-, rfl⟩
  refine Exactly.modify_bind (Exactly.modify_bind ?_)
  -- the capabilities are kept beside the tests
  have hdetails : Tested ids (keepCapabilities details t) := by
    unfold keepCapabilities
    split
    · exact h
    · exact h
  have hcreated := hdetails.addTest
    { id := "SESSION_CREATE", status := .pass, httpStatus := some statusCode }
  refine (exactly_collect hget _).bind ?_
  rintro ⟨statusCode, size⟩ t ⟨-, rfl⟩
  refine Exactly.modify_bind ?_
  have hsized := hcreated.addTest
    { id := "WINDOW_SIZE", status := passIf (statusCode = 200), httpStatus := some statusCode }
  refine (exactly_collect hget _).bind ?_
  rintro ⟨statusCode, source⟩ t ⟨-, rfl⟩
  refine Exactly.modify_bind ?_
  have hsourced := hsized.addTest
    { id := "PAGE_SOURCE", status := passIf (statusCode = 200), httpStatus := some statusCode }
  refine (exactly_photograph hget hsourced).bind fun _ u hu => ?_
  refine (exactly_findElements hpost elements hu).mono fun _ v hv => ?_
  simp only [List.append_assoc] at hv
  exact hv

/-- A session whose identifier is no string raises when it is put into a URL. -/
theorem runs_asStr {v : Json} {outcome : Except Raised PyString} (h : asStr v = outcome)
    (s : Result) :
    Runs answers (liftResult (asStr v) : Suite PyString) s [] outcome s := by
  rw [h]
  exact Runs.liftResult outcome

/-- The nine checks of a session. -/
def checks : List String :=
  ["APPIUM_SERVER_STATUS", "SESSION_CREATE", "WINDOW_SIZE", "PAGE_SOURCE", "SCREENSHOT",
    "UI_DASHBOARD", "UI_SECURITY_CENTER", "UI_SETTINGS", "SESSION_CLOSE"]

/-- The session has been closed, and the status sums up the nine checks. -/
structure Complete (t : Result) : Prop where
  tested : Tested checks t
  status : t.status = .pass ↔ ∀ test ∈ t.tests, test.status = .pass

/-- PASS is what all tests have. -/
theorem passIf_all_iff (tests : List Test) :
    passIf (tests.all fun test => test.status = .pass) = .pass ↔
      ∀ test ∈ tests, test.status = .pass := by
  have hall : (tests.all fun test => test.status = .pass) = true ↔
      ∀ test ∈ tests, test.status = .pass := by simp
  rw [← hall]
  unfold passIf
  split
  next h => exact iff_of_true rfl h
  next h => exact iff_of_false nofun h

/-- **A session** is closed exactly if nothing raises before. -/
theorem examine_spec (sessionId : Json) (h : Tested ["APPIUM_SERVER_STATUS"] s) :
    ∃ made r t, Runs answers (examine args sessionId) s made r t ∧ (r = .ok () → Complete t) ∧
      ((∃ id, sessionId = .str id ∧ Inspected answers args id ∧
          .request (closeRequest args id) ∈ made) ∨
        (¬ ∃ id, sessionId = .str id ∧ Inspected answers args id) ∧
          ∀ call ∈ made, Kind [.get, .post] call) := by
  have hnoted := @Runs.modify Call Answer Raised Result answers s
    fun result => { result with sessionId := some sessionId }
  cases hid : asStr sessionId with
  | error e =>
    refine ⟨_, _, _, hnoted.bind (runs_asStr hid _).bind_error, nofun, .inr ⟨?_, nofun⟩⟩
    rintro ⟨id, rfl, -⟩
    cases hid
  | ok id =>
    obtain rfl : sessionId = .str id := by
      cases sessionId <;> cases hid
      rfl
    have hlifted := @runs_asStr answers _ _ hid { s with sessionId := some (.str id) }
    have htested : Tested ["APPIUM_SERVER_STATUS"] { s with sessionId := some (.str id) } := h
    obtain ⟨made, hkind, ⟨hinspected, _, t, hrun, htests⟩ | ⟨hnot, e, t, hrun⟩⟩ :=
      @exactly_inspect answers args [.get, .post] _ (by decide) (by decide) id _ htested
    · have hlast : Call.request (closeRequest args id) ∈ made ++ [.request (closeRequest args id)] :=
        List.mem_append_right made (List.mem_singleton_self _)
      -- all parts have returned, so the session is closed, however that ends
      obtain ⟨status, payload, -, hclosing⟩ | ⟨-, e, hclosing⟩ :=
        @runs_requestJson answers (closeRequest args id) t
      · have hend : Runs answers (examine args (.str id)) s
            (made ++ [.request (closeRequest args id)]) (.ok ()) _ :=
          hnoted.bind (hlifted.bind (hrun.bind (hclosing.bind
            ((Runs.modify _).bind (Runs.modify _)))))
        refine ⟨_, _, _, hend, fun _ => ⟨htests.addTest { id := "SESSION_CLOSE", status := .pass }, ?_⟩,
          .inl ⟨id, rfl, hinspected, hlast⟩⟩
        exact passIf_all_iff _
      · have hend : Runs answers (examine args (.str id)) s
            (made ++ [.request (closeRequest args id)]) (.error e) t :=
          hnoted.bind (hlifted.bind (hrun.bind hclosing.bind_error))
        exact ⟨_, _, _, hend, nofun, .inl ⟨id, rfl, hinspected, hlast⟩⟩
    · refine ⟨_, _, _, hnoted.bind (hlifted.bind hrun.bind_error), nofun, .inr ⟨?_, hkind⟩⟩
      rintro ⟨other, hother, hinspected⟩
      cases hother
      exact hnot hinspected

/-- The result is saved, or the program raises. -/
theorem runs_saveResult (s : Result) :
    answers (.saveResult s) = none ∧ Runs answers saveResult s [.saveResult s] (.ok ()) s ∨
      ∃ e, Runs answers saveResult s [.saveResult s] (.error e) s := by
  obtain ⟨hnone, hsaved⟩ | ⟨-, e, hraised⟩ := @runs_raising answers (answers (.saveResult s)) s
  · exact .inl ⟨hnone, Runs.get.bind hsaved.ask_bind⟩
  · exact .inr ⟨e, Runs.get.bind hraised.ask_bind⟩

/-- An early end saves a result that is a failure. -/
theorem runs_failEarly (blocker : String) (tests : List Test) (s : Result) :
    ∃ t, t.status = .fail ∧
      (answers (.saveResult t) = none ∧
          Runs answers (failEarly blocker tests) s [.saveResult t] (.ok (some 1)) t ∨
        ∃ e, Runs answers (failEarly blocker tests) s [.saveResult t] (.error e) t) := by
  refine ⟨{ s with
    status := .fail, blocker := some (text blocker), tests := s.tests ++ tests }, rfl, ?_⟩
  obtain ⟨hnone, hsaved⟩ | ⟨e, hraised⟩ := @runs_saveResult answers { s with
    status := .fail, blocker := some (text blocker), tests := s.tests ++ tests }
  · exact .inl ⟨hnone, (Runs.modify _).bind (hsaved.bind (Runs.pure _))⟩
  · exact .inr ⟨e, (Runs.modify _).bind hraised.bind_error⟩

end Parts

/-! ## The `try` block -/

section Attempt

variable {answers : (call : Call) → Answer call} {env : Environment} {args : Args} {s : Result}

/-- What has become of the session, if there is one. -/
structure Sessions (answers : (call : Call) → Answer call) (env : Environment) (args : Args)
    (made : List Call) : Prop where
  asked : ∀ capabilities, buildCapabilities env args = .ok capabilities →
    (.request (createRequest args capabilities) ∈ made ↔ Ready answers args)
  closed : ∀ payload, Yielded answers args env payload → Undisturbed answers args payload →
    ∃ id, sessionIdOf payload = .str id ∧ .request (closeRequest args id) ∈ made
  leaked : ∀ payload, Yielded answers args env payload → ¬ Undisturbed answers args payload →
    ∀ id, .request (closeRequest args id) ∉ made

/-- What the `try` block has done, up to its end or an exception. -/
structure Attempted (answers : (call : Call) → Answer call) (env : Environment) (args : Args)
    (made : List Call) (outcome : Except Raised (Option Int)) (t : Result) : Prop where
  sessions : Sessions answers env args made
  completed : outcome = .ok none → Complete t
  early : ∀ code, outcome = .ok (some code) → code = 1 ∧ t.status = .fail ∧
    answers (.saveResult t) = none ∧ ∃ pre, made = pre ++ [.saveResult t]

/-- Without a DELETE no session is closed. -/
theorem closeRequest_notMem {made : List Call} (h : ∀ call ∈ made, Kind [.get, .post] call)
    (id : PyString) : .request (closeRequest args id) ∉ made := by
  intro hmem
  have hmethod : Method.delete ∈ [Method.get, .post] := h _ hmem
  exact absurd hmethod (by decide)

/-- A session is created with a POST. -/
theorem kind_createRequest (capabilities : Json) :
    Kind [.get, .post] (.request (createRequest args capabilities)) := by
  show Method.post ∈ [Method.get, .post]
  decide

/-- Creating a session is not asking for the status. -/
theorem createRequest_ne_statusRequest (capabilities : Json) :
    createRequest args capabilities ≠ statusRequest args := by
  intro h
  have hmethod := congrArg Request.method h
  cases hmethod

/-- Nor is closing one. -/
theorem closeRequest_ne_statusRequest (id : PyString) :
    closeRequest args id ≠ statusRequest args := by
  intro h
  have hmethod := congrArg Request.method h
  cases hmethod

/-- Other calls, and the request for the status, change nothing about sessions. -/
theorem Sessions.congr {made more : List Call} (h : Sessions answers env args made)
    (hiff : ∀ r, r ≠ statusRequest args → (.request r ∈ more ↔ .request r ∈ made)) :
    Sessions answers env args more where
  asked capabilities hcapabilities := by
    rw [hiff _ (createRequest_ne_statusRequest capabilities)]
    exact h.asked capabilities hcapabilities
  closed payload hyielded hundisturbed := by
    obtain ⟨id, hid, hmem⟩ := h.closed payload hyielded hundisturbed
    exact ⟨id, hid, (hiff _ (closeRequest_ne_statusRequest id)).mpr hmem⟩
  leaked payload hyielded hdisturbed id hmem := by
    rw [hiff _ (closeRequest_ne_statusRequest id)] at hmem
    exact h.leaked payload hyielded hdisturbed id hmem

/-- Where no session is asked for. -/
theorem sessions_of_not_ready {made : List Call} (hready : ¬ Ready answers args)
    (hmade : ∀ r, .request r ∈ made → r = statusRequest args) :
    Sessions answers env args made where
  asked capabilities _ :=
    iff_of_false (fun hmem => createRequest_ne_statusRequest capabilities (hmade _ hmem)) hready
  closed _ hyielded := absurd hyielded.ready hready
  leaked _ hyielded := absurd hyielded.ready hready

/-- The answer that was yielded is that of the creation. -/
theorem Yielded.eq {payload other capabilities : Json} {status : Int}
    (h : Yielded answers args env other) (hcapabilities : buildCapabilities env args = .ok capabilities)
    (hanswer : answers (.request (createRequest args capabilities)) = .returned status payload) :
    other = payload := by
  obtain ⟨same, code, hsame, hother⟩ := h.created
  obtain rfl := Except.ok.inj (hcapabilities.symm.trans hsame)
  exact (Response.returned.inj (hother.symm.trans hanswer)).2

/-- Where a session is asked for, but none is there to be closed. -/
theorem sessions_of_not_yielded {made : List Call} (hready : Ready answers args)
    (hmade : ∀ capabilities, buildCapabilities env args = .ok capabilities →
      .request (createRequest args capabilities) ∈ made)
    (hyielded : ∀ payload, ¬ Yielded answers args env payload) :
    Sessions answers env args made where
  asked capabilities hcapabilities := iff_of_true (hmade capabilities hcapabilities) hready
  closed _ h := absurd h (hyielded _)
  leaked _ h := absurd h (hyielded _)

/-- The `try` block has returned by itself. -/
theorem attempted_early (pre : List Call) {t : Result}
    (hsessions : Sessions answers env args (pre ++ [.saveResult t])) (hstatus : t.status = .fail)
    (hsaved : answers (.saveResult t) = none) :
    Attempted answers env args (pre ++ [.saveResult t]) (.ok (some 1)) t where
  sessions := hsessions
  completed := nofun
  early := by
    rintro _ ⟨⟩
    exact ⟨rfl, hstatus, hsaved, pre, rfl⟩

/-- A block that raises says nothing about the result. -/
theorem attempted_error {made : List Call} {e : Raised} {t : Result}
    (hsessions : Sessions answers env args made) :
    Attempted answers env args made (.error e) t :=
  ⟨hsessions, nofun, nofun⟩

/-- **The session**, from its creation on. -/
theorem openSession_spec (hready : Ready answers args) (hs : Tested ["APPIUM_SERVER_STATUS"] s) :
    ∃ made outcome t, Runs answers (openSession env args) s made outcome t ∧
      Attempted answers env args made outcome t := by
  cases hcapabilities : buildCapabilities env args with
  | error e =>
    have hraised : Runs answers (liftResult (buildCapabilities env args) : Suite Json) s []
        (.error e) s := by
      rw [hcapabilities]
      exact Runs.liftResult _
    refine ⟨_, _, _, hraised.bind_error, attempted_error (sessions_of_not_yielded hready ?_ ?_)⟩
    · rw [hcapabilities]
      exact nofun
    · intro payload hyielded
      obtain ⟨capabilities, -, hsame, -⟩ := hyielded.created
      exact absurd (hcapabilities.symm.trans hsame) nofun
  | ok capabilities =>
    have hbuilt : Runs answers (liftResult (buildCapabilities env args) : Suite Json) s []
        (.ok capabilities) s := by
      rw [hcapabilities]
      exact Runs.liftResult _
    have hasked : ∀ more other, buildCapabilities env args = .ok other →
        .request (createRequest args other) ∈ Call.request (createRequest args capabilities) :: more := by
      intro more other hother
      obtain rfl := Except.ok.inj (hcapabilities.symm.trans hother)
      exact List.mem_cons_self
    obtain ⟨status, payload, hanswer, hsaved, hrun⟩ | ⟨status, payload, e, hanswer, hsaved, hrun⟩ |
        ⟨e, hanswer, hrun⟩ :=
      @runs_collect answers (createRequest args capabilities) "session_create.json" s
    · -- the session is asked for, whatever comes of it
      have hbranch : ∀ {more : List Call} {outcome : Except Raised (Option Int)} {t : Result},
          Runs answers
            (if (sessionIdOf payload).truthy then do
              examine args (sessionIdOf payload)
              return none
            else
              failEarly "Appium session was not created"
                [{ id := "SESSION_CREATE", status := .fail, httpStatus := some status }])
            s more outcome t →
          Runs answers (openSession env args) s
            (.request (createRequest args capabilities) ::
              .saveJson "session_create.json" payload :: more) outcome t :=
        fun hrest => hbuilt.bind (hrun.bind hrest)
      cases htruthy : (sessionIdOf payload).truthy with
      | true =>
        rw [htruthy] at hbranch
        -- there is a session, which is closed exactly if its inspection returns
        obtain ⟨made, inspected, t, hexamine, hcomplete, hsession⟩ :=
          @examine_spec answers args s (sessionIdOf payload) hs
        have hyielded : Yielded answers args env payload :=
          ⟨hready, ⟨capabilities, status, hcapabilities, hanswer⟩, htruthy⟩
        obtain ⟨outcome, hend, hcompleted, hearly⟩ : ∃ outcome : Except Raised (Option Int),
            Runs answers (examine args (sessionIdOf payload) >>= fun _ => pure none) s made outcome t ∧
              (outcome = .ok none → Complete t) ∧ ∀ code, outcome ≠ .ok (some code) := by
          cases inspected with
          | error e => exact ⟨.error e, hexamine.bind_error, nofun, nofun⟩
          | ok u =>
            refine ⟨.ok none, ?_, fun _ => hcomplete rfl, nofun⟩
            have hreturn : Runs answers (examine args (sessionIdOf payload) >>= fun _ => pure none) s
                (made ++ []) (.ok (none : Option Int)) t := hexamine.bind (Runs.pure none)
            rwa [List.append_nil] at hreturn
        refine ⟨_, outcome, t, hbranch hend, ⟨fun other hother => ?_,
          fun other hother hundisturbed => ?_, fun other hother hdisturbed id => ?_⟩, hcompleted,
          fun code hcode => absurd hcode (hearly code)⟩
        · exact iff_of_true (hasked _ other hother) hready
        · obtain rfl := hother.eq hcapabilities hanswer
          obtain ⟨id, hid, -, hmem⟩ | ⟨hnot, -⟩ := hsession
          · exact ⟨id, hid, List.mem_cons_of_mem _ (List.mem_cons_of_mem _ hmem)⟩
          · exact absurd hundisturbed.2 hnot
        · obtain rfl := hother.eq hcapabilities hanswer
          obtain ⟨same, hid, hinspected, -⟩ | ⟨-, hkind⟩ := hsession
          · exact absurd ⟨hsaved, same, hid, hinspected⟩ hdisturbed
          · refine closeRequest_notMem ?_ id
            rw [List.forall_mem_cons, List.forall_mem_cons]
            exact ⟨kind_createRequest capabilities, trivial, hkind⟩
      | false =>
        rw [htruthy] at hbranch
        -- an answer without a session: there is nothing to close
        have hnot : ∀ other, ¬ Yielded answers args env other := by
          intro other hother
          obtain rfl := hother.eq hcapabilities hanswer
          exact absurd (htruthy.symm.trans hother.identified) nofun
        obtain ⟨t, hstatus, ⟨hnone, hfail⟩ | ⟨e, hfail⟩⟩ := @runs_failEarly answers
          "Appium session was not created"
          [{ id := "SESSION_CREATE", status := .fail, httpStatus := some status }] s
        · exact ⟨_, _, t, hbranch hfail,
            attempted_early [_, _] (sessions_of_not_yielded hready (hasked _) hnot) hstatus hnone⟩
        · exact ⟨_, _, t, hbranch hfail,
            attempted_error (sessions_of_not_yielded hready (hasked _) hnot)⟩
    · refine ⟨_, _, _, hbuilt.bind hrun.bind_error, attempted_error ⟨fun other hother => ?_,
        fun other hother hundisturbed => ?_, fun other hother _ id => ?_⟩⟩
      · exact iff_of_true (hasked _ other hother) hready
      · obtain rfl := hother.eq hcapabilities hanswer
        exact absurd hundisturbed.1 hsaved
      · refine closeRequest_notMem ?_ id
        rw [List.nil_append, List.forall_mem_cons, List.forall_mem_singleton]
        exact ⟨kind_createRequest capabilities, trivial⟩
    · refine ⟨_, _, _, hbuilt.bind hrun.bind_error,
        attempted_error (sessions_of_not_yielded hready (hasked _) ?_)⟩
      intro other hother
      obtain ⟨same, status, hsame, hreturned⟩ := hother.created
      obtain rfl := Except.ok.inj (hcapabilities.symm.trans hsame)
      exact hanswer status other hreturned

/-- **The `try` block.** -/
theorem attemptRun_spec (hdirectory : answers .makeDirectory = none) (hserver : args.serverUrl ≠ [])
    (hs : s.tests = []) :
    ∃ made outcome t, Runs answers (attemptRun env args) s made outcome t ∧
      Attempted answers env args made outcome t := by
  obtain ⟨status, payload, hanswer, hsaved, hrun⟩ | ⟨status, payload, e, hanswer, hsaved, hrun⟩ |
      ⟨e, hanswer, hrun⟩ := @runs_collect answers (statusRequest args) "server_status.json" s
  · have htest := @Runs.modify Call Answer Raised Result answers s fun result =>
      { result with tests := result.tests ++ [{
        id := "APPIUM_SERVER_STATUS", status := passIf (status = 200), httpStatus := some status }] }
    have hbranch : ∀ {more : List Call} {outcome : Except Raised (Option Int)} {t : Result},
        Runs answers
          (if status ≠ 200 then failEarly "Appium server status did not return HTTP 200" []
          else openSession env args) _ more outcome t →
        Runs answers (attemptRun env args) s
          (.request (statusRequest args) :: .saveJson "server_status.json" payload :: more)
          outcome t := fun hrest => hrun.bind (htest.bind hrest)
    by_cases hok : status = 200
    · rw [if_neg (not_not_intro hok)] at hbranch
      subst hok
      have hready : Ready answers args := ⟨hdirectory, hserver, payload, hanswer, hsaved⟩
      -- the status is the first test
      have htested : Tested ["APPIUM_SERVER_STATUS"] { s with
          tests := s.tests ++ [{
            id := "APPIUM_SERVER_STATUS", status := passIf (decide ((200 : Int) = 200))
            httpStatus := some 200 }] } := by
        rw [hs]
        rfl
      obtain ⟨made, outcome, t, hopen, hattempted⟩ := @openSession_spec answers env args _ hready htested
      refine ⟨_, outcome, t, hbranch hopen, hattempted.sessions.congr fun r hr => ?_,
        hattempted.completed, fun code hcode => ?_⟩
      · simp [hr]
      · obtain ⟨hone, hstatus, hnone, pre, hpre⟩ := hattempted.early code hcode
        exact ⟨hone, hstatus, hnone, _ :: _ :: pre, by rw [hpre]; rfl⟩
    · rw [if_pos hok] at hbranch
      have hready : ¬ Ready answers args := by
        rintro ⟨-, -, other, hother, -⟩
        exact hok (Response.returned.inj (hanswer.symm.trans hother)).1
      obtain ⟨t, hstatus, ⟨hnone, hfail⟩ | ⟨e, hfail⟩⟩ := @runs_failEarly answers
        "Appium server status did not return HTTP 200" [] _
      · exact ⟨_, _, t, hbranch hfail, attempted_early [_, _]
          (sessions_of_not_ready hready (by simp)) hstatus hnone⟩
      · exact ⟨_, _, t, hbranch hfail, attempted_error (sessions_of_not_ready hready (by simp))⟩
  · have hready : ¬ Ready answers args := by
      rintro ⟨-, -, other, hother, hnone⟩
      obtain ⟨-, rfl⟩ := Response.returned.inj (hanswer.symm.trans hother)
      exact hsaved hnone
    exact ⟨_, _, _, hrun.bind_error, attempted_error (sessions_of_not_ready hready (by simp))⟩
  · have hready : ¬ Ready answers args := by
      rintro ⟨-, -, other, hother, -⟩
      exact hanswer 200 other hother
    exact ⟨_, _, _, hrun.bind_error, attempted_error (sessions_of_not_ready hready (by simp))⟩

end Attempt

/-! ## The whole run -/

section Run

variable {answers : (call : Call) → Answer call} {env : Environment} {args : Args}

/-- The result that a call writes, unless it raises. -/
def writtenBy (answers : (call : Call) → Answer call) : Call → Option Result
  | .saveResult result =>
    match answers (.saveResult result) with
    | none => some result
    | some _ => none
  | _ => none

/-- What `result.json` holds in the end. -/
def written (answers : (call : Call) → Answer call) (made : List Call) : Option Result :=
  (made.filterMap (writtenBy answers)).getLast?

/-- What was saved last is what is there. -/
theorem written_concat {result : Result} (h : answers (.saveResult result) = none)
    (made : List Call) : written answers (made ++ [.saveResult result]) = some result := by
  have hlast : writtenBy answers (.saveResult result) = some result := by
    rw [writtenBy, h]
  rw [written, List.filterMap_append, List.filterMap_cons_some hlast, List.filterMap_nil,
    List.getLast?_concat]

/-- Every session whose identifier was answered has been asked to be deleted. -/
def Closed (answers : (call : Call) → Answer call) (env : Environment) (args : Args)
    (made : List Call) : Prop :=
  ∀ capabilities status payload, buildCapabilities env args = .ok capabilities →
    .request (createRequest args capabilities) ∈ made →
      answers (.request (createRequest args capabilities)) = .returned status payload →
        (sessionIdOf payload).truthy = true →
          ∃ id, sessionIdOf payload = .str id ∧ .request (closeRequest args id) ∈ made

/-- A run that returns has written a result; it returns 0 exactly if that is a PASS, and then all
    nine checks are there, and each is a PASS. -/
def Reported (answers : (call : Call) → Answer call) (made : List Call)
    (outcome : Except Raised Int) : Prop :=
  ∀ code, outcome = .ok code → ∃ result, written answers made = some result ∧
    (code = 0 ↔ result.status = .pass) ∧
      (result.status = .pass → Tested checks result ∧ ∀ test ∈ result.tests, test.status = .pass)

/-- The directory is made, or the program raises. -/
theorem runs_makeDirectory (s : Result) :
    answers .makeDirectory = none ∧ Runs answers makeDirectory s [.makeDirectory] (.ok ()) s ∨
      answers .makeDirectory ≠ none ∧
        ∃ e, Runs answers makeDirectory s [.makeDirectory] (.error e) s := by
  obtain ⟨hnone, hmade⟩ | ⟨hsome, e, hraised⟩ := @runs_raising answers (answers .makeDirectory) s
  · exact .inl ⟨hnone, hmade.ask_bind⟩
  · exact .inr ⟨hsome, e, hraised.ask_bind⟩

/-- A handler notes a failure, or raises itself. -/
theorem runs_handle (e : Raised) (s : Result) :
    ∃ made outcome t, Runs answers (handle e) s made outcome t ∧ (∀ r, .request r ∉ made) ∧
      (outcome = .ok none ∧ t.status = .fail ∨ ∃ other, outcome = .error other) := by
  cases e with
  | exception message =>
    exact ⟨_, _, _, (Runs.modify _).bind (Runs.pure none), nofun, .inl ⟨rfl, rfl⟩⟩
  | httpError code =>
    have hread : ∀ r : Request, Call.request r ∉ [Call.readError] := by simp
    have hasked := fun t => @Runs.ask Call Answer Raised Result answers t .readError
    cases hbody : answers .readError with
    -- the body of the error cannot be read, which raises in the handler
    | error message =>
      rw [hbody] at hasked
      exact ⟨[.readError], _, _, (Runs.modify _).bind ((hasked _).bind (Runs.throw _)), hread,
        .inr ⟨_, rfl⟩⟩
    | ok body =>
      rw [hbody] at hasked
      exact ⟨[.readError], _, _,
        (Runs.modify _).bind ((hasked _).bind ((Runs.modify _).bind (Runs.pure none))), hread,
        .inl ⟨rfl, rfl⟩⟩

/-- The last lines write the result and return its status as a number. -/
theorem runs_finish (s : Result) : ∃ t, t.status = s.status ∧ t.tests = s.tests ∧
    (answers (.saveResult t) = none ∧
        Runs answers (finish env) s [.saveResult t] (.ok (if s.status = .pass then 0 else 1)) t ∨
      ∃ e, Runs answers (finish env) s [.saveResult t] (.error e) t) := by
  refine ⟨{ s with finishedAt := some env.finished }, rfl, rfl, ?_⟩
  obtain ⟨hnone, hsaved⟩ | ⟨e, hraised⟩ :=
    @runs_saveResult answers { s with finishedAt := some env.finished }
  · exact .inl ⟨hnone, (Runs.modify _).bind (hsaved.bind (Runs.get.bind (Runs.pure _)))⟩
  · exact .inr ⟨e, (Runs.modify _).bind hraised.bind_error⟩

/-- The exit code is the one of the result that was saved last. -/
theorem reported_finish {made : List Call} {t : Result} (hsaved : answers (.saveResult t) = none)
    (hcomplete : t.status = .pass → Complete t) :
    Reported answers (made ++ [.saveResult t]) (.ok (if t.status = .pass then 0 else 1)) := by
  rintro _ ⟨⟩
  refine ⟨t, written_concat hsaved made, ?_, fun hpass => ?_⟩
  · split
    next hpass => exact iff_of_true rfl hpass
    next hnot => exact iff_of_false (by decide) hnot
  · exact ⟨(hcomplete hpass).tested, (hcomplete hpass).status.mp hpass⟩

/-- **A run**, with what becomes of the session and what it reports. -/
theorem run_spec (answers : (call : Call) → Answer call) (env : Environment) (args : Args) :
    ∃ made outcome t, Runs answers (run env args) (initial env args) made outcome t ∧
      Sessions answers env args made ∧ Reported answers made outcome := by
  obtain ⟨hdirectory, hmade⟩ | ⟨hdirectory, e, hmade⟩ :=
    @runs_makeDirectory answers (initial env args)
  · by_cases hserver : args.serverUrl = []
    · have hready : ¬ Ready answers args := fun hready => hready.server hserver
      have hbranch : ∀ {more : List Call} {outcome : Except Raised Int} {t : Result},
          Runs answers (do
            modify fun result => { result with
              status := .blocked, blocker := some (text "APPIUM_SERVER_URL is missing") }
            saveResult
            return (20 : Int)) (initial env args) more outcome t →
          Runs answers (run env args) (initial env args) (.makeDirectory :: more) outcome t := by
        intro more outcome t hrest
        refine hmade.bind ?_
        rw [if_pos hserver]
        exact hrest
      obtain ⟨hnone, hsaved⟩ | ⟨e, hraised⟩ := @runs_saveResult answers { initial env args with
        status := .blocked, blocker := some (text "APPIUM_SERVER_URL is missing") }
      · refine ⟨_, _, _, hbranch ((Runs.modify _).bind (hsaved.bind (Runs.pure _))),
          sessions_of_not_ready hready (by simp), ?_⟩
        rintro _ ⟨⟩
        exact ⟨_, written_concat hnone [.makeDirectory], iff_of_false (by decide) (by simp), fun h => by cases h⟩
      · exact ⟨_, _, _, hbranch ((Runs.modify _).bind hraised.bind_error),
          sessions_of_not_ready hready (by simp), fun _ h => by cases h⟩
    · obtain ⟨made, outcome, t, hattempt, hattempted⟩ :=
        @attemptRun_spec answers env args (initial env args) hdirectory hserver rfl
      have hbranch : ∀ {caught more : List Call} {early : Option Int} {outcome : Except Raised Int}
          {u v : Result},
          Runs answers (tryCatch (attemptRun env args) handle : Suite (Option Int))
            (initial env args) caught (.ok early) u →
          Runs answers (conclude env early) u more outcome v →
          Runs answers (run env args) (initial env args) (.makeDirectory :: (caught ++ more))
            outcome v := by
        intro caught more early outcome u v hcaught hrest
        refine hmade.bind ?_
        rw [if_neg hserver]
        exact hcaught.bind hrest
      -- behind the `try` statement the status is that of nine checks, or no PASS
      have hfinish : ∀ {caught : List Call} {u : Result},
          Runs answers (tryCatch (attemptRun env args) handle : Suite (Option Int))
            (initial env args) caught (.ok none) u →
          Sessions answers env args caught → (u.status = .pass → Complete u) →
          ∃ made outcome t, Runs answers (run env args) (initial env args) made outcome t ∧
            Sessions answers env args made ∧ Reported answers made outcome := by
        intro caught u hcaught hsessions hcomplete
        obtain ⟨v, hstatus, htests, ⟨hnone, hfinished⟩ | ⟨e, hraised⟩⟩ := @runs_finish answers env u
        · refine ⟨_, _, v, hbranch hcaught hfinished, hsessions.congr fun r _ => by simp, ?_⟩
          rw [← hstatus, ← List.cons_append]
          refine reported_finish hnone fun hpass => ?_
          obtain ⟨htested, hall⟩ := hcomplete (hstatus ▸ hpass)
          exact ⟨by rw [Tested, htests]; exact htested, by rw [hstatus, htests]; exact hall⟩
        · exact ⟨_, _, v, hbranch hcaught hraised, hsessions.congr fun r _ => by simp,
            fun _ h => by cases h⟩
      cases outcome with
      | ok early =>
        cases early with
        | some code =>
          -- the block has returned by itself, with a failure that it has written
          obtain ⟨rfl, hstatus, hnone, pre, rfl⟩ := hattempted.early code rfl
          refine ⟨_, _, t, hbranch (Runs.tryCatch_ok hattempt) (Runs.pure _),
            hattempted.sessions.congr fun r _ => by simp, ?_⟩
          intro code' hcode
          cases hcode
          refine ⟨t, ?_, iff_of_false (by decide) ?_, fun hpass => ?_⟩
          · rw [List.append_nil, ← List.cons_append]
            exact written_concat hnone _
          · rw [hstatus]
            simp
          · exact absurd (hstatus.symm.trans hpass) (by simp)
        | none =>
          exact hfinish (Runs.tryCatch_ok hattempt) hattempted.sessions
            fun _ => hattempted.completed rfl
      | error e =>
        -- the block has raised: the handler makes no request, and its status is a failure
        obtain ⟨more, handled, u, hhandle, hrequests, ⟨rfl, hstatus⟩ | ⟨other, rfl⟩⟩ :=
          @runs_handle answers e t
        · refine hfinish (Runs.tryCatch_error hattempt hhandle)
            (hattempted.sessions.congr fun r _ => by simp [hrequests]) fun hpass => ?_
          exact absurd (hstatus.symm.trans hpass) (by simp)
        · have hraised : Runs answers (run env args) (initial env args)
              (.makeDirectory :: (made ++ more)) (.error other) u := by
            refine hmade.bind ?_
            rw [if_neg hserver]
            exact (Runs.tryCatch_error hattempt hhandle).bind_error
          exact ⟨_, _, u, hraised, hattempted.sessions.congr fun r _ => by simp [hrequests],
            fun _ h => by cases h⟩
  · refine ⟨_, _, _, hmade.bind_error, sessions_of_not_ready ?_ (by simp), fun _ h => by cases h⟩
    exact fun hready => hdirectory hready.directory

/-- The sessions of a run are closed exactly if the one that is created is not disturbed. -/
theorem closed_iff (answers : (call : Call) → Answer call) (env : Environment) (args : Args) :
    Closed answers env args (calls answers (run env args) (initial env args)) ↔
      ∀ payload, Yielded answers args env payload → Undisturbed answers args payload := by
  obtain ⟨made, outcome, t, hrun, hsessions, -⟩ := run_spec answers env args
  rw [hrun.calls_eq]
  constructor
  · intro hclosed payload hyielded
    -- a session that is disturbed is not closed, so it would be a leak
    by_contra hdisturbed
    obtain ⟨capabilities, status, hcapabilities, hanswer⟩ := hyielded.created
    have hasked := (hsessions.asked capabilities hcapabilities).mpr hyielded.ready
    obtain ⟨id, -, hmem⟩ := hclosed capabilities status payload hcapabilities hasked hanswer
      hyielded.identified
    exact hsessions.leaked payload hyielded hdisturbed id hmem
  · intro hundisturbed capabilities status payload hcapabilities hasked hanswer hidentified
    have hyielded : Yielded answers args env payload :=
      ⟨(hsessions.asked capabilities hcapabilities).mp hasked,
        ⟨capabilities, status, hcapabilities, hanswer⟩, hidentified⟩
    exact hsessions.closed payload hyielded (hundisturbed payload hyielded)

/-- **Cloud sessions.**  However requests and writes turn out, the exit code and the written result
    agree; and every session is closed before `run` returns exactly if nothing raises between its
    creation and its deletion. -/
theorem sessions_closed_iff (answers : (call : Call) → Answer call) (env : Environment)
    (args : Args) :
    Closed answers env args (calls answers (run env args) (initial env args)) ∧
        Reported answers (calls answers (run env args) (initial env args))
          (ending answers (run env args) (initial env args)).1 ↔
      ∀ payload, Yielded answers args env payload → Undisturbed answers args payload := by
  obtain ⟨made, outcome, t, hrun, -, hreported⟩ := run_spec answers env args
  rw [← closed_iff]
  refine and_iff_left ?_
  rw [hrun.calls_eq, hrun.ending_eq]
  exact hreported

end Run

/-- A run on Kobiton. -/
def kobitonArgs : Args :=
  { provider := text "kobiton", serverUrl := text "https://hub/wd", deviceName := text "Pixel 8"
    platformVersion := text "14", apkSha256 := text "00", buildId := text "1" }

def kobitonEnvironment : Environment :=
  { environ := fun _ => some (text "app"), started := text "0", finished := text "1" }

/-- The answer to a created session. -/
def sessionAnswer : Json :=
  .dict [(text "sessionId", .str (text "1"))]

/-- The first request to the session times out. -/
def timedOut : (call : Call) → Answer call
  | .request r =>
    if r.url = sessionUrl kobitonArgs (text "1") then .raised (text "timed out")
    else .returned 200 sessionAnswer
  | .readError => .ok []
  | .makeDirectory => none
  | .saveJson _ _ => none
  | .saveScreenshot _ => none
  | .saveResult _ => none

/-- A session whose details time out is never closed. -/
theorem timed_out_session_stays_open :
    ¬ ∀ (answers : (call : Call) → Answer call) (env : Environment) (args : Args),
      Closed answers env args (calls answers (run env args) (initial env args)) ∧
        Reported answers (calls answers (run env args) (initial env args))
          (ending answers (run env args) (initial env args)).1 := by
  intro h
  have hclosed := (closed_iff _ _ _).mp (h timedOut kobitonEnvironment kobitonArgs).1
  have hyielded : Yielded timedOut kobitonArgs kobitonEnvironment sessionAnswer :=
    ⟨⟨rfl, by decide, _, rfl, rfl⟩, ⟨_, _, rfl, rfl⟩, by decide⟩
  obtain ⟨-, id, hid, hinspected⟩ := hclosed sessionAnswer hyielded
  obtain ⟨status, payload, hdetails, -⟩ := hinspected.details
  have hsame : sessionIdOf sessionAnswer = .str (text "1") := rfl
  obtain rfl := Json.str.inj (hsame.symm.trans hid)
  cases hdetails

end DarkMed.Engineering.AppiumSuite
