import DarkMed.Lib.Program
import DarkMed.Lib.Python

/-!
# The Appium Suite

`run` of `qa/appium/universal_appium_suite.py`: one session on a device of a cloud, with requests
to its Appium endpoint one after another, and a file written from each answer.

Any request can raise, and so can any write.  One handler stands around all of it and does not
know of the session: whatever raises between the session's creation and its deletion leaves the
session open.  The exit code and the written result agree in any case.
-/

namespace DarkMed.Engineering.AppiumSuite

open DarkMed.Lib DarkMed.Lib.Program DarkMed.Lib.Python

/-! ## Calls -/

inductive Method where
  | get
  | post
  | delete
  deriving DecidableEq, Repr

/-- The arguments of `request_json`. -/
structure Request where
  url : PyString
  method : Method := .get
  payload : Option Json := none
  headers : List (PyString × PyString) := []

/-- How `request_json` turns out. -/
inductive Response where
  | returned (status : Int) (payload : Json)
  /-- `urllib.error.HTTPError` -/
  | httpError (code : Int)
  /-- Any other exception: a timeout, or an answer that cannot be decoded. -/
  | raised (message : PyString)

inductive Status where
  | notTested
  | blocked
  | fail
  | pass
  deriving DecidableEq, Repr

/-- An entry of `result["tests"]`. -/
structure Test where
  id : String
  status : Status
  httpStatus : Option Int := none
  query : Option PyString := none

/-- `result`, whose optional keys are set on the way. -/
structure Result where
  provider : PyString
  deviceName : PyString
  platformVersion : PyString
  startedAt : PyString
  status : Status := .notTested
  tests : List Test := []
  artifacts : List String := []
  apkSha256 : PyString
  execution : String := "real Appium session only; no simulated fallback"
  blocker : Option PyString := none
  sessionId : Option Json := none
  capabilitiesReturned : Option Json := none
  error : Option PyString := none
  finishedAt : Option PyString := none

/-- What `run` asks of the endpoint and of the file system, each thing once. -/
inductive Call where
  /-- `output.mkdir(parents=True, exist_ok=True)` -/
  | makeDirectory
  | request (r : Request)
  | saveJson (name : String) (value : Json)
  | saveScreenshot (value : PyString)
  /-- `save_json(output / "result.json", result)` -/
  | saveResult (result : Result)
  /-- `error.read().decode("utf-8", errors="replace")` -/
  | readError

/-- What comes back: of a write, the message of its exception if it raises. -/
abbrev Answer : Call → Type
  | .request _ => Response
  | .readError => Except PyString PyString
  | .makeDirectory | .saveJson _ _ | .saveScreenshot _ | .saveResult _ => Option PyString

inductive Raised where
  | httpError (code : Int)
  | exception (message : PyString)

/-- A part of `run`, with `result` at hand. -/
abbrev Suite (α : Type) := Procedure Call Answer Result Raised α

/-- `request_json` -/
def requestJson (r : Request) : Suite (Int × Json) := do
  let response : Response ← ask (Call.request r)
  match response with
  | .returned status payload => return (status, payload)
  | .httpError code => throw (.httpError code)
  | .raised message => throw (.exception message)

/-- What a write raises. -/
def raising (raised : Option PyString) : Suite Unit :=
  match raised with
  | none => pure ()
  | some message => throw (.exception message)

def makeDirectory : Suite Unit := do
  let raised : Option PyString ← ask Call.makeDirectory
  raising raised

/-- `save_json(output / name, value)` -/
def saveJson (name : String) (value : Json) : Suite Unit := do
  let raised : Option PyString ← ask (Call.saveJson name value)
  raising raised

def saveScreenshot (value : PyString) : Suite Unit := do
  let raised : Option PyString ← ask (Call.saveScreenshot value)
  raising raised

def saveResult : Suite Unit := do
  let result ← get
  let raised : Option PyString ← ask (Call.saveResult result)
  raising raised

/-- A request whose answer is written to a file. -/
def collect (r : Request) (name : String) : Suite (Int × Json) := do
  let answer ← requestJson r
  saveJson name answer.2
  return answer

/-- `result["tests"].append(test)` -/
def addTest (test : Test) : Suite Unit :=
  modify fun result => { result with tests := result.tests ++ [test] }

def passIf (condition : Bool) : Status :=
  if condition then .pass else .fail

/-! ## Arguments -/

structure Args where
  provider : PyString
  serverUrl : PyString
  deviceName : PyString
  platformVersion : PyString
  apkSha256 : PyString
  buildId : PyString
  authHeaders : List (PyString × PyString) := []

/-- `os.environ`, and what the clock says at the beginning and at the end. -/
structure Environment where
  environ : PyString → Option PyString
  started : PyString
  finished : PyString

/-- `os.environ.get(name, default)` -/
def Environment.getD (env : Environment) (name default : String) : Json :=
  .str ((env.environ (text name)).getD (text default))

def appReferenceName (provider : PyString) : Option PyString :=
  lookup provider [
    (text "browserstack", text "BROWSERSTACK_APP_REF"),
    (text "sauce", text "SAUCE_APP_REF"),
    (text "kobiton", text "KOBITON_APP_REF"),
    (text "perfecto", text "PERFECTO_APP_REF")]

/-- `app_reference`, without a reference that is empty -/
def appReference (env : Environment) (provider : PyString) : Option PyString :=
  (appReferenceName provider).bind fun name =>
    (env.environ name).filter fun reference => decide (reference ≠ [])

/-- `build_capabilities` -/
def buildCapabilities (env : Environment) (args : Args) : Except Raised Json :=
  match appReference env args.provider with
  | none =>
    .error (.exception (text "missing provider app reference for " ++ args.provider ++
      text "; upload must complete before Appium execution"))
  | some reference =>
    let caps : List (PyString × Json) := [
      (text "platformName", .str (text "Android")),
      (text "appium:automationName", .str (text "UiAutomator2")),
      (text "appium:deviceName", .str args.deviceName),
      (text "appium:platformVersion", .str args.platformVersion),
      (text "appium:app", .str reference),
      (text "appium:appPackage", .str (text "com.darkmed.app")),
      (text "appium:appActivity", .str (text "com.darkmed.app.MainActivity")),
      (text "appium:autoGrantPermissions", .bool false),
      (text "appium:noReset", .bool false),
      (text "appium:newCommandTimeout", .int 180)]
    let perfecto := if args.provider = text "perfecto" then [
      (text "perfecto:securityToken", env.getD "PERFECTO_SECURITY_TOKEN" ""),
      (text "perfecto:appiumVersion", env.getD "PERFECTO_APPIUM_VERSION" "latest"),
      (text "perfecto:enableAppiumBehavior", .bool true),
      (text "perfecto:recordVideo", .bool true),
      (text "perfecto:screenshotOnFailure", .bool true)] else []
    let sauce := if args.provider = text "sauce" then [
      (text "sauce:options", Json.dict [
        (text "name", .str (text "Dark Med Universal Appium Suite")),
        (text "build", .str args.buildId),
        (text "appiumVersion", env.getD "SAUCE_APPIUM_VERSION" "latest"),
        (text "recordVideo", .bool true),
        (text "capturePerformance", .bool true)])] else []
    let browserstack := if args.provider = text "browserstack" then [
      (text "bstack:options", Json.dict [
        (text "projectName", .str (text "Dark Med")),
        (text "buildName", .str args.buildId),
        (text "sessionName", .str (text "Universal Appium Suite")),
        (text "video", .bool true),
        (text "debug", .bool true)])] else []
    let kobiton := if args.provider = text "kobiton" then [
      (text "kobiton:sessionName", Json.str (text "Dark Med Universal Appium Suite"))] else []
    .ok (.dict [(text "capabilities", .dict [
      (text "alwaysMatch", .dict (caps ++ perfecto ++ sauce ++ browserstack ++ kobiton)),
      (text "firstMatch", .list [.dict []])])])

/-- `normalized_base(args.server_url)` -/
def Args.base (args : Args) : PyString :=
  args.serverUrl.rdropWhile (· == 0x2F)

/-! ## Answers -/

/-- `unwrap` -/
def unwrap : Json → Json
  | .dict pairs => (lookup (text "value") pairs).getD (.dict pairs)
  | response => response

/-- `v.get(key)` of a dictionary, and `None` of anything else -/
def getIfDict (v : Json) (key : PyString) : Json :=
  match v with
  | .dict pairs => Json.value pairs key
  | _ => .null

/-- `session_id`, which is looked for in the value of the answer and then in the answer. -/
def sessionIdOf (payload : Json) : Json :=
  let sessionId := getIfDict (unwrap payload) (text "sessionId")
  if sessionId.truthy then sessionId
  else
    match payload with
    | .dict pairs => Json.value pairs (text "sessionId")
    | _ => sessionId

/-- `type(v).__name__` -/
def typeName : Json → String
  | .null => "NoneType"
  | .bool _ => "bool"
  | .int _ => "int"
  | .float _ => "float"
  | .str _ => "str"
  | .list _ => "list"
  | .dict _ => "dict"

/-- `s + v` for a string `s` raises a `TypeError` where `v` is none. -/
def asStr : Json → Except Raised PyString
  | .str s => .ok s
  | v => .error (.exception (text "can only concatenate str (not \"" ++ text (typeName v) ++
      text "\") to str"))

/-- `isinstance(v, dict) and bool(v.get("element-…") or v.get("ELEMENT"))` -/
def isElement (v : Json) : Bool :=
  (getIfDict v (text "element-6066-11e4-a52e-4f735466cecf")).truthy ||
    (getIfDict v (text "ELEMENT")).truthy

/-! ## Requests -/

def statusRequest (args : Args) : Request :=
  { url := args.base ++ text "/status" }

def createRequest (args : Args) (capabilities : Json) : Request :=
  { url := args.base ++ text "/session", method := .post, payload := some capabilities
    headers := args.authHeaders }

/-- `session_url` -/
def sessionUrl (args : Args) (id : PyString) : PyString :=
  args.base ++ text "/session/" ++ id

def sessionRequest (args : Args) (id : PyString) (path : String) : Request :=
  { url := sessionUrl args id ++ text path }

def elementRequest (args : Args) (id query : PyString) : Request :=
  { url := sessionUrl args id ++ text "/element", method := .post
    payload := some (.dict [(text "using", .str (text "xpath")), (text "value", .str query)]) }

def closeRequest (args : Args) (id : PyString) : Request :=
  { url := sessionUrl args id, method := .delete }

/-! ## The run -/

/-- The labels of the screens, and the queries for their texts. -/
def elements : List (String × PyString) := [
  ("DASHBOARD", text "//*[contains(@text,'Dashboard') or contains(@content-desc,'Dashboard') or contains(@text,'لوحة') or contains(@content-desc,'لوحة')]"),
  ("SECURITY_CENTER", text "//*[contains(@text,'Security') or contains(@content-desc,'Security') or contains(@text,'الأمان') or contains(@content-desc,'الأمان')]"),
  ("SETTINGS", text "//*[contains(@text,'Settings') or contains(@content-desc,'Settings') or contains(@text,'الإعدادات') or contains(@content-desc,'الإعدادات')]")]

/-- A screenshot is written if it is a string, and has come with status 200. -/
def keepScreenshot (statusCode : Int) : Json → Suite Unit
  | .str value =>
    if statusCode = 200 then do
      saveScreenshot value
      modify fun result => { result with artifacts := result.artifacts ++ ["screenshot.png"] }
    else pure ()
  | _ => pure ()

def photograph (args : Args) (id : PyString) : Suite Unit := do
  let (statusCode, screenshot) ← requestJson (sessionRequest args id "/screenshot")
  keepScreenshot statusCode (unwrap screenshot)
  addTest { id := "SCREENSHOT", status := passIf (statusCode = 200), httpStatus := some statusCode }

/-- One screen after another. -/
def findElements (args : Args) (id : PyString) : List (String × PyString) → Suite Unit
  | [] => pure ()
  | (label, query) :: rest => do
    let (statusCode, element) ←
      collect (elementRequest args id query) ("element_" ++ label.toLower ++ ".json")
    addTest {
      id := "UI_" ++ label, status := passIf (statusCode = 200 && isElement (unwrap element))
      httpStatus := some statusCode, query := some query }
    findElements args id rest

/-- `result["capabilities_returned"]`, where the details are a dictionary. -/
def keepCapabilities (details : Json) (result : Result) : Result :=
  match unwrap details with
  | .dict pairs => { result with capabilitiesReturned := some (.dict pairs) }
  | _ => result

/-- What is done with the session before it is closed. -/
def inspect (args : Args) (id : PyString) : Suite Unit := do
  let (statusCode, details) ← collect (sessionRequest args id "") "session_details.json"
  modify (keepCapabilities details)
  addTest { id := "SESSION_CREATE", status := .pass, httpStatus := some statusCode }
  let (statusCode, _) ← collect (sessionRequest args id "/window/size") "window_size.json"
  addTest { id := "WINDOW_SIZE", status := passIf (statusCode = 200), httpStatus := some statusCode }
  let (statusCode, _) ← collect (sessionRequest args id "/source") "page_source.json"
  addTest { id := "PAGE_SOURCE", status := passIf (statusCode = 200), httpStatus := some statusCode }
  photograph args id
  findElements args id elements

/-- The session, from its identifier to its end. -/
def examine (args : Args) (sessionId : Json) : Suite Unit := do
  modify fun result => { result with sessionId := some sessionId }
  let id ← liftResult (asStr sessionId)
  inspect args id
  let _ ← requestJson (closeRequest args id)
  addTest { id := "SESSION_CLOSE", status := .pass }
  modify fun result =>
    { result with status := passIf (result.tests.all fun test => test.status = .pass) }

/-- `save_json(output / "result.json", result)` and `return 1`, behind a failure that is known. -/
def failEarly (blocker : String) (tests : List Test) : Suite (Option Int) := do
  modify fun result =>
    { result with
      status := .fail, blocker := some (text blocker), tests := result.tests ++ tests }
  saveResult
  return some 1

/-- The `try` block behind the status of the server. -/
def openSession (env : Environment) (args : Args) : Suite (Option Int) := do
  let capabilities ← liftResult (buildCapabilities env args)
  let (statusCode, payload) ← collect (createRequest args capabilities) "session_create.json"
  if (sessionIdOf payload).truthy then
    examine args (sessionIdOf payload)
    return none
  else
    failEarly "Appium session was not created"
      [{ id := "SESSION_CREATE", status := .fail, httpStatus := some statusCode }]

/-- The `try` block; it may return by itself. -/
def attemptRun (env : Environment) (args : Args) : Suite (Option Int) := do
  let (statusCode, _) ← collect (statusRequest args) "server_status.json"
  addTest {
    id := "APPIUM_SERVER_STATUS", status := passIf (statusCode = 200)
    httpStatus := some statusCode }
  if statusCode ≠ 200 then
    failEarly "Appium server status did not return HTTP 200" []
  else
    openSession env args

/-- The `except` blocks. -/
def handle : Raised → Suite (Option Int)
  | .httpError code => do
    modify fun result =>
      { result with
        status := .fail
        blocker := some (text "HTTP " ++ text (toString code) ++ text " from Appium endpoint") }
    let body : Except PyString PyString ← ask Call.readError
    match body with
    | .error message => throw (.exception message)
    | .ok body =>
      modify fun result => { result with error := some (body.take 2000) }
      return none
  | .exception message => do
    modify fun result => { result with status := .fail, blocker := some message }
    return none

def initial (env : Environment) (args : Args) : Result :=
  { provider := args.provider, deviceName := args.deviceName
    platformVersion := args.platformVersion, startedAt := env.started
    apkSha256 := args.apkSha256 }

/-- The last lines of `run`. -/
def finish (env : Environment) : Suite Int := do
  modify fun result => { result with finishedAt := some env.finished }
  saveResult
  let result ← get
  return if result.status = .pass then 0 else 1

/-- What stands behind the `try` statement, for the case that it has not returned. -/
def conclude (env : Environment) : Option Int → Suite Int
  | some code => return code
  | none => finish env

/-- `run`, which begins with the result `initial`. -/
def run (env : Environment) (args : Args) : Suite Int := do
  makeDirectory
  if args.serverUrl = [] then
    modify fun result =>
      { result with status := .blocked, blocker := some (text "APPIUM_SERVER_URL is missing") }
    saveResult
    return 20
  else
    let early ← tryCatch (attemptRun env args) handle
    conclude env early

end DarkMed.Engineering.AppiumSuite
