import DarkMed.Lib.Python

/-!
# The Cost Guard

`tools/cost_guard.py` and `tools/verify_cost_approval.py`: the guard reads a plan for a paid
cloud run and writes whether it may start; the verifier reads what was written, before the
run starts, for one provider.  Both take any JSON value there is, and both may raise.

What reading a file gives is the value that `json.loads` returns, or the exception.
-/

namespace DarkMed.Engineering.CostGuard

open DarkMed.Lib.Python

/-- A file as `json.loads(path.read_text())` sees it. -/
abbrev File := Except PyError Json

/-! ## The guard -/

/-- `REQUIRED` -/
def required : List PyString :=
  [text "provider", text "device", text "estimated_duration_minutes", text "estimated_cost",
    text "quota", text "runs"]

/-- The fields in which the guard looks for placeholders. -/
def free : List PyString :=
  [text "provider", text "device", text "estimated_cost", text "quota"]

/-- The six results of the guard. -/
inductive Result where
  | missingFields (missing : List PyString)
  | runsNotPositive
  | durationNotPositive
  | placeholders (fields : List PyString)
  | waiting (plan : Json)
  | approved (plan : Json)

/-- `result`, as it is written. -/
def Result.json : Result → Json
  | .missingFields missing =>
    .dict [(text "status", .str (text "BLOCKED")),
      (text "reason", .str (text "missing_cost_plan_fields")),
      (text "missing", .list (missing.map .str))]
  | .runsNotPositive =>
    .dict [(text "status", .str (text "BLOCKED")),
      (text "reason", .str (text "runs_must_be_positive"))]
  | .durationNotPositive =>
    .dict [(text "status", .str (text "BLOCKED")),
      (text "reason", .str (text "estimated_duration_must_be_positive"))]
  | .placeholders fields =>
    .dict [(text "status", .str (text "BLOCKED")),
      (text "reason", .str (text "placeholder_cost_plan_values")),
      (text "fields", .list (fields.map .str))]
  | .waiting plan =>
    .dict [(text "status", .str (text "WAITING_FOR_COST_APPROVAL")),
      (text "reason", .str (text "human_cost_approval_required")), (text "plan", plan)]
  | .approved plan =>
    .dict [(text "status", .str (text "APPROVED")), (text "plan", plan),
      (text "reason", .str (text "cost_plan_explicitly_approved"))]

/-- What `main` returns with the result. -/
def Result.exitCode : Result → Nat
  | .approved _ => 0
  | _ => 20

/-- `key not in plan or plan[key] in (None, "", [])` -/
def absent (plan : Json) (key : PyString) : Except PyError Bool := do
  if !(← plan.contains key) then return true
  else return (← plan.getItem key).isNoneOrEmpty

/-- `[key for key in keys if key not in plan or plan[key] in (None, "", [])]` -/
def missing (plan : Json) : List PyString → Except PyError (List PyString)
  | [] => return []
  | key :: keys => do
    let isAbsent ← absent plan key
    let rest ← missing plan keys
    return if isAbsent then key :: rest else rest

/-- `str(v).startswith("REPLACE_") or str(v).startswith("PENDING_")` -/
def isPlaceholder (v : Json) : Bool :=
  v.textStartsWith (text "REPLACE_") || v.textStartsWith (text "PENDING_")

/-- `[key for key in keys if str(plan[key])…]` -/
def placeholders (plan : Json) : List PyString → Except PyError (List PyString)
  | [] => return []
  | key :: keys => do
    let v ← plan.getItem key
    let rest ← placeholders plan keys
    return if isPlaceholder v then key :: rest else rest

/-- The result for a plan. -/
def guard (plan : Json) : Except PyError Result := do
  let missing ← missing plan required
  if missing ≠ [] then return .missingFields missing
  else
    let runs ← plan.getItem (text "runs")
    if ← runs.lt 1 then return .runsNotPositive
    else
      let duration ← plan.getItem (text "estimated_duration_minutes")
      if !duration.isNumber then return .durationNotPositive
      else if ← duration.le 0 then return .durationNotPositive
      else
        let placeholders ← placeholders plan free
        if placeholders ≠ [] then return .placeholders placeholders
        else
          let approval ← plan.get (text "approval")
          if !approval.isStr (text "APPROVED") then return .waiting plan
          else return .approved plan

/-! ## The verifier -/

/-- The fields that the verifier asks for. -/
def verified : List PyString :=
  [text "device", text "estimated_duration_minutes", text "estimated_cost", text "quota",
    text "runs"]

/-- `not plan.get(key₁) or not plan.get(key₂) or …` -/
def anyFalse (plan : Json) : List PyString → Except PyError Bool
  | [] => return false
  | key :: keys => do
    if !(← plan.get key).truthy then return true
    else anyFalse plan keys

/-- `main` of the verifier behind the reading of the file: the exit code. -/
def verify (payload : Json) (provider : PyString) : Except PyError Nat := do
  let status ← payload.get (text "status")
  if !status.isStr (text "APPROVED") then return 20
  else
    let plan ← payload.get (text "plan")
    -- payload.get("plan") or {}
    let plan := if plan.truthy then plan else .dict []
    let planProvider ← plan.get (text "provider")
    if !planProvider.isStr provider then return 20
    else if ← anyFalse plan verified then return 20
    else return 0

/-- `main` of the verifier; `none` stands for a path that is no file. -/
def verifyFile (file : Option File) (provider : PyString) : Except PyError Nat :=
  match file with
  | none => return 20
  | some (.error .osError) | some (.error .jsonDecodeError) => return 20
  | some (.error e) => throw e
  | some (.ok payload) => verify payload provider

/-! ## What the guard finds -/

section Guard

variable {pairs : List (PyString × Json)}

/-- A field is missing if it is not there, or is there with nothing in it. -/
theorem absent_dict (key : PyString) :
    absent (.dict pairs) key = .ok (Json.value pairs key).isNoneOrEmpty := by
  unfold absent
  rw [Json.contains_dict]
  cases hlookup : lookup key pairs with
  -- `get` gives `None`
  | none =>
    simp [Json.value, hlookup, Json.isNoneOrEmpty, bind, Except.bind, pure, Except.pure]
  | some v =>
    simp [Json.value, Json.getItem, hlookup, bind, Except.bind, pure, Except.pure]

/-- The fields that are reported are those that are missing. -/
theorem missing_dict (keys : List PyString) :
    missing (.dict pairs) keys = .ok (keys.filter fun key => (Json.value pairs key).isNoneOrEmpty) := by
  induction keys with
  | nil => rfl
  | cons key keys ih =>
    rw [missing, absent_dict, ih]
    simp [bind, Except.bind, pure, Except.pure, List.filter_cons]

/-- Fields that are there can be compared with placeholders. -/
theorem placeholders_dict {keys : List PyString}
    (h : ∀ key ∈ keys, (Json.value pairs key).isNoneOrEmpty = false) :
    placeholders (.dict pairs) keys =
      .ok (keys.filter fun key => isPlaceholder (Json.value pairs key)) := by
  induction keys with
  | nil => rfl
  | cons key keys ih =>
    rw [List.forall_mem_cons] at h
    rw [placeholders, Json.getItem_dict h.1, ih h.2]
    simp [bind, Except.bind, pure, Except.pure, List.filter_cons]

/-- Every required field is there, and is not `None`, `""` or `[]`. -/
def Filled (pairs : List (PyString × Json)) : Prop :=
  ∀ key ∈ required, (Json.value pairs key).isNoneOrEmpty = false

/-- Nothing is missing exactly if all fields are filled. -/
theorem filter_required_eq_nil_iff :
    (required.filter fun key => (Json.value pairs key).isNoneOrEmpty) = [] ↔ Filled pairs := by
  simp [List.filter_eq_nil_iff, Filled]

/-- A plan that the guard approves. -/
structure Approvable (pairs : List (PyString × Json)) : Prop where
  filled : Filled pairs
  runs : (Json.value pairs (text "runs")).lt 1 = .ok false
  numeric : (Json.value pairs (text "estimated_duration_minutes")).isNumber = true
  duration : (Json.value pairs (text "estimated_duration_minutes")).le 0 = .ok false
  noPlaceholder : ∀ key ∈ free, isPlaceholder (Json.value pairs key) = false
  approval : Json.value pairs (text "approval") = .str (text "APPROVED")

/-- What is missing is reported before anything else is looked at. -/
theorem guard_of_not_filled (h : ¬ Filled pairs) :
    ∃ missing, guard (.dict pairs) = .ok (.missingFields missing) := by
  have hmissing := mt filter_required_eq_nil_iff.mp h
  simp only [guard, missing_dict, bind, Except.bind, ne_eq, hmissing, not_false_eq_true, if_true]
  exact ⟨_, rfl⟩

/-- The guard on a plan with all its fields, up to the placeholders. -/
theorem guard_of_filled (h : Filled pairs) :
    guard (.dict pairs) = (do
      if ← (Json.value pairs (text "runs")).lt 1 then return .runsNotPositive
      else if !(Json.value pairs (text "estimated_duration_minutes")).isNumber then
        return .durationNotPositive
      else if ← (Json.value pairs (text "estimated_duration_minutes")).le 0 then
        return .durationNotPositive
      else if (free.filter fun key => isPlaceholder (Json.value pairs key)) ≠ [] then
        return .placeholders (free.filter fun key => isPlaceholder (Json.value pairs key))
      else if !(Json.value pairs (text "approval")).isStr (text "APPROVED") then
        return .waiting (.dict pairs)
      else return .approved (.dict pairs)) := by
  have hmissing := filter_required_eq_nil_iff.mpr h
  -- no subscript raises, as the fields are there
  have hruns := Json.getItem_dict (h (text "runs") (by decide))
  have hduration := Json.getItem_dict (h (text "estimated_duration_minutes") (by decide))
  have hfree : ∀ key ∈ free, (Json.value pairs key).isNoneOrEmpty = false :=
    fun key hkey => h key (by revert key; decide)
  simp only [guard, missing_dict, hmissing, hruns, hduration, placeholders_dict hfree,
    Json.get_dict, bind, Except.bind, ne_eq, not_true_eq_false, if_false]

end Guard

end DarkMed.Engineering.CostGuard
