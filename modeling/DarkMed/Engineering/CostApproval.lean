import DarkMed.Engineering.CostGuard

/-!
# Cost Approvals

Two questions about the guard and its verifier: whether they approve the same plans, and
whether an approval that is found in the output is one of the plan that was processed last.

They do not approve the same plans.  The guard's fields are there when they are not `None`,
`""` or `[]`, the verifier's when they are true values; the guard alone looks at numbers,
placeholders and the human approval.  And the guard writes at the end of its branches only,
so a plan that makes it raise leaves an older approval in place.
-/

namespace DarkMed.Engineering.CostGuard

open DarkMed.Lib.Python

/-! ## When the guard approves, and when it raises -/

section Plans

variable {pairs : List (PyString × Json)}

/-- The guard approves what the conditions let through. -/
theorem guard_of_approvable (h : Approvable pairs) :
    guard (.dict pairs) = .ok (.approved (.dict pairs)) := by
  have hfree : (free.filter fun key => isPlaceholder (Json.value pairs key)) = [] := by
    simpa [List.filter_eq_nil_iff] using h.noPlaceholder
  rw [guard_of_filled h.filled, h.runs, h.numeric, h.duration, hfree, h.approval]
  simp [Json.isStr, bind, Except.bind, pure, Except.pure]

/-- What the guard has approved meets all conditions. -/
theorem approvable_of_guard {plan : Json} (h : guard (.dict pairs) = .ok (.approved plan)) :
    Approvable pairs := by
  by_cases hfilled : Filled pairs
  · rw [guard_of_filled hfilled] at h
    -- one branch of the guard after the other falls away
    obtain ⟨low, hruns, h⟩ := exists_of_bind_eq_ok h
    cases low with
    | true => cases h
    | false =>
      rw [if_neg Bool.false_ne_true] at h
      split at h
      · cases h
      next hnumeric =>
        obtain ⟨low, hduration, h⟩ := exists_of_bind_eq_ok h
        cases low with
        | true => cases h
        | false =>
          rw [if_neg Bool.false_ne_true] at h
          split at h
          · cases h
          next hfree =>
            split at h
            · cases h
            next happroval =>
              refine ⟨hfilled, hruns, by simpa using hnumeric, hduration, ?_, ?_⟩
              · simpa [List.filter_eq_nil_iff] using hfree
              · simpa using happroval
  · obtain ⟨missing, hmissing⟩ := guard_of_not_filled hfilled
    rw [hmissing] at h
    cases h

/-- A required field in a list, or in a string, makes the guard take the plan for a
    dictionary. -/
theorem missing_of_absent {plan : Json} {keys : List PyString}
    (h : ∀ key ∈ keys, absent plan key = .ok true) : missing plan keys = .ok keys := by
  induction keys with
  | nil => rfl
  | cons key keys ih =>
    rw [List.forall_mem_cons] at h
    rw [missing, h.1, ih h.2]
    rfl

/-- Where one field raises, the list of missing fields does. -/
theorem missing_of_error {plan : Json} {keys : List PyString} {key : PyString} {e : PyError}
    (hkey : key ∈ keys) (h : absent plan key = .error e) :
    ∃ e', missing plan keys = .error e' := by
  induction keys with
  | nil => cases hkey
  | cons k keys ih =>
    rw [missing]
    cases hfirst : absent plan k with
    | error e' => exact ⟨e', rfl⟩
    | ok isAbsent =>
      -- the first field does not raise, so the key stands behind it
      obtain rfl | hkey := List.mem_cons.mp hkey
      · rw [h] at hfirst
        cases hfirst
      · obtain ⟨e', he'⟩ := ih hkey
        rw [he']
        exact ⟨e', rfl⟩

/-- The plans that make the guard raise: those that are neither a dictionary nor a list nor a
    string, lists and strings with a required field in them, and filled dictionaries whose
    `runs` is no number. -/
def Raises : Json → Prop
  | .dict pairs => Filled pairs ∧ (Json.value pairs (text "runs")).isNumber = false
  | .list items => ∃ key ∈ required, items.any (·.isStr key) = true
  | .str s => ∃ key ∈ required, key <:+: s
  | _ => True

/-- A plan whose fields can be asked for, but not read. -/
theorem guard_of_contains {plan : Json} {has : PyString → Prop} [DecidablePred has]
    (habsent : ∀ key, absent plan key = if has key then .error .typeError else .ok true) :
    (∃ e, guard plan = .error e) ∧ (∃ key ∈ required, has key) ∨
      guard plan = .ok (.missingFields required) ∧ ¬ ∃ key ∈ required, has key := by
  by_cases hsome : ∃ key ∈ required, has key
  · obtain ⟨key, hkey, hhas⟩ := hsome
    obtain ⟨e, he⟩ := missing_of_error hkey ((habsent key).trans (if_pos hhas))
    refine .inl ⟨⟨e, ?_⟩, key, hkey, hhas⟩
    rw [guard, he]
    rfl
  · have hall : missing plan required = .ok required := by
      apply missing_of_absent
      intro key hkey
      rw [habsent, if_neg fun hhas => hsome ⟨key, hkey, hhas⟩]
    refine .inr ⟨?_, hsome⟩
    rw [guard, hall]
    rfl

/-- A list has items and no fields: an item of that name raises at the subscript. -/
theorem absent_list (items : List Json) (key : PyString) :
    absent (.list items) key =
      if items.any (·.isStr key) = true then .error .typeError else .ok true := by
  cases h : items.any (·.isStr key) <;>
    simp [absent, Json.contains, Json.getItem, h, bind, Except.bind, pure, Except.pure, throw,
      throwThe, MonadExceptOf.throw]

/-- So does a text that has the name in it. -/
theorem absent_str (s : PyString) (key : PyString) :
    absent (.str s) key = if key <:+: s then .error .typeError else .ok true := by
  by_cases h : key <:+: s <;>
    simp [absent, Json.contains, Json.getItem, h, bind, Except.bind, pure, Except.pure, throw,
      throwThe, MonadExceptOf.throw]

/-- A plan that is no dictionary raises, or has no field at all. -/
theorem guard_of_not_dict {plan : Json} (h : ¬ ∃ pairs, plan = .dict pairs) :
    (∃ e, guard plan = .error e) ∧ Raises plan ∨
      guard plan = .ok (.missingFields required) ∧ ¬ Raises plan := by
  cases plan with
  | dict pairs => exact absurd ⟨pairs, rfl⟩ h
  | list items => exact guard_of_contains (absent_list items)
  | str s => exact guard_of_contains (absent_str s)
  -- nothing can be asked of the others
  | null => exact .inl ⟨⟨.typeError, rfl⟩, trivial⟩
  | bool b => exact .inl ⟨⟨.typeError, rfl⟩, trivial⟩
  | int n => exact .inl ⟨⟨.typeError, rfl⟩, trivial⟩
  | float x => exact .inl ⟨⟨.typeError, rfl⟩, trivial⟩

/-- With a dictionary, only the comparison of `runs` can raise. -/
theorem guard_dict_error_iff : (∃ e, guard (.dict pairs) = .error e) ↔ Raises (.dict pairs) := by
  show _ ↔ Filled pairs ∧ _
  by_cases hfilled : Filled pairs
  · rw [guard_of_filled hfilled]
    cases hruns : (Json.value pairs (text "runs")).lt 1 with
    -- the number of runs is no number
    | error e => exact iff_of_true ⟨e, rfl⟩ ⟨hfilled, (Json.lt_eq_error_iff.mp hruns).1⟩
    | ok low =>
      have hnumber : (Json.value pairs (text "runs")).isNumber ≠ false := fun hnumber =>
        absurd (hruns.symm.trans (Json.lt_eq_error_iff.mpr ⟨hnumber, rfl⟩)) nofun
      refine iff_of_false ?_ fun h => hnumber h.2
      -- behind the first comparison nothing raises: the second one is made on numbers only
      rintro ⟨e, he⟩
      cases hduration : (Json.value pairs (text "estimated_duration_minutes")).le 0 with
      | error e' =>
        have hnumeric := (Json.le_eq_error_iff.mp hduration).1
        cases low <;> simp [hnumeric, bind, Except.bind, pure, Except.pure] at he
      | ok low' =>
        simp only [bind, Except.bind, hduration] at he
        repeat' split at he
        all_goals cases he
  · obtain ⟨missing, hmissing⟩ := guard_of_not_filled hfilled
    rw [hmissing]
    exact iff_of_false (fun h => nomatch h) fun h => hfilled h.1

/-- **The guard raises exactly on these plans**, and with a dictionary that it approves it does
    not. -/
theorem guard_error_iff (plan : Json) : (∃ e, guard plan = .error e) ↔ Raises plan := by
  by_cases hdict : ∃ pairs, plan = .dict pairs
  · obtain ⟨pairs, rfl⟩ := hdict
    exact guard_dict_error_iff
  · obtain ⟨herror, hraises⟩ | ⟨hok, hraises⟩ := guard_of_not_dict hdict
    · exact iff_of_true herror hraises
    · exact iff_of_false (fun h => by rw [hok] at h; exact nomatch h) hraises

/-- **The guard approves exactly the approvable dictionaries.** -/
theorem guard_eq_approved_iff {plan plan' : Json} :
    guard plan = .ok (.approved plan') ↔
      ∃ pairs, plan = .dict pairs ∧ plan' = .dict pairs ∧ Approvable pairs := by
  constructor
  · intro h
    by_cases hdict : ∃ pairs, plan = .dict pairs
    · obtain ⟨pairs, rfl⟩ := hdict
      have happrovable := approvable_of_guard h
      rw [guard_of_approvable happrovable] at h
      cases h
      exact ⟨pairs, rfl, rfl, happrovable⟩
    · obtain ⟨⟨e, he⟩, -⟩ | ⟨hok, -⟩ := guard_of_not_dict hdict
      · exact absurd (he.symm.trans h) nofun
      · exact absurd (hok.symm.trans h) nofun
  · rintro ⟨pairs, rfl, rfl, h⟩
    exact guard_of_approvable h

end Plans

/-! ## What the verifier accepts -/

/-- The verifier's fields are true values. -/
def Complete (pairs : List (PyString × Json)) : Prop :=
  ∀ key ∈ verified, (Json.value pairs key).truthy = true

/-- The verifier takes the truth of each field. -/
theorem anyFalse_dict (pairs : List (PyString × Json)) (keys : List PyString) :
    anyFalse (.dict pairs) keys = .ok (keys.any fun key => !(Json.value pairs key).truthy) := by
  induction keys with
  | nil => rfl
  | cons key keys ih =>
    rw [anyFalse, Json.get_dict, ih]
    cases h : (Json.value pairs key).truthy <;>
      simp [h, bind, Except.bind, pure, Except.pure]

/-- The file names the plan for the provider, as approved. -/
def Offers (file : List (PyString × Json)) (provider : PyString) (plan : List (PyString × Json)) :
    Prop :=
  Json.value file (text "status") = .str (text "APPROVED") ∧
    Json.value file (text "plan") = .dict plan ∧
    Json.value plan (text "provider") = .str provider

/-- `payload.get("plan") or {}` is the plan, for a plan that is a dictionary. -/
theorem or_empty_dict (plan : List (PyString × Json)) :
    (if (Json.dict plan).truthy then Json.dict plan else .dict []) = .dict plan := by
  cases plan <;> rfl

/-- Asked for a field, any other plan raises, or is taken for `{}`. -/
theorem get_or_empty {v : Json} (h : ∀ plan, v ≠ .dict plan) (key : PyString) :
    (if v.truthy then v else .dict []).get key = .error .attributeError ∨
      (if v.truthy then v else .dict []).get key = .ok .null := by
  by_cases htruthy : v.truthy = true
  · rw [if_pos htruthy]
    cases v with
    | dict plan => exact absurd rfl (h plan)
    | _ => exact .inl rfl
  · rw [if_neg htruthy]
    exact .inr rfl

/-- **The verifier accepts exactly** the approved files with a complete plan for the provider. -/
theorem verify_eq_zero_iff {file : List (PyString × Json)} {provider : PyString} :
    verify (.dict file) provider = .ok 0 ↔ ∃ plan, Offers file provider plan ∧ Complete plan := by
  have hget := Json.get_dict file
  constructor
  · intro h
    -- the three tests of the verifier, each of which returns 1
    simp only [verify, hget, bind, Except.bind] at h
    split at h
    · cases h
    next hstatus =>
      have hstatus : Json.value file (text "status") = .str (text "APPROVED") := by
        simpa using hstatus
      by_cases hplan : ∃ plan, Json.value file (text "plan") = .dict plan
      · obtain ⟨plan, hplan⟩ := hplan
        simp only [hplan, or_empty_dict, Json.get_dict, anyFalse_dict] at h
        split at h
        · cases h
        next hprovider =>
          split at h
          · cases h
          next hcomplete =>
            refine ⟨plan, ⟨hstatus, hplan, by simpa using hprovider⟩, ?_⟩
            simpa [Complete] using hcomplete
      · have hother : ∀ plan, Json.value file (text "plan") ≠ .dict plan :=
          fun plan hdict => hplan ⟨plan, hdict⟩
        -- a plan that is no dictionary raises, or stands for `{}`
        obtain hraises | hnull := get_or_empty hother (text "provider")
        · rw [hraises] at h
          cases h
        · -- `{}` has no provider
          rw [hnull] at h
          cases h
  · rintro ⟨plan, ⟨hstatus, hplan, hprovider⟩, hcomplete⟩
    have hany : (verified.any fun key => !(Json.value plan key).truthy) = false := by
      simpa [Complete] using hcomplete
    simp only [verify, hget, hstatus, hplan, or_empty_dict, Json.get_dict, hprovider,
      anyFalse_dict, hany, bind, Except.bind]
    simp [Json.isStr, pure, Except.pure]

/-! ## Where the two disagree -/

/-- The two of them agree on the file, for the provider. -/
def Agree (file : List (PyString × Json)) (provider : PyString) : Prop :=
  verify (.dict file) provider = .ok 0 ↔
    Json.value file (text "status") = .str (text "APPROVED") ∧
      (∃ plan, guard (Json.value file (text "plan")) = .ok (.approved plan)) ∧
      ∃ plan, Json.value file (text "plan") = .dict plan ∧
        Json.value plan (text "provider") = .str provider

/-- What the guard refuses in a plan, and the verifier does not look at. -/
def Unchecked (plan : List (PyString × Json)) : Prop :=
  Json.value plan (text "provider") = .str [] ∨
    (Json.value plan (text "runs")).lt 1 ≠ .ok false ∨
    (Json.value plan (text "estimated_duration_minutes")).isNumber = false ∨
    (Json.value plan (text "estimated_duration_minutes")).le 0 = .ok true ∨
    (∃ key ∈ free, isPlaceholder (Json.value plan key) = true) ∨
    Json.value plan (text "approval") ≠ .str (text "APPROVED")

/-- A false value that is there: `0`, `0.0`, `False` or `{}`. -/
def Zero (v : Json) : Prop :=
  v.truthy = false ∧ v.isNoneOrEmpty = false

/-- A complete plan for the provider that the guard refuses. -/
def TooLax (file : List (PyString × Json)) (provider : PyString) : Prop :=
  ∃ plan, Offers file provider plan ∧ Complete plan ∧ Unchecked plan

/-- A plan for the provider that the guard approves with a device, a cost or a quota of zero. -/
def TooStrict (file : List (PyString × Json)) (provider : PyString) : Prop :=
  ∃ plan, Offers file provider plan ∧ Approvable plan ∧
    ∃ key ∈ [text "device", text "estimated_cost", text "quota"], Zero (Json.value plan key)

/-- What the guard approves is complete for the verifier unless a field is a zero. -/
theorem complete_iff {plan : List (PyString × Json)} (h : Approvable plan) :
    Complete plan ↔
      ∀ key ∈ [text "device", text "estimated_cost", text "quota"], ¬ Zero (Json.value plan key) := by
  constructor
  · intro hcomplete key hkey hzero
    have hverified : ∀ key ∈ [text "device", text "estimated_cost", text "quota"],
        key ∈ verified := by decide
    have htruthy := hcomplete key (hverified key hkey)
    exact absurd (htruthy.symm.trans hzero.1) nofun
  · intro hzero key hkey
    have hkeys : key = text "runs" ∨ key = text "estimated_duration_minutes" ∨
        key ∈ [text "device", text "estimated_cost", text "quota"] ∧ key ∈ required := by
      revert key
      decide
    obtain rfl | rfl | ⟨hthree, hrequired⟩ := hkeys
    · exact Json.truthy_of_lt_one h.runs
    · exact Json.truthy_of_le_zero h.duration
    -- a field that is there and false is a zero
    · have hthere := h.filled key hrequired
      by_contra hfalse
      exact hzero key hthree ⟨by simpa using hfalse, hthere⟩

/-- What is complete for the verifier is approved unless the guard's own checks fail. -/
theorem approvable_iff {plan : List (PyString × Json)} {provider : PyString}
    (hprovider : Json.value plan (text "provider") = .str provider) (hcomplete : Complete plan) :
    Approvable plan ↔ ¬ Unchecked plan := by
  constructor
  · rintro h (hempty | hruns | hnumeric | hduration | ⟨key, hkey, hplaceholder⟩ | happroval)
    · have hthere := h.filled (text "provider") (by decide)
      rw [hempty] at hthere
      cases hthere
    · exact hruns h.runs
    · exact absurd (hnumeric.symm.trans h.numeric) nofun
    · exact absurd (hduration.symm.trans h.duration) nofun
    · exact absurd (hplaceholder.symm.trans (h.noPlaceholder key hkey)) nofun
    · exact happroval h.approval
  · intro h
    simp only [Unchecked, not_or, not_not, not_exists, not_and] at h
    obtain ⟨hempty, hruns, hnumeric, hduration, hplaceholder, happroval⟩ := h
    have hnumber : (Json.value plan (text "estimated_duration_minutes")).isNumber = true := by
      simpa using hnumeric
    refine ⟨fun key hkey => ?_, hruns, hnumber, ?_, fun key hkey => by simpa using hplaceholder key hkey,
      happroval⟩
    · have hkeys : key = text "provider" ∨ key ∈ verified := by
        revert key
        decide
      obtain rfl | hverified := hkeys
      · rw [hprovider] at hempty ⊢
        simpa [Json.isNoneOrEmpty] using hempty
      · exact Json.isNoneOrEmpty_of_truthy (hcomplete key hverified)
    · -- a number can be compared, and the comparison has not come out true
      cases hcompare : (Json.value plan (text "estimated_duration_minutes")).le 0 with
      | error e => exact absurd ((Json.le_eq_error_iff.mp hcompare).1.symm.trans hnumber) nofun
      | ok low =>
        cases low with
        | true => exact absurd hcompare hduration
        | false => rfl

/-- **Guard and verifier agree exactly** on the files that are neither of the two. -/
theorem guard_verifier_agree_iff (file : List (PyString × Json)) (provider : PyString) :
    Agree file provider ↔ ¬ TooLax file provider ∧ ¬ TooStrict file provider := by
  -- the guard's side of the file is an offer with a plan that can be approved
  have hguard : (Json.value file (text "status") = .str (text "APPROVED") ∧
      (∃ plan, guard (Json.value file (text "plan")) = .ok (.approved plan)) ∧
      ∃ plan, Json.value file (text "plan") = .dict plan ∧
        Json.value plan (text "provider") = .str provider) ↔
      ∃ plan, Offers file provider plan ∧ Approvable plan := by
    constructor
    · rintro ⟨hstatus, ⟨plan', happroved⟩, plan, hplan, hprovider⟩
      rw [hplan] at happroved
      exact ⟨plan, ⟨hstatus, hplan, hprovider⟩, approvable_of_guard happroved⟩
    · rintro ⟨plan, ⟨hstatus, hplan, hprovider⟩, happrovable⟩
      refine ⟨hstatus, ⟨.dict plan, ?_⟩, plan, hplan, hprovider⟩
      rw [hplan]
      exact guard_of_approvable happrovable
  rw [Agree, hguard, verify_eq_zero_iff]
  -- the file offers one plan at most
  have hunique : ∀ plan plan', Offers file provider plan → Offers file provider plan' →
      plan = plan' := fun plan plan' h h' => Json.dict.inj (h.2.1.symm.trans h'.2.1)
  constructor
  · intro hagree
    constructor
    · rintro ⟨plan, hoffers, hcomplete, hunchecked⟩
      obtain ⟨plan', hoffers', happrovable⟩ := hagree.mp ⟨plan, hoffers, hcomplete⟩
      obtain rfl := hunique plan plan' hoffers hoffers'
      exact (approvable_iff hoffers.2.2 hcomplete).mp happrovable hunchecked
    · rintro ⟨plan, hoffers, happrovable, key, hkey, hzero⟩
      obtain ⟨plan', hoffers', hcomplete⟩ := hagree.mpr ⟨plan, hoffers, happrovable⟩
      obtain rfl := hunique plan plan' hoffers hoffers'
      exact (complete_iff happrovable).mp hcomplete key hkey hzero
  · rintro ⟨hlax, hstrict⟩
    constructor
    · rintro ⟨plan, hoffers, hcomplete⟩
      refine ⟨plan, hoffers, (approvable_iff hoffers.2.2 hcomplete).mpr fun hunchecked => ?_⟩
      exact hlax ⟨plan, hoffers, hcomplete, hunchecked⟩
    · rintro ⟨plan, hoffers, happrovable⟩
      refine ⟨plan, hoffers, (complete_iff happrovable).mpr fun key hkey hzero => ?_⟩
      exact hstrict ⟨plan, hoffers, happrovable, key, hkey, hzero⟩

/-- A plan without the human approval: the verifier accepts it, the guard waits. -/
def unapprovedPlan : List (PyString × Json) :=
  [(text "provider", .str (text "Firebase Test Lab")), (text "device", .str (text "catalog-device")),
    (text "estimated_duration_minutes", .int 10), (text "estimated_cost", .str (text "quote")),
    (text "quota", .str (text "quota")), (text "runs", .int 1)]

/-- The verifier accepts a plan that waits for approval. -/
theorem verifier_accepts_unapproved :
    ¬ ∀ (file : List (PyString × Json)) (provider : PyString), Agree file provider := by
  intro h
  have hagree := h [(text "status", .str (text "APPROVED")), (text "plan", .dict unapprovedPlan)]
    (text "Firebase Test Lab")
  obtain ⟨-, ⟨plan, hguard⟩, -⟩ := hagree.mp rfl
  have happrovable : Approvable unapprovedPlan := approvable_of_guard hguard
  exact absurd happrovable.approval nofun

/-! ## One run of the guard -/

/-- How the writing of the output ends.  A text that has been cut off is no JSON. -/
inductive Write where
  | complete
  /-- The file was not opened, and is as it was.  This is also how it ends where `str` or
      `json.dumps` raises before that: with a `RecursionError`, on a plan that is nested too
      deeply. -/
  | refused (e : PyError)
  | truncated (e : PyError)

/-- `main` of the guard: the output it leaves, and the exit code or the exception it ends with.
    The plan may be unreadable, and there need not be an output before. -/
def main (planFile : File) (write : Write) (output : Option File) :
    Option File × Except PyError Nat :=
  match planFile with
  | .error e => (output, .error e)
  | .ok plan =>
    match guard plan with
    | .error e => (output, .error e)
    | .ok result =>
      match write with
      | .complete => (some (.ok result.json), .ok result.exitCode)
      | .refused e => (output, .error e)
      | .truncated e => (some (.error .jsonDecodeError), .error e)

/-- The output has the status APPROVED. -/
def IsApproved (output : Option File) : Prop :=
  ∃ pairs, output = some (.ok (.dict pairs)) ∧
    Json.value pairs (text "status") = .str (text "APPROVED")

/-- The plan passes all of the guard's checks. -/
def Passes (planFile : File) : Prop :=
  ∃ plan plan', planFile = .ok plan ∧ guard plan = .ok (.approved plan')

/-- An approval in the output is one of the plan that was processed. -/
def NoStaleApproval (planFile : File) (write : Write) (output : Option File) : Prop :=
  IsApproved (main planFile write output).1 → Passes planFile

/-- Only one of the six results has the status APPROVED. -/
theorem isApproved_json_iff (result : Result) :
    IsApproved (some (.ok result.json)) ↔ ∃ plan, result = .approved plan := by
  constructor
  · rintro ⟨pairs, hpairs, hstatus⟩
    cases result with
    | approved plan => exact ⟨plan, rfl⟩
    | _ =>
      cases hpairs
      exact absurd (Json.str.inj hstatus) (by decide)
  · rintro ⟨plan, rfl⟩
    exact ⟨_, rfl, rfl⟩

/-- The plans behind which the output is as it was before: unreadable ones, those that make the
    guard raise, and where the output cannot be opened, all that are not approvable. -/
def LeavesOutput (planFile : File) (write : Write) : Prop :=
  match planFile with
  | .error _ => True
  | .ok plan =>
    Raises plan ∨ (∃ e, write = .refused e) ∧ ¬ ∃ pairs, plan = .dict pairs ∧ Approvable pairs

/-- **No stale approval, exactly when** there was no approval before, or the plan does not leave
    the output as it was. -/
theorem no_stale_approval_iff (planFile : File) (write : Write) (output : Option File) :
    NoStaleApproval planFile write output ↔
      (IsApproved output → ¬ LeavesOutput planFile write) := by
  cases planFile with
  | error e =>
    have hpasses : ¬ Passes (.error e) := by rintro ⟨plan, plan', h, -⟩; cases h
    simp [NoStaleApproval, main, LeavesOutput, hpasses]
  | ok plan =>
    have hpasses : Passes (.ok plan) ↔ ∃ pairs, plan = .dict pairs ∧ Approvable pairs := by
      constructor
      · rintro ⟨p, plan', hfile, hguard⟩
        obtain rfl := Except.ok.inj hfile
        obtain ⟨pairs, hplan, -, happrovable⟩ := guard_eq_approved_iff.mp hguard
        exact ⟨pairs, hplan, happrovable⟩
      · rintro ⟨pairs, rfl, happrovable⟩
        exact ⟨_, _, rfl, guard_of_approvable happrovable⟩
    simp only [NoStaleApproval, LeavesOutput, ← hpasses, ← guard_error_iff]
    cases hguard : guard plan with
    | error e =>
      have hnot : ¬ Passes (.ok plan) := by
        rintro ⟨p, plan', hfile, happroved⟩
        obtain rfl := Except.ok.inj hfile
        rw [hguard] at happroved
        cases happroved
      simp [main, hguard, hnot]
    | ok result =>
      -- the guard has a result, so only the writing can fail
      cases write with
      | complete =>
        have hpass : IsApproved (some (.ok result.json)) → Passes (.ok plan) := by
          rw [isApproved_json_iff]
          rintro ⟨plan', rfl⟩
          exact ⟨plan, plan', rfl, hguard⟩
        simpa [main, hguard] using hpass
      -- the output stays as it was
      | refused e => simp [main, hguard]
      -- an output that is cut off is no JSON, so it approves nothing
      | truncated e =>
        have hnot : ¬ IsApproved (some (.error .jsonDecodeError)) := by
          rintro ⟨pairs, h, -⟩
          cases h
        simp [main, hguard, hnot]

/-- The number of runs as a string: the comparison raises, and the approval of an earlier plan
    stays. -/
theorem stale_approval_stays :
    ¬ ∀ (planFile : File) (write : Write) (output : Option File),
      NoStaleApproval planFile write output := by
  intro h
  have hpasses := h (.ok (.dict (unapprovedPlan ++ [(text "runs", .str (text "1"))]))) .complete
    (some (.ok (Result.approved (.dict unapprovedPlan)).json)) ⟨_, rfl, rfl⟩
  obtain ⟨_, plan', hplan, hguard⟩ := hpasses
  cases hplan
  cases hguard

/-- The verifier takes the approval that was left for the provider of the older plan. -/
theorem verifyFile_main_of_leavesOutput {planFile : File} {write : Write} {output : Option File}
    (h : LeavesOutput planFile write) (provider : PyString) :
    verifyFile (main planFile write output).1 provider = verifyFile output provider := by
  cases planFile with
  | error e => rfl
  | ok plan =>
    obtain hraises | ⟨⟨e, rfl⟩, -⟩ := h
    · obtain ⟨e, he⟩ := (guard_error_iff plan).mpr hraises
      simp only [main, he]
    · cases hguard : guard plan <;> simp only [main, hguard]

end DarkMed.Engineering.CostGuard
