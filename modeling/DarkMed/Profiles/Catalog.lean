import DarkMed.Lib.Kotlin
import DarkMed.Lib.Transition

/-!
# The Profile Catalog

`ProfileCatalog` of `ProfileStore.kt`: profiles are created, renamed, duplicated and deleted in
a list.  Names are compared with their case taken away, unit by unit; what that does to a unit
is the platform's table, and nothing below depends on it.
-/

namespace DarkMed.Profiles

open DarkMed.Lib DarkMed.Lib.Transition

structure ConnectionProfile where
  id : JString
  name : JString
  routeVerified : Bool := false
  deriving DecidableEq, Repr

/-- `a.equals(b, ignoreCase = true)`, where `fold` takes a unit to the lower case of its upper
    case. -/
def equalsIgnoreCase (fold : UInt16 → UInt16) (a b : JString) : Bool :=
  a.map fold == b.map fold

namespace ProfileCatalog

def defaultProfiles : List ConnectionProfile :=
  [{ id := ascii "maximum_privacy", name := ascii "Maximum Privacy" },
    { id := ascii "tor", name := ascii "Tor" },
    { id := ascii "wireguard", name := ascii "WireGuard" },
    { id := ascii "custom", name := ascii "Custom" }]

section Catalog

variable (fold : UInt16 → UInt16)

def create (existing : List ConnectionProfile) (name id : JString) :
    Except String (List ConnectionProfile) := do
  let normalized := name.trim
  require (!normalized.isEmpty) "Profile name must not be empty"
  require (!existing.any fun it => equalsIgnoreCase fold it.name normalized)
    "Profile name already exists"
  return existing ++ [{ id, name := normalized }]

def rename (existing : List ConnectionProfile) (id name : JString) :
    Except String (List ConnectionProfile) := do
  let normalized := name.trim
  require (!normalized.isEmpty) "Profile name must not be empty"
  require (existing.any fun it => it.id == id) "Profile does not exist"
  require (!existing.any fun it => it.id != id && equalsIgnoreCase fold it.name normalized)
    "Profile name already exists"
  return existing.map fun it => if it.id == id then { it with name := normalized } else it

/-- The new profile's identifier is what `UUID.randomUUID()` comes up with. -/
def duplicate (existing : List ConnectionProfile) (id name newId : JString) :
    Except String (List ConnectionProfile) := do
  require (existing.any fun it => it.id == id) "Profile does not exist"
  create fold existing name newId

def delete (existing : List ConnectionProfile) (id : JString) :
    Except String (List ConnectionProfile) := do
  require (existing.any fun it => it.id == id) "Profile does not exist"
  return existing.filter fun it => !(it.id == id)

end Catalog

end ProfileCatalog

/-! ## Operations -/

inductive Operation where
  | create (name id : JString)
  | rename (id name : JString)
  | duplicate (id name newId : JString)
  | delete (id : JString)
  deriving DecidableEq, Repr

namespace Operation

section Operations

variable (fold : UInt16 → UInt16)

/-- The list that an operation returns, or the message of its exception. -/
def result (existing : List ConnectionProfile) :
    Operation → Except String (List ConnectionProfile)
  | .create name id => ProfileCatalog.create fold existing name id
  | .rename id name => ProfileCatalog.rename fold existing id name
  | .duplicate id name newId => ProfileCatalog.duplicate fold existing id name newId
  | .delete id => ProfileCatalog.delete existing id

/-- The list behind an operation: one that throws leaves it as it is. -/
def apply (existing : List ConnectionProfile) (op : Operation) : List ConnectionProfile :=
  match op.result fold existing with
  | .ok updated => updated
  | .error _ => existing

/-- The list behind operations on the default profiles. -/
def after (ops : List Operation) : List ConnectionProfile :=
  ops.foldl (apply fold) ProfileCatalog.defaultProfiles

/-! ## What an operation accepts -/

/-- There is a profile of that identifier. -/
def Exists (existing : List ConnectionProfile) (id : JString) : Prop :=
  ∃ it ∈ existing, it.id = id

/-- The name can be given to a new profile. -/
def Free (existing : List ConnectionProfile) (name : JString) : Prop :=
  name.trim ≠ [] ∧ ∀ it ∈ existing, it.name.map fold ≠ name.trim.map fold

/-- The operation does not throw. -/
def Accepts (existing : List ConnectionProfile) : Operation → Prop
  | .create name _ => Free fold existing name
  | .rename id name =>
    name.trim ≠ [] ∧ Exists existing id ∧
      ∀ it ∈ existing, it.id ≠ id → it.name.map fold ≠ name.trim.map fold
  | .duplicate id name _ => Exists existing id ∧ Free fold existing name
  | .delete id => Exists existing id

/-- What an accepted operation makes of the list. -/
def updated (existing : List ConnectionProfile) : Operation → List ConnectionProfile
  | .create name id => existing ++ [{ id, name := name.trim }]
  | .rename id name =>
    existing.map fun it => if it.id == id then { it with name := name.trim } else it
  | .duplicate _ name newId => existing ++ [{ id := newId, name := name.trim }]
  | .delete id => existing.filter fun it => !(it.id == id)

end Operations

/-! ## One operation -/

section Step

variable {fold : UInt16 → UInt16} {existing updated : List ConnectionProfile}

/-- What is returned at the end is the list itself. -/
theorem return_eq_ok_iff {r : List ConnectionProfile} :
    (pure r : Except String (List ConnectionProfile)) = .ok updated ↔ updated = r :=
  ⟨fun h => (Except.ok.inj h).symm, fun h => h ▸ rfl⟩

/-- The identifier is one of the list. -/
theorem any_id_iff {id : JString} :
    (existing.any fun it => it.id == id) = true ↔ Exists existing id := by
  simp [Exists]

/-- `create` takes a name that is free, and trims it. -/
theorem create_eq_ok_iff {name id : JString} :
    ProfileCatalog.create fold existing name id = .ok updated ↔
      Free fold existing name ∧ updated = existing ++ [{ id, name := name.trim }] := by
  rw [ProfileCatalog.create, require_bind_eq_ok_iff, require_bind_eq_ok_iff, ← and_assoc]
  apply and_congr
  · simp [Free, equalsIgnoreCase]
  · exact return_eq_ok_iff

/-- **What an operation does**, when it does not throw. -/
theorem result_eq_ok_iff (op : Operation) :
    op.result fold existing = .ok updated ↔
      op.Accepts fold existing ∧ updated = op.updated existing := by
  cases op with
  | create name id => exact create_eq_ok_iff
  | rename id name =>
    rw [result, ProfileCatalog.rename, require_bind_eq_ok_iff, require_bind_eq_ok_iff,
      require_bind_eq_ok_iff, any_id_iff, ← and_assoc, ← and_assoc]
    apply and_congr
    · simp [Accepts, equalsIgnoreCase, and_assoc]
    · exact return_eq_ok_iff
  -- the check of the old identifier, and then `create`
  | duplicate id name newId =>
    rw [result, ProfileCatalog.duplicate, require_bind_eq_ok_iff, any_id_iff, create_eq_ok_iff,
      ← and_assoc]
    rfl
  | delete id =>
    rw [result, ProfileCatalog.delete, require_bind_eq_ok_iff, any_id_iff]
    exact and_congr_right fun _ => return_eq_ok_iff

/-- An operation that is accepted is carried out. -/
theorem apply_of_accepts {op : Operation} (h : op.Accepts fold existing) :
    op.apply fold existing = op.updated existing := by
  rw [apply, (result_eq_ok_iff op).mpr ⟨h, rfl⟩]

/-- One that is rejected leaves the list as it was. -/
theorem apply_of_not_accepts {op : Operation} (h : ¬ op.Accepts fold existing) :
    op.apply fold existing = existing := by
  rw [apply]
  cases hresult : op.result fold existing with
  | error e => rfl
  | ok l => exact absurd ((result_eq_ok_iff op).mp hresult).1 h

end Step

end Operation

/-! ## Distinct names -/

/-- No two names are equal but for their case. -/
def DistinctNames (fold : UInt16 → UInt16) (profiles : List ConnectionProfile) : Prop :=
  profiles.Pairwise fun it other => it.name.map fold ≠ other.name.map fold

/-- The default names have different lengths, so no table makes two of them equal. -/
theorem distinctNames_default (fold : UInt16 → UInt16) :
    DistinctNames fold ProfileCatalog.defaultProfiles := by
  have hlength : ProfileCatalog.defaultProfiles.Pairwise fun it other =>
      it.name.length ≠ other.name.length := by decide
  apply hlength.imp
  intro it other hne heq
  exact hne (by simpa using congrArg List.length heq)

section Distinct

variable {fold : UInt16 → UInt16} {existing : List ConnectionProfile}

/-- A free name may be added. -/
theorem DistinctNames.concat (h : DistinctNames fold existing) {name : JString}
    (hfree : Operation.Free fold existing name) (id : JString) :
    DistinctNames fold (existing ++ [{ id, name := name.trim }]) := by
  rw [DistinctNames, List.pairwise_append]
  refine ⟨h, List.pairwise_singleton _ _, fun it hit other hother => ?_⟩
  rw [List.mem_singleton.mp hother]
  exact hfree.2 it hit

/-- A profile that is renamed stays apart from the others; two that carry its identifier end up
    with one name. -/
theorem distinctNames_rename_iff (h : DistinctNames fold existing) {id name : JString}
    (haccepts : Operation.Accepts fold existing (.rename id name)) :
    DistinctNames fold (Operation.updated existing (.rename id name)) ↔
      existing.countP (·.id == id) ≤ 1 := by
  obtain ⟨-, -, hothers⟩ := haccepts
  show ((existing.map _).Pairwise _) ↔ _
  rw [List.pairwise_map]
  induction existing with
  | nil => simp
  | cons it existing ih =>
    rw [List.forall_mem_cons] at hothers
    rw [DistinctNames, List.pairwise_cons] at h
    rw [List.pairwise_cons, ih h.2 hothers.2, List.countP_cons]
    by_cases hid : it.id = id
    · -- the new name is here, so no later profile may carry the identifier
      have hnone : existing.countP (·.id == id) = 0 ↔ ∀ other ∈ existing, other.id ≠ id := by
        simp [List.countP_eq_zero]
      simp only [hid, beq_self_eq_true, if_true]
      constructor
      · rintro ⟨hfirst, -⟩
        have hzero : existing.countP (·.id == id) = 0 := by
          rw [hnone]
          intro other hother hsame
          exact hfirst other hother (by simp [hsame])
        omega
      · intro hcount
        have hzero : existing.countP (·.id == id) = 0 := by omega
        refine ⟨fun other hother => ?_, by omega⟩
        have hne := hnone.mp hzero other hother
        simp only [beq_iff_eq, hne, if_false]
        exact (hothers.2 other hother hne).symm
    · simp only [beq_iff_eq, hid, if_false, Nat.add_zero, and_iff_right_iff_imp]
      intro _ other hother
      split
      · -- the renamed profile is farther behind, and its new name is no one else's
        exact hothers.1 hid
      · exact h.1 other hother

end Distinct

/-! ## The catalog's invariant -/

/-- Identifiers and names are distinct, names are trimmed and not empty, and no profile claims a
    verified route. -/
structure Catalogued (fold : UInt16 → UInt16) (profiles : List ConnectionProfile) : Prop where
  ids : profiles.Pairwise fun it other => it.id ≠ other.id
  names : DistinctNames fold profiles
  trimmed : ∀ it ∈ profiles, it.name ≠ [] ∧ it.name.trim = it.name
  unverified : ∀ it ∈ profiles, it.routeVerified = false

namespace Operation

/-- The identifier of the profile that the operation makes, renames or deletes. -/
def subject : Operation → JString
  | .create _ id => id
  | .rename id _ => id
  | .duplicate _ _ newId => newId
  | .delete id => id

instance (existing : List ConnectionProfile) (id : JString) : Decidable (Exists existing id) :=
  inferInstanceAs (Decidable (∃ it ∈ existing, it.id = id))

/-- The identifier of a new profile is not in the list. -/
def FreshId (existing : List ConnectionProfile) : Operation → Prop
  | .create _ id | .duplicate _ _ id => ¬ Exists existing id
  | .rename _ _ | .delete _ => True

instance (existing : List ConnectionProfile) (op : Operation) : Decidable (op.FreshId existing) := by
  cases op <;> simp only [FreshId] <;> infer_instance

/-- All other profiles are as they were, in their order; and nothing changes if it throws. -/
structure Frame (fold : UInt16 → UInt16) (existing : List ConnectionProfile) (op : Operation) :
    Prop where
  others : (op.apply fold existing).filter (·.id != op.subject) =
    existing.filter (·.id != op.subject)
  thrown : ∀ message, op.result fold existing = .error message → op.apply fold existing = existing

/-- A profile that is added is not among the others. -/
theorem filter_others_concat (existing : List ConnectionProfile) (id name : JString) :
    (existing ++ [({ id, name } : ConnectionProfile)]).filter (·.id != id) =
      existing.filter (·.id != id) := by
  simp [List.filter_append]

/-- Nor is one that is renamed. -/
theorem filter_others_rename (existing : List ConnectionProfile) (id name : JString) :
    (existing.map fun it => if it.id == id then { it with name := name } else it).filter
      (·.id != id) = existing.filter (·.id != id) := by
  induction existing with
  | nil => rfl
  | cons it existing ih =>
    rw [List.map_cons, List.filter_cons, List.filter_cons, ih]
    by_cases hid : it.id = id <;> simp [hid]

/-- **What an operation leaves alone**, in any list. -/
theorem frame (fold : UInt16 → UInt16) (existing : List ConnectionProfile) (op : Operation) :
    Frame fold existing op := by
  refine ⟨?_, fun message hthrown => by rw [apply, hthrown]⟩
  by_cases haccepts : op.Accepts fold existing
  · rw [apply_of_accepts haccepts]
    cases op with
    | create name id => exact filter_others_concat existing id _
    | duplicate id name newId => exact filter_others_concat existing newId _
    | rename id name => exact filter_others_rename existing id _
    | delete id =>
      show (existing.filter fun it => !(it.id == id)).filter _ = _
      rw [List.filter_filter]
      exact List.filter_congr fun it _ => Bool.and_self _
  · rw [apply_of_not_accepts haccepts]

end Operation

section Invariant

variable {fold : UInt16 → UInt16} {existing : List ConnectionProfile}

/-- A new profile with an identifier and a name that no other has. -/
theorem Catalogued.concat (h : Catalogued fold existing) {id name : JString}
    (hid : ¬ Operation.Exists existing id) (hfree : Operation.Free fold existing name) :
    Catalogued fold (existing ++ [{ id, name := name.trim }]) where
  ids := by
    rw [List.pairwise_append]
    refine ⟨h.ids, List.pairwise_singleton _ _, fun it hit other hother => ?_⟩
    rw [List.mem_singleton.mp hother]
    exact fun hsame => hid ⟨it, hit, hsame⟩
  names := h.names.concat hfree id
  trimmed it hit := by
    rcases List.mem_append.mp hit with hit | hit
    · exact h.trimmed it hit
    · rw [List.mem_singleton.mp hit]
      exact ⟨hfree.1, JString.trim_trim name⟩
  unverified it hit := by
    rcases List.mem_append.mp hit with hit | hit
    · exact h.unverified it hit
    · rw [List.mem_singleton.mp hit]

/-- Profiles may be taken away. -/
theorem Catalogued.filter (h : Catalogued fold existing) (keep : ConnectionProfile → Bool) :
    Catalogued fold (existing.filter keep) where
  ids := h.ids.filter _
  names := List.Pairwise.filter _ h.names
  trimmed it hit := h.trimmed it (List.mem_filter.mp hit).1
  unverified it hit := h.unverified it (List.mem_filter.mp hit).1

/-- A profile that is renamed keeps its identifier, which is its own. -/
theorem Catalogued.rename (h : Catalogued fold existing) {id name : JString}
    (haccepts : Operation.Accepts fold existing (.rename id name)) :
    Catalogued fold (Operation.updated existing (.rename id name)) where
  ids := by
    show (existing.map _).Pairwise _
    rw [List.pairwise_map]
    refine h.ids.imp fun hne => ?_
    split <;> split <;> exact hne
  names := by
    rw [distinctNames_rename_iff h.names haccepts]
    have hnodup : (existing.map (·.id)).Nodup := List.pairwise_map.mpr h.ids
    have hcount := List.nodup_iff_count.mp hnodup id
    rwa [List.count, List.countP_map] at hcount
  trimmed it hit := by
    obtain ⟨original, horiginal, rfl⟩ := List.mem_map.mp hit
    split
    · exact ⟨haccepts.1, JString.trim_trim name⟩
    · exact h.trimmed original horiginal
  unverified it hit := by
    obtain ⟨original, horiginal, rfl⟩ := List.mem_map.mp hit
    have hroute := h.unverified original horiginal
    split <;> exact hroute

/-- **Step lemma**: an operation with a fresh identifier keeps the invariant. -/
theorem Catalogued.apply (h : Catalogued fold existing) {op : Operation}
    (hfresh : op.FreshId existing) : Catalogued fold (op.apply fold existing) := by
  by_cases haccepts : op.Accepts fold existing
  · rw [Operation.apply_of_accepts haccepts]
    cases op with
    | create name id => exact h.concat hfresh haccepts
    | duplicate id name newId => exact h.concat hfresh haccepts.2
    | rename id name => exact h.rename haccepts
    | delete id => exact h.filter _
  · rw [Operation.apply_of_not_accepts haccepts]
    exact h

/-- The default profiles are a catalogue, whatever folds case. -/
theorem catalogued_default (fold : UInt16 → UInt16) :
    Catalogued fold ProfileCatalog.defaultProfiles where
  ids := by decide
  names := distinctNames_default fold
  trimmed := by decide
  unverified := by decide

/-- **The catalog's invariant** holds of every list that operations on the default profiles pass
    through, if each new identifier is fresh; and no operation touches another profile, or
    anything when it throws. -/
theorem profile_catalog_invariant (fold : UInt16 → UInt16) (ops : List Operation)
    (hfresh : AllSteps (total (Operation.apply fold)) (fun existing op => op.FreshId existing)
      ProfileCatalog.defaultProfiles ops) :
    (∀ pre, pre <+: ops → Catalogued fold (Operation.after fold pre)) ∧
      ∀ pre op post, ops = pre ++ op :: post →
        op.Frame fold (Operation.after fold pre) := by
  refine ⟨fun pre hpre => ?_, fun pre op post _ => Operation.frame fold _ op⟩
  have hstep : ∀ existing op updated, Catalogued fold existing →
      op.FreshId existing → total (Operation.apply fold) existing op = some updated → Catalogued fold updated := by
    intro existing op updated h hfresh happly
    obtain rfl := Option.some.inj happly
    exact h.apply hfresh
  exact run_invariant_of_allSteps hstep (catalogued_default fold) (hfresh.of_prefix hpre)
    (run_total _ pre)

end Invariant

/-- A profile is created, renamed to its own name in capitals, duplicated and deleted. -/
def workOperations : List Operation :=
  [.create (ascii " Work ") (ascii "7"), .rename (ascii "7") (ascii "WORK"),
    .duplicate (ascii "7") (ascii "Work Copy") (ascii "8"), .delete (ascii "7")]

/-- Operations that are accepted, and some that are rejected. -/
theorem profile_catalog_invariant_work :
    (∀ pre, pre <+: workOperations →
      Catalogued JString.foldCase (Operation.after JString.foldCase pre)) ∧
    ∀ pre op post, workOperations = pre ++ op :: post →
      op.Frame JString.foldCase (Operation.after JString.foldCase pre) :=
  profile_catalog_invariant JString.foldCase workOperations (by decide)

end DarkMed.Profiles
