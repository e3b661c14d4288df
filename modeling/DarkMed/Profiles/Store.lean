import DarkMed.Lib.Base64
import DarkMed.Lib.Unicode
import DarkMed.Profiles.Catalog

/-!
# The Profile Store

`ProfileStore`: a list of profiles as one string of a preferences file, a line for each profile
with its identifier as it is and its name in UTF-8 and Base64, and the list that is read back.

The string goes through the map that the process holds of the file; a commit changes the map
first and then writes the file, and says whether the writing went well.

A list comes back as it was exactly when every surrogate of its names has its partner: the
encoder writes `?` for one that has not.
-/

namespace DarkMed.Profiles

open DarkMed.Lib DarkMed.Lib.Transition

/-! ## Encoding -/

inductive LoadError where
  /-- `require(parts.size == 2)` -/
  | failedRequirement
  /-- The decoder's exception for a text that is not Base64. -/
  | illegalBase64
  deriving DecidableEq, Repr

namespace ProfileStore

/-- `encode` -/
def encode (value : JString) : JString :=
  Base64.encode (utf8 value.written)

/-- `"${it.id}\t${encode(it.name)}"` -/
def line (it : ConnectionProfile) : JString :=
  it.id ++ JString.tab :: encode it.name

/-- `profiles.joinToString("\n") { … }` -/
def serialize (profiles : List ConnectionProfile) : JString :=
  JString.joinLines (profiles.map line)

section Decoding

-- what the string constructor makes of bytes that are no UTF-8 text
variable (malformed : List UInt8 → JString)

/-- `decode` -/
def decode (value : JString) : Except LoadError JString :=
  match Base64.decode value with
  | some bytes => .ok (decodeUtf8 malformed bytes)
  | none => .error .illegalBase64

def decodeLine (line : JString) : Except LoadError ConnectionProfile :=
  match line.splitTab with
  | [id, name] =>
    match decode malformed name with
    | .ok name => .ok { id, name }
    | .error e => .error e
  | _ => .error .failedRequirement

/-- `.map { … }.toList()`: the first line that throws ends it. -/
def decodeLines : List JString → Except LoadError (List ConnectionProfile)
  | [] => .ok []
  | line :: lines =>
    match decodeLine malformed line with
    | .error e => .error e
    | .ok it =>
      match decodeLines lines with
      | .error e => .error e
      | .ok profiles => .ok (it :: profiles)

/-- The profiles of a string of the preferences file. -/
def deserialize (encoded : JString) : Except LoadError (List ConnectionProfile) :=
  decodeLines malformed (encoded.lineSequence.filter JString.isNotBlank)

end Decoding

end ProfileStore

/-! ## Preferences -/

/-- The entry `profiles` of `darkmed_profiles`. -/
structure Preferences where
  /-- The entry of the map that the process holds, from the first use of the file on. -/
  memory : Option (Option JString) := none
  /-- The entry of the file. -/
  disk : Option JString := none
  deriving DecidableEq, Repr

namespace Preferences

/-- `getSharedPreferences`: the file is read once in the life of the process. -/
def opened (preferences : Preferences) : Preferences :=
  { preferences with memory := some (preferences.memory.getD preferences.disk) }

/-- `getString(KEY_PROFILES, null)` -/
def getString (preferences : Preferences) : Option JString :=
  preferences.memory.getD preferences.disk

/-- `edit().putString(KEY_PROFILES, value).commit()`, where `written` says whether the file could
    be written. -/
def putString (preferences : Preferences) (value : JString) (written : Bool) :
    Preferences × Bool :=
  ({ memory := some (some value)
     disk := if written then some value else preferences.disk }, written)

end Preferences

namespace ProfileStore

/-- `load` -/
def load (malformed : List UInt8 → JString) (preferences : Preferences) :
    Except LoadError (List ConnectionProfile) :=
  match preferences.getString with
  | none => .ok ProfileCatalog.defaultProfiles
  | some encoded => deserialize malformed encoded

/-- `save` -/
def save (preferences : Preferences) (profiles : List ConnectionProfile) (written : Bool) :
    Preferences × Bool :=
  preferences.putString (serialize profiles) written

/-! ## What is read back -/

/-- A profile as it is read back. -/
def stored (it : ConnectionProfile) : ConnectionProfile :=
  { id := it.id, name := utf16 it.name.written }

/-- A profile that its line can be told from. -/
structure Writable (it : ConnectionProfile) : Prop where
  id : it.id.FitsLine
  name : it.name ≠ []

section ReadBack

variable {malformed : List UInt8 → JString}

/-- A name comes back as what a UTF-8 file makes of it. -/
theorem decode_encode (value : JString) :
    decode malformed (encode value) = .ok (utf16 value.written) := by
  simp [decode, encode, Base64.decode_encode, decodeUtf8_utf8]

/-- A name that is not empty is not written as nothing. -/
theorem encode_ne_nil {value : JString} (h : value ≠ []) : encode value ≠ [] := by
  apply Base64.encode_ne_nil
  obtain ⟨c, cs, hwritten⟩ : ∃ c cs, value.written = c :: cs :=
    List.exists_cons_of_ne_nil (mt JString.written_eq_nil_iff.mp h)
  rw [hwritten, utf8_cons]
  intro hnil
  have hlength := congrArg List.length (List.append_eq_nil_iff.mp hnil).1
  rw [String.length_utf8EncodeChar] at hlength
  exact absurd hlength (Nat.ne_of_gt c.utf8Size_pos)

/-- The line of a profile is one line, is not dropped, and is read back. -/
theorem line_spec {it : ConnectionProfile} (h : Writable it) :
    (∀ c ∈ line it, c ≠ JString.lf ∧ c ≠ JString.cr) ∧ (line it).isNotBlank = true ∧
      decodeLine malformed (line it) = .ok (stored it) := by
  refine ⟨fun c hc => ?_, ?_, ?_⟩
  · rcases List.mem_append.mp hc with hc | hc
    · exact (h.id c hc).2
    · rcases List.mem_cons.mp hc with rfl | hc
      · decide
      · -- line feed and carriage return are white space, and no character of the encoding is
        have hspace := Base64.isWhitespace_of_mem_encode hc
        constructor
        · rintro rfl
          exact absurd hspace (by decide)
        · rintro rfl
          exact absurd hspace (by decide)
  · obtain ⟨c, hc⟩ := List.exists_mem_of_ne_nil _ (encode_ne_nil h.name)
    rw [JString.isNotBlank, List.any_eq_true]
    refine ⟨c, List.mem_append_right _ (List.mem_cons_of_mem _ hc), ?_⟩
    rw [Base64.isWhitespace_of_mem_encode hc]
    rfl
  · have htab : JString.tab ∉ it.id := fun hmem => (h.id _ hmem).1 rfl
    rw [decodeLine, line, JString.splitTab_append htab]
    simp only [decode_encode]
    rfl

/-- Lines are read back one by one. -/
theorem decodeLines_map {profiles : List ConnectionProfile} (h : ∀ it ∈ profiles, Writable it) :
    decodeLines malformed (profiles.map line) = .ok (profiles.map stored) := by
  induction profiles with
  | nil => rfl
  | cons it profiles ih =>
    rw [List.forall_mem_cons] at h
    simp only [List.map_cons, decodeLines, (line_spec h.1).2.2, ih h.2]

/-- **What a list is read back as**, the empty list included. -/
theorem deserialize_serialize {profiles : List ConnectionProfile}
    (h : ∀ it ∈ profiles, Writable it) :
    deserialize malformed (serialize profiles) = .ok (profiles.map stored) := by
  by_cases hempty : profiles = []
  · subst hempty
    rfl
  · -- the lines come back one by one, as none holds a terminator, and none is dropped as blank
    have hlines : ∀ l ∈ profiles.map line, ∀ c ∈ l, c ≠ JString.lf ∧ c ≠ JString.cr := by
      intro l hl
      obtain ⟨it, hit, rfl⟩ := List.mem_map.mp hl
      exact (@line_spec malformed it (h it hit)).1
    -- the encoded name is not empty, so no line is blank
    have hnotBlank : (profiles.map line).filter JString.isNotBlank = profiles.map line := by
      rw [List.filter_eq_self]
      intro l hl
      obtain ⟨it, hit, rfl⟩ := List.mem_map.mp hl
      exact (@line_spec malformed it (h it hit)).2.1
    rw [deserialize, serialize, JString.lineSequence_joinLines (by simpa using hempty) hlines,
      hnotBlank, decodeLines_map h]

/-- What has been saved is loaded, whether it has reached the disk or not. -/
theorem load_save (preferences : Preferences) {profiles : List ConnectionProfile}
    (h : ∀ it ∈ profiles, Writable it) (written : Bool) :
    load malformed (save preferences profiles written).1 = .ok (profiles.map stored) :=
  deserialize_serialize h

end ReadBack

/-- A profile survives exactly if its name is paired and its route is not verified. -/
theorem stored_eq_iff {it : ConnectionProfile} :
    stored it = it ↔ it.name.Paired ∧ it.routeVerified = false := by
  rw [← JString.utf16_written_eq_iff]
  constructor
  · intro h
    exact ⟨congrArg ConnectionProfile.name h, (congrArg ConnectionProfile.routeVerified h).symm⟩
  · rintro ⟨hname, hroute⟩
    rw [stored, hname, ← hroute]

/-- The default profiles survive. -/
theorem stored_defaultProfiles :
    ProfileCatalog.defaultProfiles.map stored = ProfileCatalog.defaultProfiles := by
  decide

/-- Reading back once more changes nothing. -/
theorem stored_stored (it : ConnectionProfile) : stored (stored it) = stored it :=
  stored_eq_iff.mpr ⟨JString.paired_utf16 _, rfl⟩

end ProfileStore

/-! ## Round trips of reachable lists -/

/-- What `save` has to keep of a list, wherever it is saved to: `load` returns it, and its names
    are distinct. -/
def RoundTrip (fold : UInt16 → UInt16) (malformed : List UInt8 → JString)
    (profiles : List ConnectionProfile) : Prop :=
  ∀ (preferences : Preferences) (written : Bool),
    (ProfileStore.save preferences profiles written).2 = true →
      ∃ loaded,
        ProfileStore.load malformed (ProfileStore.save preferences profiles written).1 = .ok loaded ∧
          loaded = profiles ∧ DistinctNames fold loaded

namespace Operation

/-- The identifier that the operation gives to a new profile fits into a line. -/
def FitsLine : Operation → Prop
  | .create _ id => id.FitsLine
  | .duplicate _ _ newId => newId.FitsLine
  | .rename _ _ | .delete _ => True

/-- An operation that is accepted gives a name whose surrogates are paired, and renames one
    profile only. -/
def Storable (fold : UInt16 → UInt16) (existing : List ConnectionProfile) (op : Operation) : Prop :=
  op.Accepts fold existing →
    match op with
    | .create name _ | .duplicate _ name _ => name.trim.Paired
    | .rename id name => name.trim.Paired ∧ existing.countP (·.id == id) ≤ 1
    | .delete _ => True

/-- The name that the operation gives to a profile can be read back. -/
def GivesPaired : Operation → Prop
  | .create name _ | .duplicate _ name _ | .rename _ name => name.trim.Paired
  | .delete _ => True

end Operation

/-- What every operation keeps: the profiles can be written, and none claims a verified route. -/
def Plain (profiles : List ConnectionProfile) : Prop :=
  ∀ it ∈ profiles, ProfileStore.Writable it ∧ it.routeVerified = false

/-- They can be written as they are. -/
theorem plain_default : Plain ProfileCatalog.defaultProfiles := by
  have hall : ∀ it ∈ ProfileCatalog.defaultProfiles,
      it.id.FitsLine ∧ it.name ≠ [] ∧ it.routeVerified = false := by decide
  intro it hit
  obtain ⟨hid, hname, hroute⟩ := hall it hit
  exact ⟨⟨hid, hname⟩, hroute⟩

section Runs

variable {fold : UInt16 → UInt16} {malformed : List UInt8 → JString}
  {existing : List ConnectionProfile}

/-- So can a profile that is added. -/
theorem plain_concat (h : Plain existing) {id name : JString} (hid : id.FitsLine)
    (hname : name.trim ≠ []) : Plain (existing ++ [{ id, name := name.trim }]) := by
  intro it hit
  rcases List.mem_append.mp hit with hit | hit
  · exact h it hit
  · rw [List.mem_singleton.mp hit]
    exact ⟨⟨hid, hname⟩, rfl⟩

/-- Every operation leaves profiles that can be written. -/
theorem plain_apply (h : Plain existing) {op : Operation} (hop : op.FitsLine) :
    Plain (op.apply fold existing) := by
  by_cases haccepts : op.Accepts fold existing
  · rw [Operation.apply_of_accepts haccepts]
    cases op with
    | create name id => exact plain_concat h hop haccepts.1
    | duplicate id name newId => exact plain_concat h hop haccepts.2.1
    | delete id =>
      intro it hit
      exact h it (List.mem_filter.mp hit).1
    | rename id name =>
      intro it hit
      obtain ⟨original, horiginal, rfl⟩ := List.mem_map.mp hit
      obtain ⟨hwritable, hroute⟩ := h original horiginal
      split
      · exact ⟨⟨hwritable.id, haccepts.1⟩, hroute⟩
      · exact ⟨hwritable, hroute⟩
  · rw [Operation.apply_of_not_accepts haccepts]
    exact h

/-- A list survives if each of its profiles does. -/
theorem map_eq_self_iff {f : ConnectionProfile → ConnectionProfile} :
    existing.map f = existing ↔ ∀ it ∈ existing, f it = it := by
  have hinj := @List.map_inj_left _ _ existing f id
  rwa [List.map_id] at hinj

/-- A list that the catalog makes is read back as it was exactly when its names are. -/
theorem map_stored_eq_iff (h : Plain existing) :
    existing.map ProfileStore.stored = existing ↔ ∀ it ∈ existing, it.name.Paired := by
  rw [map_eq_self_iff]
  refine forall_congr' fun it => forall_congr' fun hit => ?_
  rw [ProfileStore.stored_eq_iff]
  exact and_iff_left (h it hit).2

/-- A list survives the store exactly when its names do. -/
theorem roundTrip_iff (h : Plain existing) :
    RoundTrip fold malformed existing ↔
      (∀ it ∈ existing, it.name.Paired) ∧ DistinctNames fold existing := by
  have hload : ∀ preferences written,
      ProfileStore.load malformed (ProfileStore.save preferences existing written).1 =
        .ok (existing.map ProfileStore.stored) :=
    fun preferences written => ProfileStore.load_save preferences (fun it hit => (h it hit).1) written
  constructor
  · intro htrip
    obtain ⟨loaded, hloaded, rfl, hdistinct⟩ := htrip {} true rfl
    rw [hload] at hloaded
    exact ⟨(map_stored_eq_iff h).mp (Except.ok.inj hloaded), hdistinct⟩
  · rintro ⟨hpaired, hdistinct⟩ preferences written -
    exact ⟨existing, by rw [hload, (map_stored_eq_iff h).mpr hpaired], rfl, hdistinct⟩

/-- Of a profile that is added, only the name counts. -/
theorem forall_paired_concat_iff (h : ∀ it ∈ existing, it.name.Paired) {id name : JString} :
    (∀ it ∈ existing ++ [{ id, name : ConnectionProfile }], it.name.Paired) ↔ name.Paired := by
  rw [List.forall_mem_append, List.forall_mem_singleton]
  exact and_iff_right h

/-- What an operation leaves can be read back exactly when what it gives can. -/
theorem forall_paired_updated_iff (h : ∀ it ∈ existing, it.name.Paired) {op : Operation}
    (haccepts : op.Accepts fold existing) :
    (∀ it ∈ op.updated existing, it.name.Paired) ↔ op.GivesPaired := by
  cases op with
  | create name id => exact forall_paired_concat_iff h
  | duplicate id name newId => exact forall_paired_concat_iff h
  -- what is left was there before
  | delete id => exact iff_of_true (fun it hit => h it (List.mem_filter.mp hit).1) trivial
  | rename id name =>
    constructor
    · intro hall
      -- the renamed profile is in the list
      obtain ⟨it, hit, hid⟩ := haccepts.2.1
      exact hall _ (List.mem_map.mpr ⟨it, hit, by rw [if_pos (by simpa using hid)]⟩)
    · intro hname it hit
      obtain ⟨original, horiginal, rfl⟩ := List.mem_map.mp hit
      split
      · exact hname
      · exact h original horiginal

/-- **Step lemma**: an operation on a list that survives the store makes one that does, exactly
    when it is storable. -/
theorem roundTrip_apply_iff (hplain : Plain existing) {op : Operation} (hop : op.FitsLine)
    (h : RoundTrip fold malformed existing) :
    RoundTrip fold malformed (op.apply fold existing) ↔ op.Storable fold existing := by
  obtain ⟨hpaired, hdistinct⟩ := (roundTrip_iff hplain).mp h
  rw [roundTrip_iff (plain_apply hplain hop)]
  by_cases haccepts : op.Accepts fold existing
  · rw [Operation.apply_of_accepts haccepts, Operation.Storable.eq_def, imp_iff_right haccepts,
      forall_paired_updated_iff hpaired haccepts]
    cases op with
    | create name id => exact and_iff_left (hdistinct.concat haccepts id)
    | duplicate id name newId => exact and_iff_left (hdistinct.concat haccepts.2 newId)
    | delete id => exact and_iff_left (hdistinct.filter _)
    | rename id name => exact and_congr_right fun _ => distinctNames_rename_iff hdistinct haccepts
  · rw [Operation.apply_of_not_accepts haccepts]
    exact iff_of_true ⟨hpaired, hdistinct⟩ fun h => absurd h haccepts

/-- The default profiles are read back as they are. -/
theorem roundTrip_default (fold : UInt16 → UInt16) (malformed : List UInt8 → JString) :
    RoundTrip fold malformed ProfileCatalog.defaultProfiles := by
  rw [roundTrip_iff plain_default]
  have hpaired : ∀ it ∈ ProfileCatalog.defaultProfiles, it.name.Paired := by decide
  exact ⟨hpaired, distinctNames_default fold⟩

/-- **Profile storage round trip.**  Every list that operations on the default profiles pass
    through survives the store exactly when every operation is storable. -/
theorem profile_round_trip_iff (fold : UInt16 → UInt16) (malformed : List UInt8 → JString)
    (ops : List Operation) (hops : ∀ op ∈ ops, op.FitsLine) :
    (∀ pre, pre <+: ops → RoundTrip fold malformed (Operation.after fold pre)) ↔
      AllSteps (total (Operation.apply fold)) (Operation.Storable fold)
        ProfileCatalog.defaultProfiles ops :=
  forall_prefix_iff_allSteps_of_invariant
    (fun _ op hop hplain => plain_apply hplain (hops op hop))
    (fun _ op hop hplain htrip => roundTrip_apply_iff hplain (hops op hop) htrip)
    plain_default (roundTrip_default fold malformed)

end Runs

/-- One profile more. -/
theorem profile_round_trip_create :
    (∀ pre, pre <+: [Operation.create (ascii " Work ") (ascii "7")] →
      RoundTrip JString.foldCase (fun _ => []) (Operation.after JString.foldCase pre)) ↔
    AllSteps (total (Operation.apply JString.foldCase)) (Operation.Storable JString.foldCase)
      ProfileCatalog.defaultProfiles [.create (ascii " Work ") (ascii "7")] :=
  profile_round_trip_iff JString.foldCase (fun _ => [])
    [.create (ascii " Work ") (ascii "7")] (by
      rw [List.forall_mem_singleton]
      show JString.FitsLine (ascii "7")
      decide)

/-- A name of one high surrogate comes back as a question mark. -/
theorem surrogate_name_is_lost :
    ¬ ∀ (fold : UInt16 → UInt16) (malformed : List UInt8 → JString) (ops : List Operation),
      (∀ op ∈ ops, op.FitsLine) → RoundTrip fold malformed (Operation.after fold ops) := by
  intro h
  have hfits : Operation.FitsLine (.create [0xD800] (ascii "7")) := by
    show JString.FitsLine (ascii "7")
    decide
  have htrip := h JString.foldCase (fun _ => []) [.create [0xD800] (ascii "7")]
    (List.forall_mem_singleton.mpr hfits)
  have hplain : Plain (Operation.apply JString.foldCase ProfileCatalog.defaultProfiles
      (.create [0xD800] (ascii "7"))) := plain_apply plain_default hfits
  have hpaired := ((roundTrip_iff hplain).mp htrip).1
  exact absurd (hpaired { id := ascii "7", name := [0xD800] } (by decide)) (by decide)

end DarkMed.Profiles
