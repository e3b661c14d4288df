import DarkMed.Lib.Python

/-!
# The Merged QA Summary

`tools/merge_qa_results.py`: the `result.json` and `status.txt` files below a directory become
one record each, a record with another digest than the artifact's becomes a failure, and the
rest is counted.

The summary says of itself that a PASS needs the exact digest.  A record without a digest is not
touched, so this is so exactly when no file claims a PASS without one.
-/

namespace DarkMed.Engineering.QaSummary

open DarkMed.Lib.Python

/-! ## Files -/

/-- The hexadecimal digits of a SHA-256 digest. -/
structure Digest where
  hex : PyString
  length : hex.length = 64

/-- A digest is not empty. -/
theorem Digest.hex_ne_nil (d : Digest) : d.hex ≠ [] := by
  intro h
  have hlength := d.length
  rw [h] at hlength
  cases hlength

/-- A `result.json`: its path, and what `json.loads(path.read_text())` gives. -/
structure ResultFile where
  path : PyString
  json : Except PyError Json

/-- A `status.txt`: its path, the name of the directory it is in, its text, and the text of the
    `manifest.txt` beside it, if there is one. -/
structure StatusFile where
  path : PyString
  parentName : PyString
  content : Except PyError PyString
  manifest : Option (Except PyError PyString)

/-- What `rglob` finds below the input root. -/
structure InputRoot where
  results : List ResultFile
  statuses : List StatusFile

/-! ## Records -/

structure Record where
  source : PyString
  provider : Json
  status : Json
  apkSha256 : Json
  deviceName : Json
  platformVersion : Json
  artifacts : Json
  blocker : Option PyString := none

/-- `load_json` -/
def loadJson (file : ResultFile) : Json :=
  match file.json with
  | .ok v => v
  | .error _ => .null

/-- `value.get(key, default)` -/
def getD (pairs : List (PyString × Json)) (key default : PyString) : Json :=
  (lookup key pairs).getD (.str default)

/-- The record of a `result.json`, if that is a dictionary. -/
def resultRecord (file : ResultFile) : Option Record :=
  match loadJson file with
  | .dict value => some {
      source := file.path
      provider := getD value (text "provider") (text "unknown")
      status := getD value (text "status") (text "NOT_TESTED")
      apkSha256 := getD value (text "apk_sha256") []
      deviceName := getD value (text "device_name") []
      platformVersion := getD value (text "platform_version") []
      artifacts := (lookup (text "artifacts") value).getD (.list []) }
  | _ => none

/-- The lines `key=value` of a text. -/
def keyValues (content : PyString) : List (PyString × PyString) :=
  (splitlines content).filterMap keyValue

/-- `{'20': 'BLOCKED', '1': 'FAIL', '0': 'PASS'}.get(exit_code, 'NOT_TESTED')` -/
def statusOfExitCode (exitCode : PyString) : PyString :=
  if exitCode = text "20" then text "BLOCKED"
  else if exitCode = text "1" then text "FAIL"
  else if exitCode = text "0" then text "PASS"
  else text "NOT_TESTED"

/-- The digests that the lines of a manifest give, the last of which counts. -/
def manifestDigests (manifest : PyString) : List PyString :=
  ((splitlines manifest).filter fun line => (text "apk_sha256=").isPrefixOf line).map fun line =>
    strip (line.dropWhile (· != 0x3D)).tail

/-- `values['status']`, from the exit code where the file has no status. -/
def withStatus (values : List (PyString × PyString)) : List (PyString × PyString) :=
  match lookup (text "status") values with
  | some _ => values
  | none =>
    values ++
      [(text "status", statusOfExitCode ((lookup (text "exit_code") values).getD []))]

def parseStatus (file : StatusFile) : Except PyError (List (PyString × PyString)) := do
  let values := withStatus (keyValues (← file.content))
  if (lookup (text "apk_sha256") values).getD [] = [] then
    match file.manifest with
    | none => return values
    | some manifest =>
      return values ++ (manifestDigests (← manifest)).map fun digest => (text "apk_sha256", digest)
  else return values

/-- The record of a `status.txt`. -/
def statusRecord (file : StatusFile) : Except PyError Record := do
  let values ← parseStatus file
  let get key default := Json.str ((lookup key values).getD default)
  return {
    source := file.path
    provider := get (text "provider") file.parentName
    status := get (text "status") (text "NOT_TESTED")
    apkSha256 := get (text "apk_sha256") []
    deviceName := get (text "device") ((lookup (text "serial") values).getD [])
    platformVersion := get (text "api") ((lookup (text "platform_version") values).getD [])
    artifacts := .list [] }

/-- The records of the `status.txt` files; one that cannot be read ends the program. -/
def statusRecords : List StatusFile → Except PyError (List Record)
  | [] => return []
  | file :: files => do
    let record ← statusRecord file
    let records ← statusRecords files
    return record :: records

def collect (root : InputRoot) : Except PyError (List Record) := do
  return root.results.filterMap resultRecord ++ (← statusRecords root.statuses)

/-! ## The summary -/

structure Summary where
  apkSha256 : PyString
  recordCount : Nat
  statusCounts : List (Json.Key × Nat)
  realDevicePasses : Nat
  records : List Record

/-- A record with a digest that is not the artifact's becomes a failure. -/
def checked (expected : PyString) (record : Record) : Record :=
  if record.apkSha256.truthy && !record.apkSha256.isStr expected then
    { record with
      status := .str (text "FAIL")
      blocker := some (text "artifact SHA mismatch") }
  else record

/-- `record['status'] == 'PASS' and record['device_name']` -/
def isRealDevicePass (record : Record) : Bool :=
  record.status.isStr (text "PASS") && record.deviceName.truthy

/-- The keys that `Counter` counts: a list or a dictionary is none. -/
def statusKeys : List Record → Except PyError (List Json.Key)
  | [] => return []
  | record :: records => do
    let key ← record.status.key
    let keys ← statusKeys records
    return key :: keys

section Merge

variable (sha256 : List UInt8 → Digest)

/-- `main`, up to the writing of the summary. -/
def merge (artifact : List UInt8) (root : InputRoot) : Except PyError Summary := do
  let expected := (sha256 artifact).hex
  let records := (← collect root).map (checked expected)
  let keys ← statusKeys records
  return {
    apkSha256 := expected
    recordCount := records.length
    statusCounts := keys.eraseDups.map fun key => (key, keys.count key)
    realDevicePasses := records.countP isRealDevicePass
    records }

end Merge

/-! ## What a PASS needs -/

/-- The rule that the summary states, for its records and for its count. -/
def NoFalsePass (expected : PyString) (summary : Summary) : Prop :=
  (∀ record ∈ summary.records, record.status = .str (text "PASS") →
    record.apkSha256 = .str expected) ∧
  summary.realDevicePasses = summary.records.countP fun record =>
    record.status.isStr (text "PASS") && record.apkSha256.isStr expected &&
      record.deviceName.truthy

/-- A `result.json` with status PASS, and no digest or a false one. -/
def ResultFile.Undigested (file : ResultFile) : Prop :=
  ∃ value, file.json = .ok (.dict value) ∧
    lookup (text "status") value = some (.str (text "PASS")) ∧
    ((lookup (text "apk_sha256") value).getD (.str [])).truthy = false

/-- A `status.txt` that says PASS, in its last status line or else in its last exit code, and has
    no digest; nor has the last digest line of a manifest beside it. -/
def StatusFile.Undigested (file : StatusFile) : Prop :=
  ∃ content, file.content = .ok content ∧
    (lookup (text "status") (keyValues content) = some (text "PASS") ∨
      lookup (text "status") (keyValues content) = none ∧
        lookup (text "exit_code") (keyValues content) = some (text "0")) ∧
    (lookup (text "apk_sha256") (keyValues content)).getD [] = [] ∧
    ∀ manifest, file.manifest = some (.ok manifest) →
      (manifestDigests manifest).getLast?.getD [] = []

/-- Some file claims a PASS without a digest. -/
def InputRoot.Undigested (root : InputRoot) : Prop :=
  (∃ file ∈ root.results, file.Undigested) ∨ ∃ file ∈ root.statuses, file.Undigested

/-! ## From the records to the files -/

/-- The record says PASS, and has no digest. -/
def FalsePass (record : Record) : Prop :=
  record.status = .str (text "PASS") ∧ record.apkSha256.truthy = false

/-- A `result.json` is a false PASS exactly if it says PASS and has no digest. -/
theorem falsePass_resultRecord_iff (file : ResultFile) :
    (∃ record, resultRecord file = some record ∧ FalsePass record) ↔ file.Undigested := by
  unfold resultRecord loadJson ResultFile.Undigested
  cases hjson : file.json with
  | error e => simp
  | ok v =>
    cases v with
    | dict value =>
      constructor
      · rintro ⟨record, hrecord, hstatus, hdigest⟩
        cases hrecord
        refine ⟨value, rfl, ?_, hdigest⟩
        -- a missing status is NOT_TESTED
        cases hlookup : lookup (text "status") value with
        | none =>
          simp only [getD, hlookup, Option.getD_none, Json.str.injEq] at hstatus
          exact absurd hstatus (by decide)
        | some v =>
          simp only [getD, hlookup, Option.getD_some] at hstatus
          rw [hstatus]
      · rintro ⟨value', hvalue, hstatus, hdigest⟩
        cases hvalue
        refine ⟨_, rfl, ?_, hdigest⟩
        simp only [getD, hstatus, Option.getD_some]
    | _ => simp

/-- The status that a `status.txt` gives. -/
theorem lookup_status_withStatus (values : List (PyString × PyString)) :
    lookup (text "status") (withStatus values) = some (text "PASS") ↔
      lookup (text "status") values = some (text "PASS") ∨
        lookup (text "status") values = none ∧
          lookup (text "exit_code") values = some (text "0") := by
  unfold withStatus
  cases hstatus : lookup (text "status") values with
  | some v => simp [hstatus]
  | none =>
    rw [lookup_concat, if_pos rfl]
    simp only [Option.some.injEq, reduceCtorEq, true_and, false_or]
    -- of the exit codes only 0 stands for PASS
    cases hcode : lookup (text "exit_code") values with
    | none => exact iff_of_false (by decide) nofun
    | some code =>
      simp only [Option.getD_some, statusOfExitCode, Option.some.injEq]
      by_cases h20 : code = text "20"
      · subst h20
        exact iff_of_false (by decide) (by decide)
      · by_cases h1 : code = text "1"
        · subst h1
          exact iff_of_false (by decide) (by decide)
        · by_cases h0 : code = text "0"
          · rw [if_neg h20, if_neg h1, if_pos h0]
            exact iff_of_true rfl h0
          · rw [if_neg h20, if_neg h1, if_neg h0]
            exact iff_of_false (by decide) h0

/-- The status that has been filled in changes no other key. -/
theorem lookup_withStatus {key : PyString} (hkey : text "status" ≠ key)
    (values : List (PyString × PyString)) :
    lookup key (withStatus values) = lookup key values := by
  unfold withStatus
  cases lookup (text "status") values with
  | some v => rfl
  | none => rw [lookup_concat, if_neg hkey]

/-- The digests of a manifest are stored one after the other. -/
theorem lookup_manifest (key : PyString) (values : List (PyString × PyString))
    (digests : List PyString) :
    lookup key (values ++ digests.map fun digest => (text "apk_sha256", digest)) =
      if text "apk_sha256" = key then digests.getLast?.or (lookup key values)
      else lookup key values := by
  induction digests using List.reverseRecOn with
  | nil => simp
  | append_singleton digests digest ih =>
    rw [List.map_append, List.map_singleton, ← List.append_assoc, lookup_concat, ih]
    by_cases hkey : text "apk_sha256" = key <;> simp [hkey]

/-- **What `parse_status` returns** for the two keys that decide about a PASS. -/
theorem parseStatus_spec {file : StatusFile} {values : List (PyString × PyString)}
    (h : parseStatus file = .ok values) :
    ∃ content, file.content = .ok content ∧
      lookup (text "status") values = lookup (text "status") (withStatus (keyValues content)) ∧
      ((lookup (text "apk_sha256") values).getD [] = [] ↔
        (lookup (text "apk_sha256") (keyValues content)).getD [] = [] ∧
          ∀ manifest, file.manifest = some (.ok manifest) →
            (manifestDigests manifest).getLast?.getD [] = []) := by
  have hother : text "status" ≠ text "apk_sha256" := by decide
  unfold parseStatus at h
  -- a file that cannot be read makes the whole program raise
  obtain ⟨content, hcontent, h⟩ := exists_of_bind_eq_ok h
  have hdigest := lookup_withStatus hother (keyValues content)
  simp only [hdigest] at h
  refine ⟨content, hcontent, ?_⟩
  -- only a file without a digest of its own has its manifest read
  by_cases hown : (lookup (text "apk_sha256") (keyValues content)).getD [] = []
  · rw [if_pos hown] at h
    cases hmanifest : file.manifest with
    | none =>
      rw [hmanifest] at h
      cases h
      exact ⟨rfl, by simp [hdigest, hown]⟩
    | some read =>
      rw [hmanifest] at h
      obtain ⟨manifest, rfl, h⟩ := exists_of_bind_eq_ok h
      cases h
      rw [lookup_manifest, if_neg (Ne.symm hother), lookup_manifest, if_pos rfl, hdigest]
      refine ⟨rfl, ?_⟩
      cases hlast : (manifestDigests manifest).getLast? with
      | none => simp [hown, hlast]
      | some digest => simp [hown, hlast]
  · rw [if_neg hown] at h
    cases h
    exact ⟨rfl, by simp [hdigest, hown]⟩

/-- So is a `status.txt`, by its status or its exit code. -/
theorem falsePass_statusRecord_iff {file : StatusFile} {record : Record}
    (h : statusRecord file = .ok record) : FalsePass record ↔ file.Undigested := by
  unfold statusRecord at h
  obtain ⟨values, hvalues, h⟩ := exists_of_bind_eq_ok h
  cases h
  obtain ⟨content, hcontent, hstatus, hdigest⟩ := parseStatus_spec hvalues
  have hpass : Json.str ((lookup (text "status") values).getD (text "NOT_TESTED")) =
      .str (text "PASS") ↔ lookup (text "status") values = some (text "PASS") := by
    cases lookup (text "status") values with
    | none => exact iff_of_false (fun h => absurd (Json.str.inj h) (by decide)) nofun
    | some v => simp
  -- a digest that is there is true
  have hfalse : (Json.str ((lookup (text "apk_sha256") values).getD [])).truthy = false ↔
      (lookup (text "apk_sha256") values).getD [] = [] := by
    simp [Json.truthy]
  show _ ∧ _ ↔ _
  rw [hpass, hfalse, hstatus, lookup_status_withStatus, hdigest]
  constructor
  · rintro ⟨hclaims, hown⟩
    exact ⟨content, hcontent, hclaims, hown⟩
  · rintro ⟨content', hcontent', hclaims, hown⟩
    obtain rfl := Except.ok.inj (hcontent.symm.trans hcontent')
    exact ⟨hclaims, hown⟩

/-- The records are those of the files. -/
theorem mem_statusRecords_iff {files : List StatusFile} {records : List Record}
    (h : statusRecords files = .ok records) (record : Record) :
    record ∈ records ↔ ∃ file ∈ files, statusRecord file = .ok record := by
  induction files generalizing records with
  | nil =>
    cases h
    simp
  | cons file files ih =>
    rw [statusRecords] at h
    obtain ⟨first, hfirst, h⟩ := exists_of_bind_eq_ok h
    obtain ⟨rest, hrest, h⟩ := exists_of_bind_eq_ok h
    cases h
    simp [hfirst, ih hrest, eq_comm]

/-- Where all files have been read, each has a record. -/
theorem exists_statusRecord {files : List StatusFile} {records : List Record}
    (h : statusRecords files = .ok records) {file : StatusFile} (hfile : file ∈ files) :
    ∃ record, statusRecord file = .ok record := by
  induction files generalizing records with
  | nil => cases hfile
  | cons f files ih =>
    rw [statusRecords] at h
    obtain ⟨first, hfirst, h⟩ := exists_of_bind_eq_ok h
    obtain ⟨rest, hrest, -⟩ := exists_of_bind_eq_ok h
    obtain rfl | hfile := List.mem_cons.mp hfile
    · exact ⟨first, hfirst⟩
    · exact ih hrest hfile

/-- **A false PASS among the records is one of the files.** -/
theorem exists_falsePass_iff {root : InputRoot} {records : List Record}
    (h : collect root = .ok records) :
    (∃ record ∈ records, FalsePass record) ↔ root.Undigested := by
  unfold collect at h
  obtain ⟨statuses, hstatuses, h⟩ := exists_of_bind_eq_ok h
  cases h
  constructor
  · rintro ⟨record, hrecord, hfalse⟩
    rcases List.mem_append.mp hrecord with hresult | hstatus
    · obtain ⟨file, hfile, hrecord⟩ := List.mem_filterMap.mp hresult
      exact .inl ⟨file, hfile, (falsePass_resultRecord_iff file).mp ⟨record, hrecord, hfalse⟩⟩
    · obtain ⟨file, hfile, hrecord⟩ := (mem_statusRecords_iff hstatuses record).mp hstatus
      exact .inr ⟨file, hfile, (falsePass_statusRecord_iff hrecord).mp hfalse⟩
  · rintro (⟨file, hfile, hfalse⟩ | ⟨file, hfile, hfalse⟩)
    · obtain ⟨record, hrecord, hpass⟩ := (falsePass_resultRecord_iff file).mpr hfalse
      exact ⟨record, List.mem_append_left _ (List.mem_filterMap.mpr ⟨file, hfile, hrecord⟩), hpass⟩
    · -- every status file has a record, as none of them has raised
      obtain ⟨record, hrecord⟩ := exists_statusRecord hstatuses hfile
      refine ⟨record, List.mem_append_right _ ?_, (falsePass_statusRecord_iff hrecord).mpr hfalse⟩
      exact (mem_statusRecords_iff hstatuses record).mpr ⟨file, hfile, hrecord⟩

/-! ## From the summary to the records -/

theorem checked_pass {expected : PyString} {record : Record}
    (h : (checked expected record).status = .str (text "PASS")) :
    checked expected record = record ∧
      (record.apkSha256.truthy = true → record.apkSha256 = .str expected) := by
  unfold checked at h ⊢
  split at h
  · exact absurd (Json.str.inj h) (by decide)
  next hmatch =>
    refine ⟨by rw [if_neg hmatch], fun htruthy => ?_⟩
    simpa [htruthy] using hmatch

/-- **The rule of the summary holds exactly when** no record had a PASS without a digest. -/
theorem noFalsePass_iff_records {expected : PyString} (hexpected : expected ≠ [])
    {summary : Summary} {records : List Record}
    (hrecords : summary.records = records.map (checked expected))
    (hpasses : summary.realDevicePasses = summary.records.countP isRealDevicePass) :
    NoFalsePass expected summary ↔ ¬ ∃ record ∈ records, FalsePass record := by
  constructor
  · rintro ⟨hexact, -⟩ ⟨record, hrecord, hstatus, hdigest⟩
    -- a record without a digest is not touched, and would have to have the artifact's
    have hsame : checked expected record = record := by
      rw [checked, hdigest]
      rfl
    have hmem : record ∈ summary.records := by
      rw [hrecords, ← hsame]
      exact List.mem_map_of_mem hrecord
    rw [hexact record hmem hstatus] at hdigest
    exact hexpected (by simpa [Json.truthy] using hdigest)
  · intro hnone
    have hexact : ∀ record ∈ summary.records, record.status = .str (text "PASS") →
        record.apkSha256 = .str expected := by
      intro record hmem hstatus
      rw [hrecords] at hmem
      obtain ⟨original, horiginal, rfl⟩ := List.mem_map.mp hmem
      obtain ⟨hsame, hdigest⟩ := checked_pass hstatus
      rw [hsame] at hstatus ⊢
      apply hdigest
      by_contra hfalse
      exact hnone ⟨original, horiginal, hstatus, by simpa using hfalse⟩
    refine ⟨hexact, ?_⟩
    -- the count asks for status and device only, and the digest is there with the status
    rw [hpasses]
    apply List.countP_congr
    intro record hmem
    simp only [isRealDevicePass, Bool.and_eq_true, Json.isStr_eq_true_iff]
    constructor
    · rintro ⟨hstatus, hdevice⟩
      exact ⟨⟨hstatus, hexact record hmem hstatus⟩, hdevice⟩
    · rintro ⟨⟨hstatus, -⟩, hdevice⟩
      exact ⟨hstatus, hdevice⟩

section Merge

variable {sha256 : List UInt8 → Digest} {artifact : List UInt8} {root : InputRoot}

theorem merge_eq_ok {summary : Summary} (h : merge sha256 artifact root = .ok summary) :
    ∃ records, collect root = .ok records ∧
      summary.records = records.map (checked (sha256 artifact).hex) ∧
      summary.realDevicePasses = summary.records.countP isRealDevicePass := by
  unfold merge at h
  obtain ⟨records, hcollect, h⟩ := exists_of_bind_eq_ok h
  obtain ⟨keys, -, h⟩ := exists_of_bind_eq_ok h
  cases h
  exact ⟨records, hcollect, rfl, rfl⟩

/-- **No false PASS in the summary, exactly when** no file claims a PASS without a digest. -/
theorem no_false_pass_iff {summary : Summary} (h : merge sha256 artifact root = .ok summary) :
    NoFalsePass (sha256 artifact).hex summary ↔ ¬ root.Undigested := by
  obtain ⟨records, hcollect, hrecords, hpasses⟩ := merge_eq_ok h
  rw [noFalsePass_iff_records (sha256 artifact).hex_ne_nil hrecords hpasses,
    exists_falsePass_iff hcollect]

end Merge

/-- A digest, and two devices that passed with it: one says so itself, of the other the manifest
    beside its status does. -/
def zeroDigest : Digest where
  hex := List.replicate 64 0x30
  length := rfl

def digestedResult : ResultFile where
  path := text "qa/aws/result.json"
  json := .ok (.dict [(text "status", .str (text "PASS")),
    (text "apk_sha256", .str zeroDigest.hex), (text "device_name", .str (text "SMART 9"))])

def digestedStatus : StatusFile where
  path := text "qa/kobiton/status.txt"
  parentName := text "kobiton"
  content := .ok (text "exit_code=0\nserial=R58M\n")
  manifest := some (.ok (text "provider=Kobiton\napk_sha256=" ++ zeroDigest.hex ++ text "\n"))

def digestedRoot : InputRoot where
  results := [digestedResult]
  statuses := [digestedStatus]

/-- Both passes are of the artifact, and are counted. -/
theorem no_false_pass_of_digests :
    ∃ summary, merge (fun _ => zeroDigest) [] digestedRoot = .ok summary ∧
      summary.realDevicePasses = 2 ∧ NoFalsePass zeroDigest.hex summary := by
  obtain ⟨summary, hmerge, hpasses⟩ : ∃ summary,
      merge (fun _ => zeroDigest) [] digestedRoot = .ok summary ∧ summary.realDevicePasses = 2 :=
    ⟨_, rfl, by decide +kernel⟩
  have hdigests : ¬ digestedRoot.Undigested := by
    rintro (⟨file, hfile, value, hvalue, -, hdigest⟩ |
      ⟨file, hfile, content, -, -, -, hmanifest⟩)
    · obtain rfl := List.mem_singleton.mp hfile
      cases hvalue
      exact absurd hdigest (by decide +kernel)
    · obtain rfl := List.mem_singleton.mp hfile
      exact absurd (hmanifest _ rfl) (by decide +kernel)
  exact ⟨summary, hmerge, hpasses, (no_false_pass_iff hmerge).mpr hdigests⟩

/-- The one file of a device that passed without a digest. -/
def undigestedRoot : InputRoot where
  results := [{
    path := text "qa/result.json"
    json := .ok (.dict [(text "status", .str (text "PASS")),
      (text "device_name", .str (text "SMART 9"))]) }]
  statuses := []

theorem pass_without_digest :
    ¬ ∀ (sha256 : List UInt8 → Digest) (artifact : List UInt8) (root : InputRoot)
      (summary : Summary), merge sha256 artifact root = .ok summary →
        NoFalsePass (sha256 artifact).hex summary := by
  intro h
  have hrule := (h (fun _ => zeroDigest) [] undigestedRoot _ rfl).1 _ List.mem_cons_self rfl
  cases hrule

end DarkMed.Engineering.QaSummary
