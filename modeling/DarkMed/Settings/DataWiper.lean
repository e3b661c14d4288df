import DarkMed.Lib.FileSystem
import DarkMed.Lib.Kotlin
import DarkMed.Lib.Transition
import DarkMed.Settings.ClearAllData
import Mathlib.Data.List.ReduceOption

/-!
# Wiping the Data

`ClearAllDataCoordinator.wipeAfterConfirmation` and `DataWiper.wipeAll`, one call of the file
system at a time.  The services are only asked to stop, so between any two calls a component
may make or remove an entry.

`deleteRecursively` is the standard library's walk from the bottom up: it begins with a test of
what it starts at, lists a directory when it enters it, and deletes what it leaves.
-/

namespace DarkMed.Settings

open DarkMed.Lib DarkMed.Lib.Transition DarkMed.Lib.FileSystem

/-! ## Directories -/

/-- What a `Context` says of its directories. -/
structure Context where
  filesDir : Path JString
  cacheDir : Path JString
  codeCacheDir : Path JString
  /-- `getExternalFilesDir(null)` -/
  externalFilesDir : Option (Path JString)
  externalCacheDir : Option (Path JString)
  noBackupFilesDir : Path JString
  dataDir : Path JString
  deriving DecidableEq, Repr

/-- `File(directory, name)` -/
def child (directory : Path JString) (name : String) : Path JString :=
  ascii name :: directory

/-- The list that `distinctBy` reads. -/
def wipeCandidates (context deviceContext : Context) : List (Path JString) :=
  List.reduceOption [
    some context.filesDir,
    some context.cacheDir,
    some context.codeCacheDir,
    context.externalFilesDir,
    context.externalCacheDir,
    some context.noBackupFilesDir,
    some (child context.dataDir "databases"),
    some (child context.dataDir "shared_prefs"),
    some (child context.dataDir "app_webview"),
    some (child context.dataDir "webview_data"),
    some (child context.dataDir "app_textures"),
    some deviceContext.filesDir,
    some deviceContext.cacheDir,
    some deviceContext.codeCacheDir,
    some deviceContext.noBackupFilesDir,
    some (child deviceContext.dataDir "databases"),
    some (child deviceContext.dataDir "shared_prefs")]

def absolutePath (p : Path JString) : JString :=
  if p = [] then ascii "/" else p.reverse.flatMap fun name => ascii "/" ++ name

/-! ## Platform -/

/-- An exception, by its message. -/
abbrev Thrown := Option JString

/-- How the calls to Android turn out. -/
structure Platform where
  context : Context
  /-- `createDeviceProtectedStorageContext()` -/
  deviceContext : Context
  /-- The entries whose deletion fails. -/
  undeletable : Location JString → Bool
  /-- The directories that cannot be listed. -/
  unreadable : Location JString → Bool
  /-- What `canonicalPath` throws. -/
  canonicalError : Path JString → Option Thrown
  /-- What `commit()` of the cleared preferences returns. -/
  commit : Except Thrown Bool
  /-- What `commit()` leaves of the files. -/
  committed : Files JString → Files JString
  /-- The preferences are written in their own directory. -/
  committed_kept : ∀ (fs : Files JString) (l : Location JString) (node : Node JString),
    fs.tree l = some node →
    ¬ fs.canonicalPath (child context.dataDir "shared_prefs") <:+ l.tail →
    (committed fs).tree l = some node
  /-- The key store is opened in `deleteKey`. -/
  loadForDeletion : Except Thrown Unit
  /-- Whether the entry is gone behind `deleteEntry`. -/
  deleteEntry : Except Thrown Bool
  /-- The key store is opened in `keyExists`. -/
  loadForCheck : Except Thrown Unit

namespace Platform

def candidates (w : Platform) : List (Path JString) :=
  wipeCandidates w.context w.deviceContext

/-- `deleteKey`: whether the alias is still there. -/
def deleteKey (w : Platform) (present : Bool) : Except Thrown Bool := do
  w.loadForDeletion
  if present then
    let gone ← w.deleteEntry
    return !gone
  else
    return false

def keyExists (w : Platform) (present : Bool) : Except Thrown Bool := do
  w.loadForCheck
  return present

end Platform

/-! ## Wiper -/

/-- What `stopProtectedServices` asks for; none of it is waited for. -/
inductive StopRequest where
  /-- `ACTION_CLOSE_ALL_BROWSER_SESSIONS` -/
  | closeAllBrowserSessions
  | torForegroundService
  | darkMedVpnService
  /-- `com.wireguard.android.backend.GoBackend$VpnService` -/
  | wireGuardVpnService
  deriving DecidableEq, Repr

/-- The calls that are still to be made for the directories, each with what it is made on. -/
inductive WipeTask where
  /-- `directory.exists()` -/
  | enter (directory : Path JString)
  /-- `directory.listFiles()` -/
  | list (directory : Path JString)
  /-- `start.isDirectory`, where a walk begins. -/
  | start (child : Path JString)
  /-- `start.isFile` -/
  | single (child : Path JString)
  /-- `root.listFiles()` of a directory in a walk. -/
  | walk (root : Path JString)
  /-- `file.isDirectory` for what such a directory has listed. -/
  | visit (file : Path JString)
  /-- `it.delete()` -/
  | delete (it : Path JString)
  /-- `!it.exists()`, where that failed. -/
  | check (it : Path JString)
  /-- `!deleted || child.exists()` -/
  | verify (child : Path JString)
  /-- `val remaining = directory.listFiles()` -/
  | relist (directory : Path JString)
  /-- `remaining.none { it.exists() }` -/
  | present (directory : Path JString) (remaining : List (Path JString))
  deriving DecidableEq, Repr

inductive WipePhase where
  | stopping (requests : List StopRequest)
  /-- `distinctBy { it.canonicalPath }` -/
  | distinct (rest : List (Path JString))
  | commit
  | wiping (tasks : List WipeTask)
  | deleteKey
  | keyExists
  | returned (result : DataWipeResult)
  deriving DecidableEq, Repr

structure Wiper where
  phase : WipePhase
  files : Files JString
  /-- What `darkmed_secure_metadata` holds. -/
  metadata : List (JString × JString)
  /-- Whether the key store has `darkmed-local-key`. -/
  key : Bool
  /-- The canonical paths that `distinctBy` has met. -/
  seen : List (Location JString) := []
  targets : List (Path JString) := []
  metadataCleared : Bool := false
  /-- What the walk of the current child has come to. -/
  deleted : Bool := true
  successful : Bool := true
  failed : List (Path JString) := []

namespace Wiper

/-- `wipeAfterConfirmation` when it is called. -/
def confirmed (files : Files JString) (metadata : List (JString × JString)) (key : Bool) : Wiper :=
  { phase := .stopping
      [.closeAllBrowserSessions, .torForegroundService, .darkMedVpnService, .wireGuardVpnService]
    files, metadata, key }

/-- `wipeAll` when it is called. -/
def called (w : Platform) (files : Files JString) (metadata : List (JString × JString))
    (key : Bool) : Wiper :=
  { phase := .distinct w.candidates, files, metadata, key }

def goOn (s : Wiper) (tasks : List WipeTask) : Wiper :=
  { s with phase := .wiping tasks }

/-- `wipeDirectoryContents` returns `false`. -/
def fail (s : Wiper) (directory : Path JString) (rest : List WipeTask) : Wiper :=
  { s with phase := .wiping rest, failed := s.failed ++ [directory] }

/-- The `catch` of `wipeAll`. -/
def caught (s : Wiper) (message : Thrown) : Wiper :=
  { s with phase := .returned (.failed (message.getD (ascii "Local data wipe failed"))) }

/-- One call of `wipeDirectoryContents`. -/
def perform (w : Platform) (s : Wiper) (rest : List WipeTask) : WipeTask → Wiper
  | .enter directory =>
    if s.files.exists directory then s.goOn (.list directory :: rest) else s.goOn rest
  | .list directory =>
    match s.files.listFiles w.unreadable directory with
    | none => s.fail directory rest
    | some children =>
      let walks : List WipeTask := children.flatMap fun child => [.start child, .verify child]
      { s with phase := .wiping (walks ++ .relist directory :: rest), successful := true }
  | .start child =>
    let s := { s with deleted := true }
    if s.files.isDirectory child then s.goOn (.walk child :: rest)
    else s.goOn (.single child :: rest)
  -- what is neither a directory nor a file, such as a dangling link, is not walked at all
  | .single child => if s.files.isFile child then s.goOn (.delete child :: rest) else s.goOn rest
  -- a directory that cannot be listed is left without its entries, and deleted as it is
  | .walk root =>
    match s.files.listFiles w.unreadable root with
    | none => s.goOn (.delete root :: rest)
    | some fileList => s.goOn (fileList.map .visit ++ .delete root :: rest)
  | .visit file =>
    if s.files.isDirectory file then s.goOn (.walk file :: rest)
    else s.goOn (.delete file :: rest)
  | .delete it =>
    let (files, done) := s.files.delete w.undeletable it
    { s with phase := .wiping (if done then rest else .check it :: rest), files }
  -- an entry that is gone counts as deleted, whoever has removed it
  | .check it => { s with phase := .wiping rest, deleted := s.deleted && !s.files.exists it }
  | .verify child =>
    { s with
      phase := .wiping rest, successful := s.successful && s.deleted && !s.files.exists child }
  | .relist directory =>
    match s.files.listFiles w.unreadable directory with
    | none => s.fail directory rest
    | some remaining =>
      if s.successful then s.goOn (.present directory remaining :: rest)
      else s.fail directory rest
  | .present _ [] => s.goOn rest
  | .present directory (it :: remaining) =>
    if s.files.exists it then s.fail directory rest
    else s.goOn (.present directory remaining :: rest)

/-- The `when` at the end of `wipeAll`. -/
def outcome (s : Wiper) (keyStillPresent : Bool) : DataWipeResult :=
  let failedPaths := s.failed.map absolutePath ++
    if s.metadataCleared then [] else [ascii "darkmed_secure_metadata"]
  if failedPaths ≠ [] then
    .failed (ascii "Wipe verification failed for: " ++
      (ascii ", ").intercalate failedPaths.eraseDups)
  else if keyStillPresent then .failed (ascii "Android Keystore alias still exists after wipe")
  else .completed

/-- The next call, until `wipeAll` has returned. -/
def advance (w : Platform) (s : Wiper) : Option Wiper :=
  match s.phase with
  | .stopping [] => some { s with phase := .distinct w.candidates }
  | .stopping (_ :: requests) => some { s with phase := .stopping requests }
  | .distinct [] => some { s with phase := .commit }
  | .distinct (it :: rest) =>
    match w.canonicalError it with
    | some message => some (s.caught message)
    | none =>
      let key := s.files.canonicalPath it
      if key ∈ s.seen then some { s with phase := .distinct rest }
      else some { s with
        phase := .distinct rest, seen := s.seen ++ [key], targets := s.targets ++ [it] }
  | .commit =>
    match w.commit with
    | .error message => some (s.caught message)
    | .ok metadataCleared =>
      -- a `commit()` that returns false is reported at the end, and the wipe goes on
      some { s with
        phase := .wiping (s.targets.map .enter)
        files := w.committed s.files
        metadata := if metadataCleared then [] else s.metadata
        metadataCleared }
  | .wiping [] => some { s with phase := .deleteKey }
  | .wiping (task :: rest) => some (s.perform w rest task)
  | .deleteKey =>
    match w.deleteKey s.key with
    | .error message => some (s.caught message)
    | .ok key => some { s with phase := .keyExists, key }
  | .keyExists =>
    match w.keyExists s.key with
    | .error message => some (s.caught message)
    | .ok keyStillPresent => some { s with phase := .returned (s.outcome keyStillPresent) }
  | .returned _ => none

end Wiper

/-! ## Interleavings -/

inductive WipeAction where
  | wiper
  /-- A component that has not stopped makes an entry. -/
  | create (name : JString) (directory : Location JString) (node : Node JString)
  /-- Such a component removes an entry. -/
  | remove (l : Location JString)
  deriving DecidableEq, Repr

namespace Wiper

def isReturned (s : Wiper) : Bool :=
  match s.phase with
  | .returned _ => true
  | _ => false

/-- A step of the wiper or of another component, until `wipeAll` has returned. -/
def step (w : Platform) (s : Wiper) : WipeAction → Option Wiper
  | .wiper => s.advance w
  | .create name directory node =>
    if s.isReturned then none
    else if h : isDir s.files.tree directory = true ∧ s.files.tree (name :: directory) = none then
      some { s with files := s.files.create name directory node h.1 h.2 }
    else none
  | .remove l =>
    if s.isReturned || (s.files.tree l).isNone then none
    else if h : s.files.names l = [] then some { s with files := s.files.remove l h }
    else none

/-- If nothing else happens, `wipeAll` is called behind the stop requests. -/
theorem run_confirmed (w : Platform) (files : Files JString) (metadata : List (JString × JString))
    (key : Bool) :
    run (step w) (confirmed files metadata key) (List.replicate 5 .wiper) =
      some (called w files metadata key) := rfl

end Wiper

end DarkMed.Settings
