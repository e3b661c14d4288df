import DarkMed.Lib.FileWrites
import DarkMed.Lib.Unicode
import DarkMed.Settings.DataWiper
import DarkMed.Torrc.Renderer
import DarkMed.Tun2Socks.Renderer

/-!
# Writing the Configurations

`TorConfigWriter` and `Tun2SocksConfigWriter`, call by call, with every call free to fail.

The second one writes to a temporary file, which takes the place of `config.yml` when it is
complete: at any point the engine reads the old configuration or the new one.  The first one
opens `torrc` itself, so from the first byte on there is neither, and a write that fails leaves
what has been written so far.

Either file has the text itself only where all surrogates of it are paired.
-/

namespace DarkMed.Network

open DarkMed.Lib DarkMed.Lib.FileSystem DarkMed.Lib.Program
open DarkMed.Settings (child absolutePath)
open DarkMed.Torrc (TorLocalConfig)
open DarkMed.Tun2Socks (Tun2SocksConfig)

/-! ## Writers -/

inductive WriteFailure where
  /-- `IllegalArgumentException` of a `require` -/
  | failedRequirement (message : String)
  | ioException
  deriving DecidableEq, Repr

/-- The body of a `runCatching`. -/
abbrev Writer (α : Type) :=
  Procedure (FileCall (Path JString)) (fun _ => Bool) Unit WriteFailure α

/-- `require(condition) { message }` -/
def requirement (condition : Bool) (message : String) : Writer Unit :=
  liftResult (if condition then .ok () else .error (.failedRequirement message))

/-- A text, or what its renderer throws. -/
def rendering (rendered : Except String JString) : Writer JString :=
  liftResult (rendered.mapError .failedRequirement)

/-- `file.writeText(text)` -/
def writeText (file : Path JString) (text : JString) : Writer Unit :=
  attemptAll .ioException (FileCall.stream file (utf8 text.written))

namespace TorConfigWriter

def dataDirectory (filesDir : Path JString) : JString :=
  absolutePath (child filesDir "tor-data")

/-- `write`, where `torrc` is the file of `TorService.getTorrc`. -/
def write (torrc filesDir : Path JString) (config : TorLocalConfig) : Writer (Path JString) := do
  let _ ← ask (.mkdirs torrc.tail)
  let text ← rendering (Torrc.render config (dataDirectory filesDir))
  writeText torrc text
  return torrc

end TorConfigWriter

namespace Tun2SocksConfigWriter

def directory (filesDir : Path JString) : Path JString :=
  child filesDir "tun2socks"

def target (filesDir : Path JString) : Path JString :=
  child (directory filesDir) "config.yml"

def temporary (filesDir : Path JString) : Path JString :=
  child (directory filesDir) "config.yml.tmp"

/-- `directory.mkdirs() || directory.isDirectory` -/
def made (filesDir : Path JString) : Writer Bool := do
  let created ← ask (.mkdirs (directory filesDir))
  if created then return true
  else ask (.isDirectory (directory filesDir))

def write (filesDir : Path JString) (config : Tun2SocksConfig) : Writer (Path JString) := do
  let isDirectory ← made filesDir
  requirement isDirectory "Unable to create TUN2Socks directory"
  let text ← rendering (Tun2Socks.render config)
  writeText (temporary filesDir) text
  let renamed ← ask (.renameTo (temporary filesDir) (target filesDir))
  requirement renamed "Unable to commit TUN2Socks config"
  return target filesDir

end Tun2SocksConfigWriter

/-! ## Atomic writes -/

/-- The content is the text, in UTF-8. -/
def HasText (content : Option (List UInt8)) (text : JString) : Prop :=
  ∃ characters, text = utf16 characters ∧ content = some (utf8 characters)

/-- A content that is a text is its encoding. -/
theorem HasText.eq {content : Option (List UInt8)} {text : JString} (h : HasText content text) :
    content = some (utf8 text.written) := by
  obtain ⟨characters, rfl, hcontent⟩ := h
  have hwritten : (utf16 characters).written = characters := by
    simp [JString.written, JString.chars_utf16]
  rwa [hwritten]

/-- A file holds a text exactly when the text survives the encoding, that is, has no lone
    surrogate. -/
theorem hasText_written_iff {text : JString} :
    HasText (some (utf8 text.written)) text ↔ text.Paired := by
  constructor
  · rintro ⟨characters, rfl, -⟩
    exact JString.paired_utf16 characters
  · intro h
    exact ⟨text.written, (JString.utf16_written h).symm, rfl⟩

section Atomic

variable (answers : FileCall (Path JString) → Bool) (files : Contents (Path JString))

/-- A writer that fails leaves the file as it was, and one that succeeds leaves the rendered text;
    after none of its calls the file has anything else. -/
structure Atomic (file : Path JString) (rendered : Except String JString)
    (writer : Writer (Path JString)) : Prop where
  failed : ∀ failure, (ending answers writer ()).1 = .error failure →
    files.after answers (calls answers writer ()) file = files file
  succeeded : ∀ path, (ending answers writer ()).1 = .ok path →
    ∃ text, rendered = .ok text ∧ HasText (files.after answers (calls answers writer ()) file) text
  visible : ∀ pre, pre <+: calls answers writer () →
    files.after answers pre file = files file ∨
      ∃ text, rendered = .ok text ∧ HasText (files.after answers pre file) text

/-- No byte of a text gets into `torrc`, and if the file is emptied it was empty before. -/
def LeavesTorrc (torrc : Path JString) (rendered : Except String JString) : Prop :=
  ∀ text, rendered = .ok text → answers (.create torrc) = true →
    files torrc = some [] ∧
      ∀ byte ∈ (utf8 text.written).head?, answers (.write torrc 0 byte) = false

/-- All calls go well, the rename included. -/
structure Commits (filesDir : Path JString) (text : JString) : Prop where
  directory : answers (.mkdirs (Tun2SocksConfigWriter.directory filesDir)) = true ∨
    answers (.isDirectory (Tun2SocksConfigWriter.directory filesDir)) = true
  stream : ∀ call ∈ FileCall.stream (Tun2SocksConfigWriter.temporary filesDir) (utf8 text.written),
    answers call = true
  renameTo : answers (.renameTo (Tun2SocksConfigWriter.temporary filesDir)
    (Tun2SocksConfigWriter.target filesDir)) = true

end Atomic

section Writers

variable {answers : FileCall (Path JString) → Bool} {files : Contents (Path JString)}
  {file : Path JString} {rendered : Except String JString} {writer : Writer (Path JString)}
  {calls : List (FileCall (Path JString))} {failure : WriteFailure}

theorem runs_ask (call : FileCall (Path JString)) :
    Runs answers (ask call : Writer Bool) () [call] (.ok (answers call)) () :=
  Runs.ask call

theorem runs_requirement (message : String) :
    Runs answers (requirement true message) () [] (.ok ()) () ∧
      Runs answers (requirement false message) () [] (.error (.failedRequirement message)) () :=
  ⟨Runs.liftResult _, Runs.liftResult _⟩

theorem runs_rendering {text : JString}
    (h : rendered = .ok text) : Runs answers (rendering rendered) () [] (.ok text) () := by
  rw [h]
  exact Runs.liftResult _

theorem runs_rendering_error {message : String}
    (h : rendered = .error message) :
    Runs answers (rendering rendered) () [] (.error (.failedRequirement message)) () := by
  rw [h]
  exact Runs.liftResult _

/-- A text is written, or a call on its file fails. -/
theorem runs_writeText (file : Path JString) (text : JString) :
    ((∀ call ∈ FileCall.stream file (utf8 text.written), answers call = true) ∧
      Runs answers (writeText file text) () (FileCall.stream file (utf8 text.written)) (.ok ()) ()) ∨
    ∃ calls, (¬ ∀ call ∈ FileCall.stream file (utf8 text.written), answers call = true) ∧
      Runs answers (writeText file text) () calls (.error .ioException) () ∧
      ∀ call ∈ calls, call ∈ FileCall.stream file (utf8 text.written) := by
  obtain hall | ⟨pre, call, rest, hstream, hpre, hcall⟩ :=
    all_or_exists_first answers (FileCall.stream file (utf8 text.written))
  · exact .inl ⟨hall, Runs.attemptAll hall⟩
  · refine .inr ⟨pre ++ [call], fun hall => ?_, ?_, fun c hc => ?_⟩
    · have hyes := hall call (by rw [hstream]; exact List.mem_append_right pre List.mem_cons_self)
      exact absurd (hcall.symm.trans hyes) nofun
    · rw [writeText, hstream]
      exact Runs.attemptAll_error hpre hcall
    · rw [hstream, List.append_cons]
      exact List.mem_append_left rest hc

/-- A writer that throws, with the file as it was all the way. -/
theorem atomic_of_unchanged (hrun : Runs answers writer () calls (.error failure) ())
    (h : ∀ pre, pre <+: calls → files.after answers pre file = files file) :
    Atomic answers files file rendered writer where
  failed _ _ := by
    rw [hrun.calls_eq]
    exact h calls (List.prefix_refl calls)
  succeeded path hpath := absurd ((congrArg Prod.fst hrun.ending_eq).symm.trans hpath) nofun
  visible pre hpre := by
    rw [hrun.calls_eq] at hpre
    exact .inl (h pre hpre)

/-- A writer that fails and spares the file on every call that succeeds is atomic. -/
theorem atomic_of_spares (hrun : Runs answers writer () calls (.error failure) ())
    (hspares : ∀ call ∈ calls, answers call = true → ¬ call.Touches file) :
    Atomic answers files file rendered writer := by
  refine atomic_of_unchanged hrun fun pre hpre => ?_
  exact Contents.after_of_not_touches (fun call hcall => hspares call (hpre.subset hcall)) files

end Writers

/-! ## The engine's configuration -/

section Tun2Socks

variable {answers : FileCall (Path JString) → Bool} {files : Contents (Path JString)}
  {filesDir : Path JString} {config : Tun2SocksConfig}

/-- The temporary file is another one than the target. -/
theorem temporary_ne_target :
    Tun2SocksConfigWriter.temporary filesDir ≠ Tun2SocksConfigWriter.target filesDir := by
  intro h
  have hname := (List.cons.inj h).1
  exact absurd hname (by decide)

/-- The directory is asked for once or twice. -/
theorem runs_made : ∃ calls,
    Runs answers (Tun2SocksConfigWriter.made filesDir) () calls
      (.ok (answers (.mkdirs (Tun2SocksConfigWriter.directory filesDir)) ||
        answers (.isDirectory (Tun2SocksConfigWriter.directory filesDir)))) () ∧
    ∀ call ∈ calls, ¬ call.Touches (Tun2SocksConfigWriter.target filesDir) := by
  have hasked := @runs_ask answers
    (.mkdirs (Tun2SocksConfigWriter.directory filesDir))
  cases hcreated : answers (.mkdirs (Tun2SocksConfigWriter.directory filesDir)) with
  | true =>
    rw [hcreated] at hasked
    exact ⟨_, hasked.bind (Runs.pure true), by simp [FileCall.Touches]⟩
  | false =>
    rw [hcreated] at hasked
    exact ⟨_, hasked.bind (Runs.ask _), by simp [FileCall.Touches]⟩

/-- **`Tun2SocksConfigWriter.write`** commits the text, or throws without a call on the target that
    goes well. -/
theorem runs_write (filesDir : Path JString) (config : Tun2SocksConfig) :
    (∃ text calls, Tun2Socks.render config = .ok text ∧ Commits answers filesDir text ∧
      Runs answers (Tun2SocksConfigWriter.write filesDir config) ()
        ((calls ++ FileCall.stream (Tun2SocksConfigWriter.temporary filesDir) (utf8 text.written)) ++
          [.renameTo (Tun2SocksConfigWriter.temporary filesDir)
            (Tun2SocksConfigWriter.target filesDir)])
        (.ok (Tun2SocksConfigWriter.target filesDir)) () ∧
      ∀ call ∈ calls, ¬ call.Touches (Tun2SocksConfigWriter.target filesDir)) ∨
    ∃ calls failure, (∀ text, Tun2Socks.render config = .ok text → ¬ Commits answers filesDir text) ∧
      Runs answers (Tun2SocksConfigWriter.write filesDir config) () calls (.error failure) () ∧
      ∀ call ∈ calls, answers call = true →
        ¬ call.Touches (Tun2SocksConfigWriter.target filesDir) := by
  obtain ⟨calls, hmade, hspared⟩ := @runs_made answers filesDir
  have hspares : ∀ call ∈ calls, answers call = true →
      ¬ call.Touches (Tun2SocksConfigWriter.target filesDir) := fun call hcall _ => hspared call hcall
  obtain ⟨hrequired, hunmade⟩ := @runs_requirement answers "Unable to create TUN2Socks directory"
  obtain ⟨hcommitted, hunnamed⟩ := @runs_requirement answers "Unable to commit TUN2Socks config"
  cases hdirectory : answers (.mkdirs (Tun2SocksConfigWriter.directory filesDir)) ||
      answers (.isDirectory (Tun2SocksConfigWriter.directory filesDir)) with
  | false =>
    rw [hdirectory] at hmade
    refine .inr ⟨calls ++ [], _, fun text _ hcommits => ?_, hmade.bind hunmade.bind_error, ?_⟩
    · have hmakes := hcommits.directory
      rw [← Bool.or_eq_true, hdirectory] at hmakes
      cases hmakes
    · rwa [List.append_nil]
  | true =>
    rw [hdirectory] at hmade
    cases hrender : Tun2Socks.render config with
    | error message =>
      have hrendering := @runs_rendering_error answers _ message hrender
      refine .inr ⟨calls ++ [], _, nofun,
        hmade.bind (hrequired.bind hrendering.bind_error), ?_⟩
      rwa [List.append_nil]
    | ok text =>
      have hrendering := @runs_rendering answers _ text hrender
      have hother : ∀ call ∈ FileCall.stream (Tun2SocksConfigWriter.temporary filesDir)
          (utf8 text.written), ¬ call.Touches (Tun2SocksConfigWriter.target filesDir) :=
        fun call => FileCall.not_touches_of_mem_stream temporary_ne_target
      obtain ⟨hstream, hwrites⟩ | ⟨attempts, hfails, hwrites, hattempts⟩ :=
        @runs_writeText answers (Tun2SocksConfigWriter.temporary filesDir) text
      · have hasked := @runs_ask answers
          (.renameTo (Tun2SocksConfigWriter.temporary filesDir) (Tun2SocksConfigWriter.target filesDir))
        cases hrename : answers (.renameTo (Tun2SocksConfigWriter.temporary filesDir)
            (Tun2SocksConfigWriter.target filesDir)) with
        | true =>
          rw [hrename] at hasked
          refine .inl ⟨text, calls, rfl, ⟨?_, hstream, hrename⟩, ?_, hspared⟩
          · rwa [← Bool.or_eq_true]
          · rw [List.append_assoc]
            exact hmade.bind (hrequired.bind (hrendering.bind (hwrites.bind (hasked.bind
              (hcommitted.bind (Runs.pure (Tun2SocksConfigWriter.target filesDir)))))))
        | false =>
          rw [hrename] at hasked
          refine .inr ⟨calls ++ (FileCall.stream (Tun2SocksConfigWriter.temporary filesDir)
              (utf8 text.written) ++ [.renameTo (Tun2SocksConfigWriter.temporary filesDir)
              (Tun2SocksConfigWriter.target filesDir)]), _, fun other hother hcommits => ?_,
            hmade.bind (hrequired.bind (hrendering.bind (hwrites.bind (hasked.bind
              hunnamed.bind_error)))), ?_⟩
          · exact absurd (hrename.symm.trans hcommits.renameTo) nofun
          · intro call hcall hanswer
            rcases List.mem_append.mp hcall with hcall | hcall
            · exact hspared call hcall
            · rcases List.mem_append.mp hcall with hcall | hcall
              · exact hother call hcall
              · rw [List.mem_singleton.mp hcall] at hanswer
                exact absurd (hrename.symm.trans hanswer) nofun
      · refine .inr ⟨_, _, fun other hrendered hcommits => ?_,
          hmade.bind (hrequired.bind (hrendering.bind hwrites.bind_error)), ?_⟩
        · obtain rfl := Except.ok.inj hrendered
          exact hfails hcommits.stream
        · intro call hcall _
          rcases List.mem_append.mp hcall with hcall | hcall
          · exact hspared call hcall
          · exact hother call (hattempts call hcall)

/-- **The engine's configuration** is written atomically exactly where a text that is committed
    has its surrogates in pairs. -/
theorem tun2socks_atomic_iff :
    Atomic answers files (Tun2SocksConfigWriter.target filesDir) (Tun2Socks.render config)
        (Tun2SocksConfigWriter.write filesDir config) ↔
      ∀ text, Tun2Socks.render config = .ok text → Commits answers filesDir text → text.Paired := by
  obtain ⟨text, calls, hrender, hcommits, hrun, hspared⟩ | ⟨calls, failure, hnot, hrun, hspares⟩ :=
    @runs_write answers filesDir config
  · have hfile : ∀ call ∈ calls ++ FileCall.stream (Tun2SocksConfigWriter.temporary filesDir)
        (utf8 text.written), answers call = true →
          ¬ call.Touches (Tun2SocksConfigWriter.target filesDir) := by
      intro call hcall _
      rcases List.mem_append.mp hcall with hcall | hcall
      · exact hspared call hcall
      · exact FileCall.not_touches_of_mem_stream temporary_ne_target hcall
    have hwritten : files.after answers (calls ++
        FileCall.stream (Tun2SocksConfigWriter.temporary filesDir) (utf8 text.written))
          (Tun2SocksConfigWriter.temporary filesDir) = some (utf8 text.written) := by
      rw [Contents.after_append]
      exact Contents.after_stream hcommits.stream _
    have hcontent := (Contents.after_renameTo temporary_ne_target hcommits.renameTo files _).trans
      hwritten
    constructor
    · -- the commit went through, so an atomic writer has written the whole text
      intro hatomic other hother _
      obtain rfl := Except.ok.inj (hrender.symm.trans hother)
      obtain ⟨same, hsame, htext⟩ := hatomic.succeeded _ (congrArg Prod.fst hrun.ending_eq)
      obtain rfl := Except.ok.inj (hrender.symm.trans hsame)
      rw [hrun.calls_eq, hcontent] at htext
      exact hasText_written_iff.mp htext
    · intro hpaired
      have htext : HasText (some (utf8 text.written)) text :=
        hasText_written_iff.mpr (hpaired text hrender hcommits)
      refine ⟨fun failure hfailure => ?_, fun path _ => ?_, fun pre hpre => ?_⟩
      · exact absurd ((congrArg Prod.fst hrun.ending_eq).symm.trans hfailure) nofun
      · rw [hrun.calls_eq, hcontent]
        exact ⟨text, hrender, htext⟩
      · rw [hrun.calls_eq] at hpre
        obtain hold | ⟨-, -, hnew⟩ :=
          Contents.after_prefix_renameTo temporary_ne_target hfile files hpre
        · exact .inl hold
        · rw [hnew, hwritten]
          exact .inr ⟨text, hrender, htext⟩
  · exact iff_of_true (atomic_of_spares hrun hspares)
      fun text hrender hcommits => absurd hcommits (hnot text hrender)

end Tun2Socks

/-! ## Tor's configuration -/

section Tor

variable {answers : FileCall (Path JString) → Bool} {files : Contents (Path JString)}
  {torrc filesDir : Path JString} {config : TorLocalConfig} {text : JString}

/-- Every text begins with `ClientOnly`, and so with two bytes. -/
theorem exists_bytes_of_render {dataDirectory : JString}
    (h : Torrc.render config dataDirectory = .ok text) :
    ∃ first second bytes, utf8 text.written = first :: second :: bytes := by
  obtain ⟨rest, rfl⟩ : ∃ rest, text = ascii "Cl" ++ rest := by
    rw [(Torrc.render_eq_ok h).2]
    exact ⟨_, rfl⟩
  refine ⟨0x43, 0x6C, utf8 rest.written, ?_⟩
  rw [Tun2Socks.written_ascii_append (by decide)]
  rfl

/-- Behind a text that is rendered, the file is opened at once. -/
theorem prefix_calls_write (hrender : Torrc.render config
      (TorConfigWriter.dataDirectory filesDir) = .ok text) :
    FileCall.mkdirs torrc.tail :: calls answers (writeText torrc text) () <+:
      calls answers (TorConfigWriter.write torrc filesDir config) () := by
  have hrun : Runs answers (TorConfigWriter.write torrc filesDir config) () _ _ _ :=
    (Runs.ask (FileCall.mkdirs torrc.tail)).bind ((runs_rendering hrender).bind (Runs.run _ ()))
  rw [hrun.calls_eq]
  exact (List.prefix_cons_inj _).mpr (prefix_calls_bind (writeText torrc text) _ ())

theorem after_mkdirs (directory : Path JString) (calls : List (FileCall (Path JString))) :
    Contents.after answers files (.mkdirs directory :: calls) = files.after answers calls := by
  rw [Contents.after_cons]
  split
  · rfl
  · rfl

/-- **Tor's configuration** is written atomically exactly where it is not written. -/
theorem tor_atomic_iff :
    Atomic answers files torrc (Torrc.render config (TorConfigWriter.dataDirectory filesDir))
        (TorConfigWriter.write torrc filesDir config) ↔
      LeavesTorrc answers files torrc
        (Torrc.render config (TorConfigWriter.dataDirectory filesDir)) := by
  have hmade := @runs_ask answers (FileCall.mkdirs torrc.tail)
  constructor
  · intro hatomic text hrender hcreate
    obtain ⟨first, second, bytes, hbytes⟩ := exists_bytes_of_render hrender
    have htrace := @prefix_calls_write answers torrc filesDir config text hrender
    -- what is visible is the old content, as it is shorter than the text
    have hvisible : ∀ calls content, calls <+: Program.calls answers (writeText torrc text) () →
        files.after answers calls torrc = some content → content.length < 2 →
          files torrc = some content := by
      intro calls content hcalls hcontent hlength
      have hpre := ((List.prefix_cons_inj (FileCall.mkdirs torrc.tail)).mpr hcalls).trans htrace
      obtain hold | ⟨other, hother, htext⟩ := hatomic.visible _ hpre
      · rw [← hold, after_mkdirs, hcontent]
      · obtain rfl := Except.ok.inj (hrender.symm.trans hother)
        rw [after_mkdirs, hcontent] at htext
        have hwhole := Option.some.inj htext.eq
        rw [hwhole, hbytes, List.length_cons, List.length_cons] at hlength
        omega
    -- the stream truncates the file before the first byte is out
    have hcreated : files.after answers [.create torrc] torrc = some [] := by
      rw [Contents.after_singleton, if_pos hcreate, FileCall.effect_create]
    have hempty : files torrc = some [] := by
      refine hvisible _ [] ?_ hcreated Nat.zero_lt_two
      exact prefix_calls_attemptAll (List.forall_mem_nil _)
    refine ⟨hempty, fun byte hbyte => ?_⟩
    rw [hbytes] at hbyte
    obtain rfl := Option.some.inj hbyte
    refine Bool.eq_false_iff.mpr fun hwrite => ?_
    have hwritten : files.after answers [.create torrc, .write torrc 0 first] torrc =
        some [first] := by
      rw [Contents.after_cons, if_pos hcreate, Contents.after_singleton, if_pos hwrite,
        FileCall.effect_write, FileCall.effect_create]
      rfl
    have hfirst : files torrc = some [first] := by
      refine hvisible _ [first] ?_ hwritten Nat.one_lt_two
      rw [writeText, hbytes]
      exact prefix_calls_attemptAll (List.forall_mem_singleton.mpr hcreate)
    exact absurd (hempty.symm.trans hfirst) nofun
  · intro hleaves
    cases hrender : Torrc.render config (TorConfigWriter.dataDirectory filesDir) with
    | error message =>
      have hrun : Runs answers (TorConfigWriter.write torrc filesDir config) () _ _ _ :=
        hmade.bind (runs_rendering_error hrender).bind_error
      refine atomic_of_spares hrun fun call hcall _ => ?_
      rw [List.append_nil, List.mem_singleton] at hcall
      rw [hcall]
      exact not_false
    | ok text =>
      obtain ⟨first, second, bytes, hbytes⟩ := exists_bytes_of_render hrender
      have hrendering := @runs_rendering answers _ text hrender
      cases hcreate : answers (.create torrc) with
      | false =>
        have hopens : Runs answers (writeText torrc text) () [.create torrc]
            (.error .ioException) () :=
          Runs.attemptAll_error (List.forall_mem_nil _) hcreate
        have hrun : Runs answers (TorConfigWriter.write torrc filesDir config) ()
            [.mkdirs torrc.tail, .create torrc] (.error .ioException) () :=
          hmade.bind (hrendering.bind hopens.bind_error)
        refine atomic_of_spares hrun fun call hcall hanswer => ?_
        rcases List.mem_cons.mp hcall with rfl | hcall
        · exact not_false
        · rw [List.mem_singleton.mp hcall, hcreate] at hanswer
          cases hanswer
      | true =>
        obtain ⟨hempty, hfirst⟩ := hleaves text hrender hcreate
        have hwrite : answers (.write torrc 0 first) = false :=
          hfirst first (by rw [hbytes]; rfl)
        have hopens : Runs answers (writeText torrc text) ()
            [.create torrc, .write torrc 0 first] (.error .ioException) () := by
          rw [writeText, hbytes]
          exact Runs.attemptAll_error (List.forall_mem_singleton.mpr hcreate) hwrite
        have hrun : Runs answers (TorConfigWriter.write torrc filesDir config) ()
            [.mkdirs torrc.tail, .create torrc, .write torrc 0 first] (.error .ioException) () :=
          hmade.bind (hrendering.bind hopens.bind_error)
        refine atomic_of_unchanged hrun fun pre hpre => ?_
        -- the file is opened, and is as empty as it was
        obtain rfl | ⟨rest, rfl, hrest⟩ := List.prefix_cons_iff.mp hpre
        · rfl
        · rw [after_mkdirs]
          obtain rfl | ⟨last, rfl, hlast⟩ := List.prefix_cons_iff.mp hrest
          · rfl
          · rw [Contents.after_cons, if_pos hcreate, Contents.after_of_not_touches ?_ _,
              FileCall.effect_create, hempty]
            intro call hcall hanswer
            rw [List.mem_singleton.mp (hlast.subset hcall), hwrite] at hanswer
            cases hanswer

end Tor

/-! ## Both writers -/

/-- **The configuration writers.**  `Tun2SocksConfigWriter` fails atomically and writes what was
    rendered, whichever calls fail, but for a text with an unpaired surrogate that it commits;
    `TorConfigWriter` does only where not one byte gets into the file. -/
theorem config_writers_atomic_iff (answers : FileCall (Path JString) → Bool)
    (files : Contents (Path JString)) (torrc filesDir : Path JString)
    (torConfig : TorLocalConfig) (config : Tun2SocksConfig) :
    (Atomic answers files torrc (Torrc.render torConfig (TorConfigWriter.dataDirectory filesDir))
        (TorConfigWriter.write torrc filesDir torConfig) ↔
      LeavesTorrc answers files torrc
        (Torrc.render torConfig (TorConfigWriter.dataDirectory filesDir))) ∧
    (Atomic answers files (Tun2SocksConfigWriter.target filesDir) (Tun2Socks.render config)
        (Tun2SocksConfigWriter.write filesDir config) ↔
      ∀ text, Tun2Socks.render config = .ok text → Commits answers filesDir text → text.Paired) :=
  ⟨tor_atomic_iff, tun2socks_atomic_iff⟩

/-- The disk is full behind three bytes of a `torrc` that had a configuration. -/
theorem full_disk_truncates_torrc :
    ¬ ∀ (answers : FileCall (Path JString) → Bool) (files : Contents (Path JString))
      (torrc filesDir : Path JString) (torConfig : TorLocalConfig) (config : Tun2SocksConfig),
      Atomic answers files torrc (Torrc.render torConfig (TorConfigWriter.dataDirectory filesDir))
          (TorConfigWriter.write torrc filesDir torConfig) ∧
        Atomic answers files (Tun2SocksConfigWriter.target filesDir) (Tun2Socks.render config)
          (Tun2SocksConfigWriter.write filesDir config) := by
  intro h
  have hatomic := (h (fun call => !(call matches .write _ 3 _)) (fun _ => some [0x23])
    [ascii "torrc"] [ascii "files"] {} {}).1
  obtain ⟨text, hrender⟩ : ∃ text, Torrc.render {}
      (TorConfigWriter.dataDirectory [ascii "files"]) = .ok text := by
    have hok : (Torrc.render {} (TorConfigWriter.dataDirectory [ascii "files"])).isOk = true := by
      decide
    exact ⟨_, Torrc.render_of_isOk hok⟩
  have hempty := (tor_atomic_iff.mp hatomic text hrender rfl).1
  cases hempty

end DarkMed.Network
