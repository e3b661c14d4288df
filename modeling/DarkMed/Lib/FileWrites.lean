import DarkMed.Lib.Program
import Mathlib.Logic.Function.Basic

/-!
# Writing Files

The calls with which a program writes a file, each of which can fail, and what they make of the
contents of all files.  A call that fails changes nothing; a file that is opened for writing is
empty from then on, and has one byte more after each byte; a rename takes effect at once.

What others can see of a program is what the calls so far have made of the files, after any of
its calls: a program that calls nothing on a file shows nothing of it but what was there.
-/

namespace DarkMed.Lib

variable {Path : Type}

/-- The contents of the files that are there. -/
abbrev Contents (Path : Type) := Path → Option (List UInt8)

inductive FileCall (Path : Type) where
  | mkdirs (directory : Path)
  | isDirectory (directory : Path)
  /-- Opens a file for writing from its start. -/
  | create (file : Path)
  /-- Writes one byte, behind `offset` others. -/
  | write (file : Path) (offset : Nat) (byte : UInt8)
  | close (file : Path)
  | renameTo (file target : Path)
  deriving DecidableEq, Repr

namespace FileCall

/-- What a call makes of the files when it goes well. -/
def effect [DecidableEq Path] (files : Contents Path) : FileCall Path → Contents Path
  | .mkdirs _ | .isDirectory _ | .close _ => files
  | .create file => Function.update files file (some [])
  | .write file _ byte => Function.update files file ((files file).map (· ++ [byte]))
  | .renameTo file target => Function.update (Function.update files target (files file)) file none

/-- The call can change what the file has. -/
def Touches (file : Path) : FileCall Path → Prop
  | .mkdirs _ | .isDirectory _ | .close _ => False
  | .create f | .write f _ _ => f = file
  | .renameTo f target => f = file ∨ target = file

/-- The calls of writing `bytes`, behind `offset` others. -/
def writes (file : Path) : Nat → List UInt8 → List (FileCall Path)
  | _, [] => []
  | offset, byte :: bytes => .write file offset byte :: writes file (offset + 1) bytes

/-- The calls of `FileOutputStream(file).use { it.write(bytes) }`, where all of them go well. -/
def stream (file : Path) (bytes : List UInt8) : List (FileCall Path) :=
  .create file :: (writes file 0 bytes ++ [.close file])

/-- Writing bytes touches the file that they are for. -/
theorem touches_of_mem_writes {file : Path} {offset : Nat} {bytes : List UInt8}
    {call : FileCall Path} (h : call ∈ writes file offset bytes) {f : Path} :
    call.Touches f ↔ file = f := by
  induction bytes generalizing offset with
  | nil => cases h
  | cons byte bytes ih =>
    rcases List.mem_cons.mp h with rfl | h
    · exact Iff.rfl
    · exact ih h

/-- Writing one file leaves the others alone. -/
theorem not_touches_of_mem_stream {file f : Path} (hne : file ≠ f) {bytes : List UInt8}
    {call : FileCall Path} (h : call ∈ stream file bytes) : ¬ call.Touches f := by
  rcases List.mem_cons.mp h with rfl | h
  · exact hne
  · rcases List.mem_append.mp h with h | h
    · exact mt (touches_of_mem_writes h).mp hne
    · rw [List.mem_singleton.mp h]
      exact not_false

end FileCall

/-! ## Visible states -/

section States

variable [DecidableEq Path] (answers : FileCall Path → Bool)

/-- The files after calls that are answered like this. -/
def Contents.after (files : Contents Path) (calls : List (FileCall Path)) : Contents Path :=
  calls.foldl (fun files call => if answers call then call.effect files else files) files

variable {answers}

/-- One call in front. -/
theorem Contents.after_cons (files : Contents Path) (call : FileCall Path) (calls : List (FileCall Path)) :
    files.after answers (call :: calls) =
      Contents.after answers (if answers call then call.effect files else files) calls := rfl

/-- Calls in two parts. -/
theorem Contents.after_append (files : Contents Path) (calls more : List (FileCall Path)) :
    files.after answers (calls ++ more) = (files.after answers calls).after answers more :=
  List.foldl_append

/-- One call. -/
theorem Contents.after_singleton (files : Contents Path) (call : FileCall Path) :
    files.after answers [call] = if answers call then call.effect files else files := rfl

/-- A file that is opened for writing is empty. -/
theorem FileCall.effect_create (files : Contents Path) (file : Path) :
    (create file).effect files file = some [] :=
  Function.update_self _ _ _

/-- One byte more. -/
theorem FileCall.effect_write (files : Contents Path) (file : Path) (offset : Nat) (byte : UInt8) :
    (write file offset byte).effect files file = (files file).map (· ++ [byte]) :=
  Function.update_self _ _ _

/-- A call leaves the files alone that it does not touch. -/
theorem FileCall.effect_of_not_touches {call : FileCall Path} {file : Path}
    (h : ¬ call.Touches file) (files : Contents Path) : call.effect files file = files file := by
  cases call with
  | mkdirs directory => rfl
  | isDirectory directory => rfl
  | close f => rfl
  | create f => exact Function.update_of_ne (Ne.symm h) _ _
  | write f offset byte => exact Function.update_of_ne (Ne.symm h) _ _
  | renameTo f target =>
    obtain ⟨hf, htarget⟩ := not_or.mp h
    rw [effect, Function.update_of_ne (Ne.symm hf), Function.update_of_ne (Ne.symm htarget)]

/-- **Frame rule**: a file that no call touches, unless the call fails, has what it had. -/
theorem Contents.after_of_not_touches {file : Path} {calls : List (FileCall Path)}
    (h : ∀ call ∈ calls, answers call = true → ¬ call.Touches file) (files : Contents Path) :
    files.after answers calls file = files file := by
  induction calls generalizing files with
  | nil => rfl
  | cons call calls ih =>
    obtain ⟨hcall, hcalls⟩ := List.forall_mem_cons.mp h
    rw [Contents.after_cons, ih hcalls]
    split
    -- a call that fails changes nothing anyway
    next hanswer => exact FileCall.effect_of_not_touches (hcall hanswer) files
    · rfl

/-- Bytes that are written go behind those that are there. -/
theorem Contents.after_writes {file : Path} {offset : Nat} {bytes content : List UInt8}
    (h : ∀ call ∈ FileCall.writes file offset bytes, answers call = true)
    {files : Contents Path} (hfile : files file = some content) :
    files.after answers (FileCall.writes file offset bytes) file = some (content ++ bytes) := by
  induction bytes generalizing offset content files with
  | nil => simpa [FileCall.writes, Contents.after] using hfile
  | cons byte bytes ih =>
    obtain ⟨hfirst, hrest⟩ := List.forall_mem_cons.mp h
    -- the first byte goes behind the content, and the rest behind that
    have hstep : (FileCall.write file offset byte).effect files file = some (content ++ [byte]) := by
      rw [FileCall.effect_write, hfile]
      rfl
    have hafter := ih hrest hstep
    rw [List.append_assoc] at hafter
    rw [FileCall.writes, Contents.after_cons, if_pos hfirst]
    exact hafter

/-- **A stream that goes well** leaves the file with its bytes. -/
theorem Contents.after_stream {file : Path} {bytes : List UInt8}
    (h : ∀ call ∈ FileCall.stream file bytes, answers call = true) (files : Contents Path) :
    files.after answers (FileCall.stream file bytes) file = some bytes := by
  obtain ⟨hopen, hrest⟩ := List.forall_mem_cons.mp h
  -- the file is empty when the first byte is written
  have hwritten := Contents.after_writes
    (fun call hcall => hrest call (List.mem_append_left _ hcall)) (FileCall.effect_create files file)
  rw [FileCall.stream, Contents.after_cons, if_pos hopen, Contents.after_append, Contents.after_singleton]
  split
  · exact hwritten
  · exact hwritten

/-- The target of a rename has what the other file has had. -/
theorem Contents.after_renameTo {file target : Path} (hne : file ≠ target)
    (hrename : answers (.renameTo file target) = true) (files : Contents Path)
    (calls : List (FileCall Path)) :
    files.after answers (calls ++ [.renameTo file target]) target =
      files.after answers calls file := by
  rw [Contents.after_append, Contents.after_singleton, if_pos hrename, FileCall.effect,
    Function.update_of_ne hne.symm, Function.update_self]

/-- **Replacing a file**: where only the last call is on the file, and renames another one to
    it, the file has what it had up to the end, and then what the other one has. -/
theorem Contents.after_prefix_renameTo {file target : Path} (hne : file ≠ target)
    {calls pre : List (FileCall Path)}
    (h : ∀ call ∈ calls, answers call = true → ¬ call.Touches target)
    (files : Contents Path) (hpre : pre <+: calls ++ [.renameTo file target]) :
    files.after answers pre target = files target ∨
      pre = calls ++ [.renameTo file target] ∧ answers (.renameTo file target) = true ∧
        files.after answers pre target = files.after answers calls file := by
  -- all calls have been made, or none of them is on the target yet
  obtain rfl | hpre := List.prefix_concat_iff.mp hpre
  · cases hrename : answers (.renameTo file target) with
    | true => exact .inr ⟨rfl, rfl, Contents.after_renameTo hne hrename files calls⟩
    | false =>
      rw [Contents.after_append, Contents.after_singleton, hrename]
      exact .inl (Contents.after_of_not_touches h files)
  · exact .inl (Contents.after_of_not_touches (fun call hcall => h call (hpre.subset hcall)) files)

end States

end DarkMed.Lib
