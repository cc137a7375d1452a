-- SUMMARY: Working in another directory for a while, and going back.
import ScriptExec.ExecError
import ScriptExec.Log.Record
import ScriptExec.Path

/-!
# Working directory

The working directory belongs to the whole process. A context notes it, if it can be read, and goes
elsewhere; the noted directory is entered again once, when the context is restored or dropped,
whichever comes first. A context that noted nothing goes nowhere.
-/

namespace ScriptExec

/-- What a process can do about its working directory, as operations on a state `σ`. A change that
fails leaves the directory as it was. -/
structure Directories (σ : Type) where
  current : σ → Except IoError Path
  change : Path → σ → Except IoError Unit × σ
  log : Log.Record → σ → σ

structure DirectoryContext where
  /-- Where to go back to. -/
  saved : Option Path
  /-- Where the context has gone. -/
  target : Path
  restored : Bool := false
  deriving DecidableEq, Repr

namespace DirectoryContext

variable {σ : Type}

/-- A record about working directories. -/
def record (level : Log.Level) (field message : String) : Log.Record :=
  .of level "exec::workdir" [field] message

/-- Notes the working directory, or why it cannot be read. -/
def save (dirs : Directories σ) (w : σ) : Except IoError Path × σ :=
  match dirs.current w with
  | .ok dir => (.ok dir, w)
  | .error cause =>
    (.error cause,
      dirs.log (record .warn "error" "getcwd failed; working directory will not be restored") w)

/-- Goes to a directory, with what has been noted before. -/
def move (dirs : Directories σ) (saved : Except IoError Path) (target : Path) (w : σ) :
    Except ExecError DirectoryContext × σ :=
  match dirs.change target w with
  | (.error cause, w) => (.error (.directory target cause), w)
  | (.ok (), w) =>
    (.ok { saved := saved.toOption, target }, dirs.log (record .debug "dir" "changed working directory") w)

/-- Notes the working directory and goes to another one. Tells why nothing was noted, if so. -/
def enter (dirs : Directories σ) (target : Path) (w : σ) :
    Except ExecError (DirectoryContext × Option IoError) × σ :=
  let (saved, w) := save dirs w
  match move dirs saved target w with
  | (.error e, w) => (.error e, w)
  | (.ok context, w) =>
    (.ok (context, match saved with
      | .ok _ => none
      | .error cause => some cause), w)

/-- Goes back, unless that has been done or tried before. A failure names the directory. -/
def restore (dirs : Directories σ) (context : DirectoryContext) (w : σ) :
    Except (Path × IoError) Unit × DirectoryContext × σ :=
  let done := { context with restored := true }
  if context.restored then (.ok (), done, w)
  else
    match context.saved with
    | none => (.ok (), done, w)
    | some dir =>
      match dirs.change dir w with
      | (.error cause, w) => (.error (dir, cause), done, w)
      | (.ok (), w) => (.ok (), done, dirs.log (record .debug "dir" "restored working directory") w)

/-- Goes back; a failure is only written to the log. -/
def drop (dirs : Directories σ) (context : DirectoryContext) (w : σ) : σ :=
  match context.restore dirs w with
  | (.ok (), _, w) => w
  | (.error _, _, w) => dirs.log (record .warn "dir" "failed to restore working directory") w

/-- Restoring a second time does nothing. -/
theorem restore_of_restored (dirs : Directories σ) {context : DirectoryContext}
    (h : context.restored = true) (w : σ) : context.restore dirs w = (.ok (), context, w) := by
  cases context
  simp_all [restore]

end DirectoryContext

end ScriptExec
