-- SUMMARY: Replacing the content of a file as a whole, one system call at a time.
import ScriptExec.Host.System

/-!
# Replacing files

A file is replaced by writing a new file beside it and renaming that over it, so its name leads to the
complete old content or to the complete new one at every moment. If a step fails, the new file is taken
away again.

Each step is one system call, so what others see between two calls can be told
(`Replacement.step`). Every step comes closer to the end (`Replacement.step_lt`), whatever the host
answers.
-/

namespace ScriptExec.Host

/-- Why a file was not replaced: a failure, and the path that its message names, if it names one. -/
structure ReplaceError where
  cause : IoError
  path : Option Path := none
  deriving DecidableEq, Repr

/-- A temporary file: its place, and its path for messages. -/
structure Temporary where
  place : Place
  path : Path
  deriving Repr

namespace System

/-- The `n`th name to try for a temporary file. Messages show all of them as the first one. -/
def temporaryName (n : Nat) : Bytes :=
  utf8 ".tmp" ++ if n = 0 then utf8 "XXXXXX" else (Decimal.ofNat (1000000 + n)).drop 1

/-- How many names are tried for a temporary file. -/
def maxNames : Nat := 65536

/-- The first free name from the `n`th on, if it is among so many. -/
def firstName (isFree : Bytes → Bool) (n : Nat) : Nat → Option Bytes
  | 0 => none
  | tries + 1 =>
    if isFree (temporaryName n) then some (temporaryName n) else firstName isFree (n + 1) tries

/-- A name for a temporary file. Names are drawn at random, so it is none that occurs anywhere: in a
directory, on the way of a symbolic link, or in the path of the target. -/
def freshName (sys : System) (target : Path) : Option Bytes :=
  firstName (fun name => !(sys.tree.mentions name || target.segments.contains name)) 0 maxNames

/-- The directory in which the temporary file for a target is made, named from the top. -/
def temporaryDir (sys : System) (target : Path) : Except IoError Path :=
  let dir := match Path.parent? target with
    | some (b :: rest) => b :: rest
    | _ => Path.here
  if Path.isAbsolute dir then .ok dir
  else sys.currentDir.map fun cwd => Path.join cwd dir

/-- The failure to find a name for a temporary file. -/
def namesExhausted : IoError := .custom .alreadyExists "too many temporary files exist"

/-- Makes an empty file beside the target. -/
def createTemporary (sys : System) (target : Path) : Except ReplaceError (Temporary × System) :=
  match sys.temporaryDir target with
  | .error cause => .error { cause }
  | .ok dir =>
    match sys.freshName target with
    | none => .error { cause := namesExhausted, path := some dir }
    | some name =>
      let shown := Path.join dir (temporaryName 0)
      let made : Except IoError (Place × System) := do
        checkPath (Path.join dir name)
        if sys.freeDescriptor?.isNone then .error .tooManyFiles
        else
          let place ← sys.tree.locate sys.cwd false (Path.join dir name)
          let (id, tree) ← sys.tree.create place.dir place.name ⟨0o600, .regular []⟩
          return ({ place with node := some id }, { sys with tree })
      match made with
      | .ok (place, sys) => .ok ({ place, path := shown }, sys)
      | .error cause => .error { cause, path := some shown }

/-- The system after the temporary file got some content. -/
def fillTemporary (sys : System) (temporary : Temporary) (data : Bytes) : System :=
  match temporary.place.node with
  | some id => { sys with tree := sys.tree.setContent id (.regular data) }
  | none => sys

/-- Takes the temporary file away again. -/
def discardTemporary (sys : System) (temporary : Temporary) : System :=
  { sys with tree := sys.tree.dropEntry temporary.place.dir temporary.place.name }

/-- Where the target's name is. It must be a name that can be given to a file. -/
def targetPlace (sys : System) (target : Path) : Except IoError Place := do
  if target.contains Byte.nul then .error .invalidArgument
  else
    let bare := FileTree.withoutSlashes target
    let place ← sys.tree.locate sys.cwd false (if bare.isEmpty then target else bare)
    if place.name.isEmpty || place.name == Path.here || place.name == Path.above then .error .busy
    else if target.getLast? == some Byte.slash then .error .notDirectory
    else return place

/-- Gives the temporary file the name of the target. -/
def renameTemporary (sys : System) (temporary : Temporary) (target : Path) :
    Except IoError System := do
  let place ← sys.targetPlace target
  return { sys with tree := ← sys.tree.rename temporary.place place }

end System

/-! ## Steps -/

namespace Replacement

/-- Where a replacement stands. -/
inductive Stage
  | creating
  | filling (temporary : Temporary) (writing : Writing)
  | syncing (temporary : Temporary)
  | committing (temporary : Temporary)
  /-- Takes the temporary file away after a failure. -/
  | discarding (temporary : Temporary) (e : ReplaceError)
  | finished (result : Except ReplaceError Unit)

namespace Stage

/-- How many stages can still come. -/
def rank : Stage → Nat
  | .creating => 5
  | .filling _ _ => 4
  | .syncing _ => 3
  | .committing _ => 2
  | .discarding _ _ => 1
  | .finished _ => 0

/-- How many writes can still come at most, if the host has so many answers left. -/
def writesLeft (answers : Nat) : Stage → Nat
  | .filling _ writing => if writing.isDone then 0 else answers + 1
  | _ => 0

def result? : Stage → Option (Except ReplaceError Unit)
  | .finished result => some result
  | _ => none

end Stage

/-- The failure of a write that accepts nothing of a whole file. -/
def nothingWritten : IoError := .custom .writeZero "failed to write whole buffer"

/-- The loop that writes the whole content. -/
def writing (data : Bytes) : Writing :=
  { Writing.start data with onNothing := nothingWritten }

/-- One step of a replacement. -/
def step (target : Path) (data : Bytes) (stage : Stage) (sys : System) : Stage × System :=
  match stage with
  | .creating =>
    match sys.createTemporary target with
    | .ok (temporary, sys) => (.filling temporary (writing data), sys)
    | .error e => (.finished (.error e), sys)
  | .filling temporary writing =>
    if writing.isDone then
      match writing.failure with
      | some cause => (.discarding temporary { cause, path := some temporary.path }, sys)
      | none => (.syncing temporary, sys)
    else
      let (answer, sys) := sys.answerWrite writing.rest
      let writing := writing.take answer
      (.filling temporary writing, sys.fillTemporary temporary writing.bytes)
  | .syncing temporary =>
    match sys.sync with
    | (some cause, sys) => (.discarding temporary { cause }, sys)
    | (none, sys) => (.committing temporary, sys)
  | .committing temporary =>
    match sys.renameTemporary temporary target with
    | .ok sys => (.finished (.ok ()), sys)
    | .error cause => (.discarding temporary { cause }, sys)
  | .discarding temporary e => (.finished (.error e), sys.discardTemporary temporary)
  | .finished result => (.finished result, sys)

theorem fillTemporary_writeAnswers (sys : System) (temporary : Temporary) (data : Bytes) :
    (sys.fillTemporary temporary data).writeAnswers = sys.writeAnswers := by
  unfold System.fillTemporary
  split <;> rfl

/-- A step leads to a later stage, or leaves fewer writes to come. -/
theorem step_lt (target : Path) (data : Bytes) (stage : Stage) (sys : System)
    (h : stage.result? = none) :
    (step target data stage sys).1.rank < stage.rank ∨
      ((step target data stage sys).1.rank = stage.rank ∧
        (step target data stage sys).1.writesLeft
            (step target data stage sys).2.writeAnswers.length <
          stage.writesLeft sys.writeAnswers.length) := by
  cases stage with
  | creating => left; simp only [step]; split <;> simp [Stage.rank]
  | filling temporary writing =>
    by_cases hdone : writing.isDone = true
    · left
      simp only [step, hdone, if_true]
      split <;> simp [Stage.rank]
    · right
      cases hanswers : sys.writeAnswers with
      | nil =>
        simp [step, hdone, System.answerWrite, hanswers, Stage.rank, Stage.writesLeft,
          Writing.isDone_take_all]
      | cons answer answers =>
        simp only [step, hdone, System.answerWrite, hanswers, Stage.rank, Stage.writesLeft,
          List.length_cons]
        refine ⟨rfl, ?_⟩
        rw [if_neg (by simp), if_neg (by simp)]
        simp only [fillTemporary_writeAnswers]
        split <;> omega
  | syncing temporary => left; simp only [step]; split <;> simp [Stage.rank]
  | committing temporary => left; simp only [step]; split <;> simp [Stage.rank]
  | discarding temporary e => left; simp [step, Stage.rank]
  | finished result => simp [Stage.result?] at h

/-- Goes on to the end. -/
def run (target : Path) (data : Bytes) (stage : Stage) (sys : System) :
    Except ReplaceError Unit × System :=
  match _h : stage.result? with
  | some result => (result, sys)
  | none =>
    run target data (step target data stage sys).1 (step target data stage sys).2
termination_by (stage.rank, stage.writesLeft sys.writeAnswers.length)
decreasing_by
  rcases step_lt target data stage sys _h with hrank | ⟨hrank, hwrites⟩
  · exact Prod.Lex.left _ _ hrank
  · rw [hrank]; exact Prod.Lex.right _ hwrites

end Replacement

/-- Replaces the content of a file, or makes the file. -/
def System.replace (sys : System) (target : Path) (data : Bytes) : Except ReplaceError Unit × System :=
  Replacement.run target data .creating sys

end ScriptExec.Host
