-- SUMMARY: A call that gives nothing has changed nothing: no file, no handle, no guard and no directory.
import ScriptExec.Proofs.Builtin.Files
import ScriptExec.Proofs.Builtin.Handles
import ScriptExec.Proofs.Executor.Remains
import ScriptExec.Proofs.Host.Keeping
import ScriptExec.Session

/-!
# Failed calls

A call that gives nothing has at most told why (`Builtins.Spares`): whatever a builtin does in several steps comes last,
or is undone. Only a launch may fail with a child behind it. What that did to the files remains, but all that belongs to
the process is as before (`Session.failed_call_changes_nothing`).
-/

namespace ScriptExec

open Host (System FileTree)

/-- From one world to another no file, open file or guard has changed, nor the directory or the user. -/
structure World.Spared (w w' : World) : Prop where
  tree : w.sys.tree.Untouched w'.sys.tree
  openFiles : w'.sys.openFiles = w.sys.openFiles
  cwd : w'.sys.cwd = w.sys.cwd
  slots : w'.slots = w.slots
  identity : w'.identity = w.identity

theorem World.Spared.refl (w : World) : w.Spared w :=
  ⟨.refl _, rfl, rfl, rfl, rfl⟩

namespace Host.System

variable {sys sys' : System} {path : Path} {options : OpenOptions} {mode d : Nat}

theorem openFile_statAnswers (h : sys.openFile path options mode = .ok (d, sys')) :
    sys'.statAnswers = sys.statAnswers := by
  obtain ⟨-, -, h⟩ := FileTree.bind_eq_ok h
  split at h
  · cases h
  · obtain ⟨⟨node, tree⟩, -, h⟩ := FileTree.bind_eq_ok h
    cases h
    rfl

end Host.System

namespace Builtins

variable {builtin : Builtin} {runtime : Runtime} {args : CallArgs} {b b' : Builtins} {w w' : World}

/-- If a call gives nothing, it has kept the context and the world, but for what it told. -/
def Spares (b : Builtins) (w : World) (called : Called) : Prop :=
  called.value = none → called.builtins = b ∧ w.Spared called.world

theorem Spares.give (v : Value) : Spares b w (b'.give v w') :=
  nofun

theorem Spares.failAfter (text : String) (h : w.Spared w') : Spares b w (b.fail text w') := by
  intro _
  refine ⟨rfl, ?_, ?_, ?_, ?_, ?_⟩
  · rw [fail_sys]
    exact h.tree
  · rw [fail_sys]
    exact h.openFiles
  · rw [fail_sys]
    exact h.cwd
  · exact (World.tell_slots ..).trans h.slots
  · exact (World.tell_identity ..).trans h.identity

theorem Spares.fail (text : String) : Spares b w (b.fail text w) :=
  .failAfter text (.refl w)

/-! ## Each builtin -/

theorem findInPath_spares : Spares b w (b.findInPath args w) := by
  unfold findInPath
  split
  · exact .fail _
  · exact .give _

theorem fread_spares : Spares b w (b.fread args w) := by
  unfold fread
  split
  · exact .fail _
  · split
    · exact .give _
    · exact .fail _

/-- Whatever was written to a file that is not installed has no name at the end. -/
theorem fwrite_spares : Spares b w (b.fwrite args w) := by
  unfold fwrite
  split
  · rename_i data name _ _
    split
    · exact .give _
    · rename_i e sys hreplace
      have hleft := (Host.Replacement.replace_leaves w.sys (utf8 name) data).2
      have hframes : w.sys.Frames (w.sys.replace (utf8 name) data).2 := Host.Replacement.run_frames _ _ _ _
      rw [hreplace] at hleft hframes
      refine .failAfter _ ⟨hleft e rfl, hframes.openFiles, ?_, rfl, rfl⟩
      obtain ⟨_, _, _, hsys⟩ := hframes
      dsimp only at hsys
      rw [hsys]
  · exact .fail _

theorem unlink_spares : Spares b w (b.unlink args w) := by
  unfold Builtins.unlink
  split
  · exact .fail _
  · split
    · exact .give _
    · exact .fail _

theorem getTmpDir_spares : Spares b w (b.getTmpDir w) := by
  unfold getTmpDir
  dsimp only
  split
  · exact .give _
  · exact .fail _

theorem fileStat_spares : Spares b w (b.fileStat args w) := by
  unfold fileStat
  split
  · exact .fail _
  · split
    · exact .give _
    · exact fun _ => ⟨rfl, .refl w⟩

/-- A file that was opened stays so, unless its status cannot be asked for. -/
theorem fileOpen_spares (hstat : w.sys.statAnswers.headD none = none) : Spares b w (b.fileOpen args w) := by
  unfold fileOpen
  split
  · exact .fail _
  · exact .fail _
  · split
    · exact .fail _
    · rename_i d sys hopen
      have hanswer : sys.statOpen.1 = none := by
        rw [← hstat, ← System.openFile_statAnswers hopen]
        rfl
      split
      · rename_i cause sys' hfails
        rw [hfails] at hanswer
        cases hanswer
      · exact .give _

theorem fileClose_spares : Spares b w (b.fileClose args w) := by
  unfold fileClose
  dsimp only
  split
  · exact .fail _
  · split
    · exact .give _
    · exact .fail _

theorem fileRead_spares : Spares b w (b.fileRead args w) := by
  unfold fileRead
  dsimp only
  split
  · exact .fail _
  · split
    · split <;> exact .give _
    · exact .fail _

theorem fileWrite_spares : Spares b w (b.fileWrite args w) := by
  unfold fileWrite
  dsimp only
  split
  · split
    · exact .give _
    · exact .fail _
  · exact .fail _

theorem fileSeek_spares : Spares b w (b.fileSeek args w) := by
  unfold fileSeek
  dsimp only
  split
  · exact .fail _
  · split
    · exact .fail _
    · split
      · exact .fail _
      · split
        · exact .give _
        · exact .fail _

theorem perform_spares (hpread : builtin ≠ .pread) (hstat : w.sys.statAnswers.headD none = none) :
    Spares b w (perform builtin runtime args b w) := by
  cases builtin with
  | pread => exact absurd rfl hpread
  | findInPath => exact findInPath_spares
  | fread => exact fread_spares
  | fwrite => exact fwrite_spares
  | unlink => exact unlink_spares
  | getTmpDir => exact getTmpDir_spares
  | fileStat => exact fileStat_spares
  | fileOpen => exact fileOpen_spares hstat
  | fileClose => exact fileClose_spares
  | fileRead => exact fileRead_spares
  | fileWrite => exact fileWrite_spares
  | fileSeek => exact fileSeek_spares

/-! ## Launches -/

/-- What a launch that fails leaves behind it. The files are as before or as its child left them, and the
directory is the one it was if its path leads there still. -/
structure LeavesLaunch (args : CallArgs) (b : Builtins) (w : World) (called : Called) : Prop where
  builtins : called.builtins = b
  files : w.sys.tree.Untouched called.world.sys.tree ∨ ∃ req, preadRequest args = .ok req ∧
    b.executor.LeftByChild w req called.world.sys.tree
  openFiles : called.world.sys.openFiles = w.sys.openFiles
  slots : called.world.slots = w.slots
  cwd : ∀ dir, w.sys.currentDir = .ok dir →
    called.world.sys.changeDir dir = .ok { called.world.sys with cwd := w.sys.cwd } →
      called.world.sys.cwd = w.sys.cwd

theorem pread_leavesLaunch (hfailed : (b.pread runtime args w).value = none) :
    LeavesLaunch args b w (b.pread runtime args w) := by
  unfold pread at hfailed ⊢
  split
  · exact {
      builtins := rfl
      files := .inl (.of_eq (by rw [fail_sys]))
      openFiles := by rw [fail_sys]
      slots := World.tell_slots ..
      cwd := fun _ _ _ => by rw [fail_sys] }
  · rename_i req hreq
    have hslots := b.executor.launchBlocking_slots w runtime req
    have htree := b.executor.launchBlocking_tree w runtime req
    have hfiles := b.executor.launchBlocking_openFiles w runtime req
    have hcwd := fun dir => @Executor.launchBlocking_cwd b.executor w runtime req dir
    simp only [hreq] at hfailed
    rcases hlaunch : b.executor.launchBlocking runtime req w with ⟨e | bytes, w'⟩
    · rw [hlaunch] at hslots htree hfiles hcwd
      simp only
      exact {
        builtins := rfl
        files := by
          rw [fail_sys]
          exact htree.imp .of_eq fun hchild => ⟨req, hreq, hchild⟩
        openFiles := by
          rw [fail_sys]
          exact hfiles
        slots := (World.tell_slots ..).trans hslots
        cwd := by
          rw [fail_sys]
          exact hcwd }
    · rw [hlaunch] at hfailed
      cases hfailed

/-- A call by name that gives nothing has spared the world, or a launch has failed. -/
theorem call_leaves {name : String} (hfailed : (b.call name runtime args w).value = none)
    (hstat : w.sys.statAnswers.headD none = none) :
    (b.call name runtime args w).builtins = b ∧ w.Spared (b.call name runtime args w).world ∨
      name = "pread" ∧ LeavesLaunch args b w (b.call name runtime args w) := by
  cases hname : Builtin.ofName? name with
  | none =>
    rw [call_of_unknown hname]
    exact .inl (Spares.fail _ rfl)
  | some builtin =>
    rw [call_of_name hname] at hfailed ⊢
    by_cases hpread : builtin = .pread
    · subst hpread
      obtain ⟨hbuiltins, hfiles, hopen, hslots, hcwd⟩ := pread_leavesLaunch hfailed
      refine .inr ⟨eq_name_of_ofName? hname, hbuiltins, ?_, hopen, hslots, hcwd⟩
      refine hfiles.imp_right ?_
      rintro ⟨req, hreq, hsteps, hstage, hspawn, hleft⟩
      exact ⟨req, hreq, .intro hsteps hstage hspawn hleft⟩
    · have hspares : Spares b (w.record callRecord) (perform builtin runtime args b (w.record callRecord)) :=
        perform_spares hpread hstat
      obtain ⟨hbuiltins, htree, hopen, hcwd, hslots, hidentity⟩ := hspares hfailed
      exact .inl ⟨hbuiltins, htree, hopen, hcwd, hslots, hidentity⟩

end Builtins

/-! ## Sessions -/

namespace Session

variable {s : Session} {name : String} {runtime : Runtime} {args : CallArgs}

/-- The handles of a session with the files under them, all guards, and what the session holds and where it goes
back to. -/
structure Keeps (s s' : Session) : Prop where
  builtins : s'.builtins = s.builtins
  openFiles : s'.world.sys.openFiles = s.world.sys.openFiles
  slots : s'.world.slots = s.world.slots
  tokens : s'.tokens = s.tokens
  contexts : s'.contexts = s.contexts

/-- A call that gives nothing has changed nothing: every handle leads to its file at the same position, and
every guard is what it was. The files are what they were, but for what a child did that a `pread` has created, and so is
the directory, unless a `pread` has left it and its path does not lead back. Nothing but a `pread` can have made the
process another user's. -/
theorem failed_call_changes_nothing (s : Session) (name : String) (runtime : Runtime) (args : CallArgs)
    (hfailed : (s.call name runtime args).1 = none) (hstat : s.world.sys.statAnswers.headD none = none) :
    let s' := (s.call name runtime args).2
    s.Keeps s' ∧
    (s.world.sys.tree.Untouched s'.world.sys.tree ∨ name = "pread" ∧
      ∃ req, Builtins.preadRequest args = .ok req ∧ s.executor.LeftByChild s.world req s'.world.sys.tree) ∧
    (name ≠ "pread" → s'.world.sys.cwd = s.world.sys.cwd ∧ s'.world.identity = s.world.identity) ∧
    ∀ dir, s.world.sys.currentDir = .ok dir →
      s'.world.sys.changeDir dir = .ok { s'.world.sys with cwd := s.world.sys.cwd } →
        s'.world.sys.cwd = s.world.sys.cwd := by
  intro s'
  rcases Builtins.call_leaves hfailed hstat with ⟨hbuiltins, hspared⟩ | ⟨rfl, hleft⟩
  · exact ⟨⟨hbuiltins, hspared.openFiles, hspared.slots, rfl, rfl⟩, .inl hspared.tree,
      fun _ => ⟨hspared.cwd, hspared.identity⟩, fun _ _ _ => hspared.cwd⟩
  · exact ⟨⟨hleft.builtins, hleft.openFiles, hleft.slots, rfl, rfl⟩, hleft.files.imp_right fun h => ⟨rfl, h⟩,
      absurd rfl, hleft.cwd⟩

/-- A process that cannot bring its next file to the disk. -/
def withFaultyDisk : Session :=
  { world := { Builtins.linkedFile with
      sys := { Builtins.linkedFile.sys with syncAnswers := [some (.os 5)] } } }

/-- The new content has been written by then, but neither the target nor any other name leads to it. -/
theorem failed_call_changes_nothing_of_faulty_disk :
    let s := withFaultyDisk
    let args : CallArgs := { named := [("data", .str "new"), ("file", .str "f")] }
    let s' := (s.call "fwrite" .outside args).2
    (s.call "fwrite" .outside args).1 = none ∧ s.world.sys.statAnswers.headD none = none ∧
      s'.world.sys.tree.nodes.length = s.world.sys.tree.nodes.length + 1 ∧
      s.Keeps s' ∧ s.world.sys.tree.Untouched s'.world.sys.tree ∧ s'.world.sys.cwd = s.world.sys.cwd := by
  intro s args s'
  have hcall : s.builtins.call "fwrite" .outside args s.world =
      s.builtins.fwrite args (s.world.record Builtins.callRecord) :=
    Builtins.call_of_name (Builtins.ofName?_name .fwrite)
  obtain ⟨hsys, hvalue⟩ : s'.world.sys = (s.world.sys.replace (utf8 "f") (utf8 "new")).2 ∧ _ :=
    hcall ▸ Builtins.fwrite_eq rfl rfl
  have hfails : (s.world.sys.replace (utf8 "f") (utf8 "new")).1.isOk = false := by cbv
  have hfailed : (s.call "fwrite" .outside args).1 = none := by
    refine (congrArg Called.value hcall).trans (hvalue.trans ?_)
    split
    · rename_i hdone
      rw [World.record_sys] at hdone
      rw [hdone] at hfails
      cases hfails
    · rfl
  have hlength : (s.world.sys.replace (utf8 "f") (utf8 "new")).2.tree.nodes.length =
      s.world.sys.tree.nodes.length + 1 := by cbv
  obtain ⟨hkeeps, hfiles, hcwd, -⟩ := failed_call_changes_nothing s "fwrite" .outside args hfailed rfl
  refine ⟨hfailed, rfl, hsys ▸ hlength, hkeeps, ?_, (hcwd (by decide)).1⟩
  rcases hfiles with htree | ⟨hname, -⟩
  · exact htree
  · exact absurd hname (by decide)

end Session

end ScriptExec
