-- SUMMARY: Which file is executed for a bare name that is looked up in a search path of the launcher's own.
import Mathlib
import ScriptExec.Proofs.Bytes
import ScriptExec.Proofs.Executor.Spawning
import ScriptExec.Proofs.Host.ContainingDir
import ScriptExec.Proofs.SearchPath

/-!
# Launches in place

A launcher with a search path of its own looks bare names up itself, whatever the search path of the
process is. What it finds is executed as it was found if the path has a slash; the bare name that an
empty entry gives is looked up once more, by the system, in the search path of the process
(`program_in_place`).
-/

namespace ScriptExec.Executor

open Host Launch

variable {executor : Executor} {req : Request} {w w' : World} {program : Path} {entries : String}

/-! ## Worlds that differ in the search path of the process -/

/-- Two worlds that differ in nothing but the search path of the process. -/
structure SameButPath (w w' : World) : Prop where
  world : w' = { w with sys := { w.sys with env := w'.sys.env } }
  env : ∀ name, name ≠ "PATH" → w'.sys.envValue? name = w.sys.envValue? name

theorem SameButPath.exists_env (h : SameButPath w w') :
    ∃ env : Named Bytes, w' = { w with sys := { w.sys with env } } ∧
      ∀ name, name ≠ "PATH" → env.find? name = w.sys.env.find? name :=
  ⟨w'.sys.env, h.world, h.env⟩

namespace SameButPath

theorem record (h : SameButPath w w') (record : Log.Record) :
    SameButPath (w.record record) (w'.record record) := by
  obtain ⟨env, rfl, henv⟩ := h.exists_env
  exact ⟨rfl, henv⟩

theorem setSlot (h : SameButPath w w') (guard : Nat) (slot : Slot) :
    SameButPath (w.setSlot guard slot) (w'.setSlot guard slot) := by
  obtain ⟨env, rfl, henv⟩ := h.exists_env
  exact ⟨rfl, henv⟩

theorem tell (h : SameButPath w w') (sink : Sink) (guard : Nat) (kind : Report.Kind) (text : String) :
    SameButPath (w.tell sink guard kind text) (w'.tell sink guard kind text) := by
  obtain ⟨env, rfl, henv⟩ := h.exists_env
  cases sink <;> cases kind <;> exact ⟨rfl, henv⟩

theorem identity (h : SameButPath w w') : w'.identity = w.identity := by
  rw [h.world]

/-- A lookup in a search path of its own is the same in both worlds. -/
theorem lookup (hsearch : executor.launcher.searchPath = some entries) (h : SameButPath w w') :
    executor.lookup w'.sys = executor.lookup w.sys := by
  obtain ⟨env, rfl, henv⟩ := h.exists_env
  have hhome : env.find? "HOME" = w.sys.env.find? "HOME" := henv "HOME" (by decide)
  simp only [Executor.lookup, hsearch, System.envValue?, hhome]
  rfl

theorem find (hsearch : executor.launcher.searchPath = some entries) (h : SameButPath w w')
    (name : String) : Alike SameButPath (executor.find name w) (executor.find name w') := by
  have hlookup := lookup hsearch h
  have hfile : w'.sys.isExecutableFile = w.sys.isExecutableFile := by
    rw [h.world]
    rfl
  unfold Executor.find
  rw [hlookup, hfile]
  refine ⟨rfl, ?_⟩
  dsimp only
  split
  · exact h.record _
  · exact h

theorem becomeUser (h : SameButPath w w') (user : String) :
    Alike SameButPath (executor.becomeUser user w) (executor.becomeUser user w') := by
  have htold := h.tell executor.sink executor.guard .userRequest user
  unfold Executor.becomeUser
  dsimp only
  rw [htold.identity]
  refine ⟨rfl, ?_⟩
  dsimp only
  split
  · exact htold.record _
  · exact htold

theorem change (h : SameButPath w w') (path : Path) :
    Alike SameButPath (directories.change path w) (directories.change path w') := by
  obtain ⟨env, rfl, henv⟩ := h.exists_env
  simp only [directories, System.changeDir]
  cases w.sys.tree.resolve w.sys.cwd true path with
  | error cause => exact ⟨rfl, rfl, henv⟩
  | ok found =>
    cases hdirectory : found.2.isDirectory with
    | false => simp [Alike, bind, Except.bind, hdirectory, h]
    | true =>
      cases hentry : found.2.mayExecute with
      | false => simp [Alike, bind, Except.bind, hdirectory, hentry, h]
      | true =>
        simp only [bind, Except.bind, hdirectory, hentry, pure, Except.pure]
        exact ⟨rfl, rfl, henv⟩

end SameButPath

/-- With a search path of its own, an executor does not see the difference. -/
theorem agree_sameButPath (hsearch : executor.launcher.searchPath = some entries) :
    Collaborators.Agree SameButPath executor.collaborators executor.collaborators where
  current h := by
    rw [h.world]
    rfl
  change path _ _ h := h.change path
  log record _ _ h := h.record record
  becomeUser user _ _ h := h.becomeUser user
  find name _ _ h := h.find hsearch name
  slot h := by
    rw [h.world]
    rfl
  setSlot slot _ _ h := h.setSlot executor.guard slot
  error text _ _ h := h.tell executor.sink executor.guard .error text
  warn text _ _ h := h.tell executor.sink executor.guard .warning text

/-! ## A search path without programs -/

/-- A name that is too long for any file. -/
def longName : Bytes := List.replicate 256 0x61

theorem length_longName : longName.length = 256 := List.length_replicate

theorem longName_ne_nil : longName ≠ [] :=
  List.ne_nil_of_length_pos (by rw [length_longName]; decide)

theorem not_mem_longName {b : UInt8} (hb : b ≠ 0x61) : b ∉ longName :=
  fun h => hb (List.eq_of_mem_replicate h)

theorem walk_longName (tree : FileTree) (links : Nat) (dir : NodeId) (names : List Bytes) :
    ∃ cause, tree.walk true links dir (longName :: names) = .error cause := by
  rw [FileTree.walk]
  cases tree.enter dir with
  | error cause => exact ⟨cause, rfl⟩
  | ok found =>
    have hlong : FileTree.maxName < longName.length := by
      rw [length_longName]
      decide
    simp only [if_pos hlong]
    exact ⟨_, rfl⟩

theorem steps_longName (name : Bytes) :
    ∃ names, FileTree.steps (longName ++ Byte.slash :: name) = longName :: names := by
  have hparts : Path.parts (longName ++ Byte.slash :: name) = longName :: Path.parts name := by
    rw [Path.parts_append, Path.parts_of_not_mem (not_mem_longName (by decide)) longName_ne_nil]
    rfl
  unfold FileTree.steps
  rw [← Path.parts, hparts, List.cons_append]
  exact ⟨_, rfl⟩

theorem fileAt_longName (sys : System) (name : Bytes) :
    sys.fileAt (longName ++ Byte.slash :: name) = none := by
  obtain ⟨names, hsteps⟩ := steps_longName name
  cases hresolve : sys.tree.resolve sys.cwd true (longName ++ Byte.slash :: name) with
  | error cause => rw [System.fileAt, hresolve]; rfl
  | ok found =>
    obtain ⟨place, hplace, -, -⟩ := FileTree.resolve_ok hresolve
    obtain ⟨cause, hwalk⟩ := walk_longName sys.tree FileTree.maxLinks
      (FileTree.startOf sys.cwd (longName ++ Byte.slash :: name)) names
    rw [FileTree.locate_eq_walk hplace, hsteps, hwalk] at hplace
    cases hplace

/-- A bare name stands for nothing where the search path of the process is of no use. -/
theorem executes_longName (sys : System) {plan : SpawnPlan} (hbare : Byte.slash ∉ plan.program)
    (hpath : sys.envValue? "PATH" = some longName) : sys.executes plan = none := by
  have htries : ∀ name, Program.tries sys name = [longName ++ Byte.slash :: name] := by
    intro name
    rw [Program.tries, hpath, Option.getD_some,
      List.splitOn_eq_singleton (not_mem_longName (by decide)), List.map_singleton, Program.inEntry,
      if_neg (by simpa using longName_ne_nil), List.append_assoc]
    rfl
  unfold System.executes Program.fileFor Program.settle
  split
  · rfl
  · rw [if_neg (by simpa using hbare), htries, List.find?_singleton]
    split
    · exact fileAt_longName sys _
    · rfl

/-! ## Launches in place -/

/-- Paths with a slash lead to the same file whatever the search path of the process is, and only they
do. -/
theorem executes_sameButPath_iff {plan : SpawnPlan} {id : NodeId}
    (hfile : w.sys.fileAt plan.program = some id) :
    (∀ w', SameButPath w w' → w'.sys.executes plan = w.sys.fileAt plan.program) ↔
      Byte.slash ∈ plan.program := by
  constructor
  · intro hall
    by_contra hbare
    let env := w.sys.env.insert "PATH" longName
    have hsame : SameButPath w { w with sys := { w.sys with env } } :=
      ⟨rfl, fun name hname => by
        rw [System.envValue?, Named.find?_insert, if_neg (Ne.symm hname)]
        rfl⟩
    have hpath : System.envValue? { w.sys with env } "PATH" = some longName := by
      rw [System.envValue?, Named.find?_insert, if_pos rfl]
    have hnone := hall _ hsame
    rw [hfile, executes_longName _ hbare hpath] at hnone
    cases hnone
  · intro hslash w' hsame
    rw [System.executes, Program.fileFor_of_slash hslash, hsame.world]
    rfl

theorem not_given (hsearch : executor.launcher.searchPath = some entries)
    (hbare : req.cmd.toList.contains '/' = false) :
    ¬(executor.launcher.searchPath.isNone || req.cmd.toList.contains '/') = true := by
  rw [hsearch, hbare]
  exact Bool.false_ne_true

/-- A launch whose name is missed ends without a child, with the error of the first stage that fails. -/
theorem launch_of_miss (hsearch : executor.launcher.searchPath = some entries)
    (hbare : req.cmd.toList.contains '/' = false) (hstay : req.changeDir = false)
    (hmiss : (executor.find req.cmd w).1 = none) :
    (executor.launch req w).1 = req.validate.bind fun _ =>
      (switchUser executor.collaborators executor.launcher req w).1.bind fun _ =>
        .error (.spawn req.cmd notInSearchPath) := by
  unfold launch run
  rw [complete_of_step rfl]
  cases hvalid : req.validate with
  | error e =>
    simp only [step, hvalid, InFlight.goTo]
    rw [complete_of_finished rfl]
    rfl
  | ok u =>
    simp only [step, hvalid, InFlight.goTo]
    rw [complete_of_step rfl]
    have hsys : ∀ {answer v}, switchUser executor.collaborators executor.launcher req w = (answer, v) →
        v.sys = w.sys := switchUser_keeps (executor.keepsEarly_of_sys id)
    rcases hswitch : switchUser executor.collaborators executor.launcher req w with ⟨e | u, v⟩
    · simp only [step, hswitch, InFlight.goTo]
      rw [complete_of_finished rfl]
      rfl
    · simp only [step, hswitch, InFlight.goTo]
      rw [complete_of_step rfl]
      have hfind : (executor.collaborators.find req.cmd v).1 = none :=
        (find_fst_congr (hsys hswitch) req.cmd).trans hmiss
      obtain ⟨v', hlocate⟩ : ∃ v', locate executor.collaborators executor.launcher req v =
          (.error (.spawn req.cmd notInSearchPath), v') := by
        rw [locate, if_neg (by simp [hstay]), if_neg (not_given hsearch hbare)]
        split
        · rename_i hfound
          rw [hfound] at hfind
          cases hfind
        · exact ⟨_, rfl⟩
      simp only [step, hlocate, InFlight.goTo]
      rw [complete_of_finished rfl]
      rfl

/-- A launch whose name is found hands over what was found, in the directory in which it was found. -/
theorem spawning_of_found {l : InFlight Child} {w₁ : World}
    (hsearch : executor.launcher.searchPath = some entries)
    (hbare : req.cmd.toList.contains '/' = false) (hstay : req.changeDir = false)
    (hsteps : Steps executor.collaborators executor.launcher req {} w l w₁)
    (hstage : l.stage = .spawning program) :
    (executor.find req.cmd w).1 = some program ∧ w₁.sys = w.sys := by
  have hmoves : ¬req.changeDir = true := by simp [hstay]
  obtain ⟨hlocates, hstands⟩ := prepared hsteps hstage
  rw [Locates, if_neg hmoves, if_neg (not_given hsearch hbare)] at hlocates
  rw [StandsAt, if_neg hmoves] at hstands
  exact ⟨hlocates, hstands⟩

/-- What is found has a slash, or an empty entry gave it. -/
theorem find_of_bare (hsearch : executor.launcher.searchPath = some entries)
    (hbare : req.cmd.toList.contains '/' = false) (h : (executor.find req.cmd w).1 = some program) :
    Byte.slash ∈ program ∨ program = utf8 req.cmd ∧ [] ∈ Lookup.split (utf8 entries) := by
  have hname : Byte.slash ∉ utf8 req.cmd := by
    rw [slash_mem_utf8]
    simpa using hbare
  obtain ⟨hmem, -⟩ := find_some h
  rcases Lookup.candidates_of_bare hname hmem with hslash | ⟨hbare', entries', hentries, hempty⟩
  · exact .inl hslash
  · simp only [Executor.lookup, hsearch, Option.some.injEq] at hentries
    exact .inr ⟨hbare', hentries ▸ hempty⟩

/-- A launcher with a search path of its own executes nothing for a bare name that it misses. What it
finds is handed to the system in the directory in which it was found. That is the file which was found,
whatever the search path of the process is, if and only if the path that was found has a slash; an empty
entry gives the name itself. Two launches between which nothing but the search path of the process
differs go the same way up to the child. -/
theorem program_in_place_iff (hsearch : executor.launcher.searchPath = some entries)
    (hbare : req.cmd.toList.contains '/' = false) (hstay : req.changeDir = false) (w : World) :
    ((executor.find req.cmd w).1 = none →
      (∀ l w₁ program, Steps executor.collaborators executor.launcher req {} w l w₁ →
        l.stage ≠ .spawning program) ∧
      (executor.launch req w).1 = req.validate.bind fun _ =>
        (switchUser executor.collaborators executor.launcher req w).1.bind fun _ =>
          .error (.spawn req.cmd notInSearchPath)) ∧
    (∀ l w₁ program, Steps executor.collaborators executor.launcher req {} w l w₁ →
      l.stage = .spawning program →
        let plan := SpawnPlan.ofArgv program req.args.toArgv
        (executor.find req.cmd w).1 = some program ∧ w₁.sys = w.sys ∧
        (Byte.slash ∈ program ∨
          program = utf8 req.cmd ∧ [] ∈ Lookup.split (utf8 entries)) ∧
        ((∀ w', SameButPath w w' → w'.sys.executes plan = w.sys.fileAt program) ↔
          Byte.slash ∈ program)) ∧
    (∀ w', SameButPath w w' →
      (advance executor.collaborators executor.launcher req Stage.hasChild {} w').1 =
        (advance executor.collaborators executor.launcher req Stage.hasChild {} w).1) := by
  refine ⟨?_, ?_, ?_⟩
  · intro hmiss
    refine ⟨?_, launch_of_miss hsearch hbare hstay hmiss⟩
    intro l w₁ program hsteps hstage
    rw [(spawning_of_found hsearch hbare hstay hsteps hstage).1] at hmiss
    cases hmiss
  · intro l w₁ program hsteps hstage plan
    obtain ⟨hfound, hsys⟩ := spawning_of_found hsearch hbare hstay hsteps hstage
    refine ⟨hfound, hsys, find_of_bare hsearch hbare hfound, ?_⟩
    obtain ⟨-, id, node, hfile, -⟩ := find_some hfound
    have hplan : plan.program = program := ofArgv_program _
    have hat : w.sys.fileAt plan.program = some id := by
      rw [hplan, System.fileAt, hfile]
      rfl
    have hiff := executes_sameButPath_iff hat
    rwa [hplan] at hiff
  · intro w' hsame
    have halike := advance_alike executor.launcher req (agree_sameButPath hsearch)
      (fun _ hstage => hstage) {} hsame
    exact halike.1.symm

theorem program_in_place_of_entry :
    let executor : Executor := { launcher := { searchPath := some "/w/bin" } }
    let req : Request := { cmd := "tool" }
    let plan := SpawnPlan.ofArgv (utf8 "/w/bin/tool") req.args.toArgv
    ∃ l w₁, Steps executor.collaborators executor.launcher req {} toolWorld l w₁ ∧
      l.stage = .spawning (utf8 "/w/bin/tool") ∧
      ∀ w', SameButPath toolWorld w' →
        w'.sys.executes plan = toolWorld.sys.fileAt (utf8 "/w/bin/tool") := by
  intro executor req plan
  have hsteps : Steps executor.collaborators executor.launcher req {} toolWorld _ _ :=
    advance_steps isSpawning {} toolWorld
  have hstage : (advance executor.collaborators executor.launcher req isSpawning {} toolWorld).1.stage =
      .spawning (utf8 "/w/bin/tool") := by cbv
  have hslash : Byte.slash ∈ utf8 "/w/bin/tool" := by decide
  have hsearch : executor.launcher.searchPath = some "/w/bin" := rfl
  have hbare : req.cmd.toList.contains '/' = false := by decide
  obtain ⟨-, hspawns, -⟩ := program_in_place_iff hsearch hbare rfl toolWorld
  exact ⟨_, _, hsteps, hstage, (hspawns _ _ _ hsteps hstage).2.2.2.mpr hslash⟩

/-- What is found in an empty entry is looked up by the system once more, and what is executed then is up
to the search path of the process. -/
theorem not_in_place_of_empty_entry :
    let executor : Executor := { launcher := { searchPath := some ":" } }
    let req : Request := { cmd := "tool" }
    let plan := SpawnPlan.ofArgv (utf8 "tool") req.args.toArgv
    let w : World := { toolWorld with sys := { toolWorld.sys with cwd := 2 } }
    (executor.find "tool" w).1 = some (utf8 "tool") ∧ w.sys.fileAt (utf8 "tool") = some 3 ∧
      (∃ l w₁, Steps executor.collaborators executor.launcher req {} w l w₁ ∧
        l.stage = .spawning (utf8 "tool") ∧ w₁.sys.executes plan = none) ∧
      ∃ w', SameButPath w w' ∧ w'.sys.executes plan = some 3 := by
  intro executor req plan w
  have hsteps : Steps executor.collaborators executor.launcher req {} w _ _ :=
    advance_steps isSpawning {} w
  have hstage : (advance executor.collaborators executor.launcher req isSpawning {} w).1.stage =
      .spawning (utf8 "tool") := by cbv
  obtain ⟨-, hstands⟩ := prepared hsteps hstage
  have hsys : (advance executor.collaborators executor.launcher req isSpawning {} w).2.sys = w.sys :=
    hstands
  have hnone : w.sys.executes plan = none := by cbv
  refine ⟨by cbv, by cbv, ⟨_, _, hsteps, hstage, by rw [hsys]; exact hnone⟩, ?_⟩
  let env : Named Bytes := [("PATH", utf8 "/w/bin")]
  refine ⟨{ w with sys := { w.sys with env } }, ⟨rfl, ?_⟩, by cbv⟩
  intro name hname
  simp [System.envValue?, Named.find?, Ne.symm hname, env, w, toolWorld]

end ScriptExec.Executor
