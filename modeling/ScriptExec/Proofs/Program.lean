-- SUMMARY: The command line and the builtin `pread` do the same, if there are descriptors for a runtime.
import ScriptExec.Program
import ScriptExec.Proofs.Builtin.Arguments
import ScriptExec.Proofs.Builtin.Handles
import ScriptExec.Proofs.Executor.Reports
import ScriptExec.Proofs.Executor.Reserve

/-!
# Two ways to run a program

The command line `pread` and the builtin of that name make the same request of the same values
(`preadRequest_of_asksFor`), so they launch the same program, tell the same errors and warnings and leave the same
world (`run_agrees_with_pread`). But the builtin may need a runtime of its own, where the command line has one. Without
the descriptors for it the builtin does nothing but to say so (`onlyTells_of_few`). With enough for it and too few for a
child as well the two come to different ends (`run_disagrees_with_pread_of_few_descriptors`), unless the launch fails
before it comes to a child (`run_agrees_with_pread_without_child`).
-/

namespace ScriptExec

/-! ## What is told side by side -/

namespace World.Alongside

variable {w₁ v₁ w v : World}

theorem start (w : World) {v : World} (hsys : w.sys = v.sys) (hidentity : w.identity = v.identity)
    (hslots : w.slots = v.slots) : Alongside w v w v :=
  ⟨hsys, hidentity, hslots, ⟨[], rfl, rfl⟩, ⟨[], rfl, rfl⟩⟩

/-- Worlds side by side have told the same since. -/
theorem news (h : Alongside w₁ v₁ w v) (sink : Sink) :
    ∃ news, w.told sink = w₁.told sink ++ news ∧ v.told sink = v₁.told sink ++ news := by
  cases sink with
  | recorder =>
    obtain ⟨more, hw, hv⟩ := h.reports
    refine ⟨more.reverse.filterMap Report.telling?, ?_, ?_⟩
    · simp only [told, hw, List.reverse_append, List.filterMap_append]
    · simp only [told, hv, List.reverse_append, List.filterMap_append]
  | log =>
    obtain ⟨more, hw, hv⟩ := h.records
    refine ⟨more.reverse.filterMap Log.Record.telling?, ?_, ?_⟩
    · simp only [told, hw, List.reverse_append, List.filterMap_append]
    · simp only [told, hv, List.reverse_append, List.filterMap_append]

end World.Alongside

/-! ## One request -/

variable {cd : Bool} {user : Option String} {cmd : String} {argv : List String} {args : CallArgs}

/-- The arguments of a call are those of a command line. -/
structure CallArgs.AsksFor (args : CallArgs) (cd : Bool) (user : Option String) (cmd : String)
    (argv : List String) : Prop where
  cmd : args.byName? "cmd" = some (.str cmd)
  argv : args.byName? "argv" = some (.ofArray { slots := argv.map .str })
  cd : (args.intByName "cd" 0 != 0) = cd
  user : args.byName? "drop_privileges_user" = user.map .str

theorem toArgList_texts (argv : List String) :
    ScriptArray.toArgList { slots := argv.map .str } = .ofList (argv.map utf8) := by
  simp only [ScriptArray.toArgList, ArgList.ofList, List.map_map]
  rfl

theorem preadRequest_of_asksFor (h : args.AsksFor cd user cmd argv) :
    Builtins.preadRequest args = .ok (Program.requestOf cd user cmd argv) := by
  have hcmd : args.textByName? "cmd" = some cmd := by
    rw [CallArgs.textByName?, h.cmd]
    rfl
  have huser : args.textByName? "drop_privileges_user" = user := by
    rw [CallArgs.textByName?, h.user]
    cases user <;> rfl
  have harray : (Value.ofArray { slots := argv.map .str }).asArray? =
      some { slots := argv.map .str } := rfl
  simp only [Builtins.preadRequest, hcmd, h.argv, harray, huser, h.cd, toArgList_texts, Program.requestOf]

namespace Builtins

variable {b : Builtins} {runtime : Runtime} {w after : World}

theorem call_pread : b.call "pread" runtime args w = b.pread runtime args (w.record callRecord) :=
  call_of_name (ofName?_name .pread)

theorem call_of_launch (h : args.AsksFor cd user cmd argv) {outcome : Launch.Outcome}
    (hlaunch : b.executor.launchBlocking runtime (Program.requestOf cd user cmd argv) (w.record callRecord) =
      (outcome, after)) :
    b.call "pread" runtime args w = b.ofOutcome after outcome := by
  rw [call_pread, pread_of_request (preadRequest_of_asksFor h), hlaunch]

end Builtins

namespace Program

open Builtins (callRecord call_of_launch)
open Launch (Event trace)

theorem told_quiet (w : World) (level : Log.Level) (part : String) (fields : List String) (message : String) :
    (w.record (.of level part fields message)).told .log = w.told .log :=
  World.told_record_of_ne w .log (Log.Record.of_target_ne _ _ _ _)

theorem told_error (exec : ExecSection) (text : String) (w : World) :
    ((Executor.ofConfig exec).error text w).told .log = w.told .log ++ [(.error, Sink.log.shown text)] :=
  World.told_error w .log _ text

theorem run_of_launch {exec : ExecSection} {w after : World} {bytes : Bytes}
    (h : (Executor.ofConfig exec).launch (requestOf cd user cmd argv) w = (.ok bytes, after)) :
    run (.pread cd user cmd argv) exec w = { code := 0, output := bytes, world := after } := by
  simp only [run, h]

theorem run_of_failure {exec : ExecSection} {w after : World} {e : ExecError}
    (h : (Executor.ofConfig exec).launch (requestOf cd user cmd argv) w = (.error e, after)) :
    run (.pread cd user cmd argv) exec w =
      { code := 1, output := [], world := (Executor.ofConfig exec).error s!"pread: {e.message}" after } := by
  simp only [run, h]

/-- From one world, a run of the command line and a call of the builtin have come to the same: the builtin gives the
bytes that the command line writes, or both fail. What they tell through the log is the same, and so are the host and
the guards that they leave. -/
structure Agree (w : World) (finished : Finished) (called : Called) : Prop where
  answer : (∃ bytes, called.value = some (.data bytes) ∧ finished.code = 0 ∧ finished.output = bytes) ∨
    (called.value = none ∧ finished.code = 1 ∧ finished.output = [])
  told : ∃ news, finished.world.told .log = w.told .log ++ news ∧ called.world.told .log = w.told .log ++ news
  sys : called.world.sys = finished.world.sys
  slots : called.world.slots = finished.world.slots

theorem Agree.told_eq {w : World} {finished : Finished} {called : Called} (h : Agree w finished called) :
    finished.world.told .log = called.world.told .log := by
  obtain ⟨news, hfinished, hcalled⟩ := h.told
  rw [hfinished, hcalled]

theorem Agree.code_of_none {w : World} {finished : Finished} {called : Called} (h : Agree w finished called)
    (hnone : called.value = none) : finished.code = 1 := by
  rcases h.answer with ⟨bytes, hsome, -⟩ | ⟨-, hcode, -⟩
  · rw [hnone] at hsome
    cases hsome
  · exact hcode

/-- A call has failed, and all it has done is to tell why. -/
structure OnlyTells (w : World) (text : String) (called : Called) : Prop where
  value : called.value = none
  told : called.world.told .log = w.told .log ++ [(.error, Sink.log.shown text)]
  sys : called.world.sys = w.sys
  slots : called.world.slots = w.slots

/-- If to wait for the launch makes no difference to it, the builtin comes to the same as the command line. -/
theorem agree_of_waits (exec : ExecSection) (table : HandleTable) {runtime : Runtime}
    (hargs : args.AsksFor cd user cmd argv) {w : World}
    (hwaits : (Executor.ofConfig exec).launchBlocking runtime (requestOf cd user cmd argv) (w.record callRecord) =
      (Executor.ofConfig exec).launch (requestOf cd user cmd argv) (w.record callRecord)) :
    Agree w (run (.pread cd user cmd argv) exec w)
      (Builtins.call "pread" runtime args { executor := .ofConfig exec, table } w) := by
  let executor := Executor.ofConfig exec
  let req := requestOf cd user cmd argv
  have halike : Alike (World.Alongside w (w.record callRecord)) (executor.launch req w)
      (executor.launch req (w.record callRecord)) :=
    Launch.complete_alike executor.launcher req (Executor.agree_alongside w (w.record callRecord)) {}
      (World.Alongside.start w rfl rfl rfl)
  obtain ⟨outcome, v, v', hrun, hcall, hv⟩ := halike.exists_eq
  obtain ⟨news, hnews, hnews'⟩ := hv.news .log
  rw [callRecord, told_quiet] at hnews'
  cases outcome with
  | ok bytes =>
    rw [run_of_launch hrun, call_of_launch hargs (hwaits.trans hcall)]
    exact ⟨.inl ⟨bytes, rfl, rfl, rfl⟩, ⟨news, hnews, hnews'⟩, hv.sys.symm, hv.slots.symm⟩
  | error e =>
    rw [run_of_failure hrun, call_of_launch hargs (hwaits.trans hcall)]
    refine ⟨.inr ⟨rfl, rfl, rfl⟩,
      ⟨news ++ [(.error, Sink.log.shown s!"pread: {e.message}")], ?_, ?_⟩, hv.sys.symm, hv.slots.symm⟩
    · rw [told_error, hnews, List.append_assoc]
    · simp only [Builtins.ofOutcome, Builtins.fail]
      rw [told_error, told_quiet, hnews', List.append_assoc]

theorem agree_of_room (exec : ExecSection) (table : HandleTable) {runtime : Runtime}
    (hargs : args.AsksFor cd user cmd argv) {w : World} (hroom : Executor.HasRoom runtime w.sys) :
    Agree w (run (.pread cd user cmd argv) exec w)
      (Builtins.call "pread" runtime args { executor := .ofConfig exec, table } w) :=
  agree_of_waits exec table hargs
    ((Executor.ofConfig exec).launchBlocking_eq_launch (w := w.record callRecord) hroom _)

theorem onlyTells_of_few (exec : ExecSection) (table : HandleTable) {runtime : Runtime}
    (hargs : args.AsksFor cd user cmd argv) {w : World} (hneeds : Executor.needsRuntime runtime = true)
    (hfew : w.sys.hasFree Executor.runtimeDescriptors = false) :
    OnlyTells w s!"pread: {(ExecError.spawn cmd .tooManyFiles).message}"
      (Builtins.call "pread" runtime args { executor := .ofConfig exec, table } w) := by
  have hfailure : (Executor.ofConfig exec).launchBlocking runtime (requestOf cd user cmd argv) (w.record callRecord) =
      (.error (.spawn cmd .tooManyFiles), w.record callRecord) := by
    have hbegun : (w.record callRecord).sys.hasFree Executor.runtimeDescriptors = false := hfew
    simp only [Executor.launchBlocking, hneeds, hbegun, if_true, Bool.false_eq_true, if_false, requestOf]
  rw [call_of_launch hargs hfailure]
  refine ⟨rfl, ?_, rfl, rfl⟩
  simp only [Builtins.ofOutcome, Builtins.fail]
  rw [told_error, told_quiet, callRecord, told_quiet]

/-- The builtin and the command line agree, if there is room for the runtime that the builtin may need. If that cannot
be had at all, the builtin tells so and does nothing else. -/
theorem run_agrees_with_pread (exec : ExecSection) (table : HandleTable) (runtime : Runtime)
    (hargs : args.AsksFor cd user cmd argv) (w : World) :
    let finished := run (.pread cd user cmd argv) exec w
    let called := Builtins.call "pread" runtime args { executor := .ofConfig exec, table } w
    (Executor.HasRoom runtime w.sys → Agree w finished called) ∧
      (Executor.needsRuntime runtime = true → w.sys.hasFree Executor.runtimeDescriptors = false →
        OnlyTells w s!"pread: {(ExecError.spawn cmd .tooManyFiles).message}" called) :=
  ⟨agree_of_room exec table hargs, onlyTells_of_few exec table hargs⟩

open Executor (toolWorld)

/-- A process that may have only so many descriptors. -/
def limited (limit : Nat) : World :=
  { toolWorld with sys := { toolWorld.sys with limit } }

def inBin : ExecSection := { searchPath := some "/w/bin" }

theorem run_agrees_with_pread_of_texts :
    let args : CallArgs := .ofLists [] [("cmd", .str "tool"), ("cd", .int 1), ("drop_privileges_user", .str "nobody"),
      ("argv", .ofArray { slots := [.str "a", .str ""] })]
    let b : Builtins := { executor := .ofConfig inBin }
    Agree toolWorld (run (.pread true (some "nobody") "tool" ["a", ""]) inBin toolWorld)
        (b.call "pread" .outside args toolWorld) ∧
      OnlyTells (limited 33) "pread: failed to spawn 'tool': Too many open files (os error 24)"
        (b.call "pread" .outside args (limited 33)) := by
  intro args b
  have hargs : args.AsksFor true (some "nobody") "tool" ["a", ""] := ⟨by cbv, by cbv, by cbv, by cbv⟩
  have hroom : Executor.HasRoom .outside toolWorld.sys := fun _ => ⟨by decide, fun _ => by decide⟩
  exact ⟨(run_agrees_with_pread inBin {} .outside hargs toolWorld).1 hroom,
    (run_agrees_with_pread inBin {} .outside hargs (limited 33)).2 rfl (by decide)⟩

/-- The arguments of a call for a command without arguments. -/
def plainArgs (cmd : String) : CallArgs :=
  .ofLists [] [("cmd", .str cmd), ("argv", .ofArray {})]

theorem plainArgs_asksFor (cmd : String) : (plainArgs cmd).AsksFor false none cmd [] := by
  have hfind : ∀ key, (plainArgs cmd).named.find? key =
      if "argv" = key then some (.ofArray {}) else if "cmd" = key then some (.str cmd) else none := by
    intro key
    simp only [plainArgs, CallArgs.ofLists, Named.ofList, List.foldl_cons, List.foldl_nil, Named.find?_insert]
    rfl
  constructor <;> simp only [CallArgs.intByName, CallArgs.byName?, hfind] <;> rfl

/-- If the launch fails before it asks the system for a child, the two agree as soon as there are descriptors for the
runtime, even where these leave too few for a child. -/
theorem run_agrees_with_pread_without_child (exec : ExecSection) (table : HandleTable) {runtime : Runtime}
    (hargs : args.AsksFor cd user cmd argv) {w : World}
    (hroom : Executor.needsRuntime runtime = true → w.sys.hasFree Executor.runtimeDescriptors = true)
    (hnone : Event.spawns (trace (Executor.ofConfig exec).collaborators (Executor.ofConfig exec).launcher
      (requestOf cd user cmd argv) w) = []) :
    Agree w (run (.pread cd user cmd argv) exec w)
      (Builtins.call "pread" runtime args { executor := .ofConfig exec, table } w) := by
  apply agree_of_waits exec table hargs
  apply Executor.launchBlocking_of_childless (w := w.record callRecord) _ hroom
  intro l v' hsteps
  -- the call has been recorded, which the launch does not get to see
  have hstart : World.Alongside w (w.record callRecord) w (w.record callRecord) := .start w rfl rfl rfl
  obtain ⟨v, hsteps, -⟩ := hsteps.alike hstart fun _ hw =>
    Launch.step_alike_fully _ _ (Executor.agree_alongside w (w.record callRecord)) _ hw
  exact hsteps.childless_of_spawns hnone

example : ¬Executor.HasRoom .outside (limited 38).sys ∧
    Agree (limited 38) (run (.pread false none "" []) inBin (limited 38))
      (Builtins.call "pread" .outside (plainArgs "") { executor := .ofConfig inBin } (limited 38)) := by
  have hnone : Event.spawns (trace (Executor.ofConfig inBin).collaborators (Executor.ofConfig inBin).launcher
      (requestOf false none "" []) (limited 38)) = [] := by
    rw [trace, Launch.run_of_invalid rfl]
    rfl
  refine ⟨fun hroom => ?_,
    run_agrees_with_pread_without_child inBin {} (plainArgs_asksFor "") (fun _ => by decide) hnone⟩
  exact absurd ((hroom rfl).2 (by decide)) (by decide)

/-- What a launch comes to, from the stage at which it ends. -/
theorem launch_of_stage {executor : Executor} {req : Request} {w : World} {outcome : Launch.Outcome}
    (h : (Launch.advance executor.collaborators executor.launcher req (fun _ => false) {} w).1.stage =
      .finished outcome) : (executor.launch req w).1 = outcome := by
  have hsteps : Launch.Steps executor.collaborators executor.launcher req {} w _ _ :=
    Launch.advance_steps (fun _ => false) {} w
  rw [Executor.launch, Launch.run, hsteps.complete_eq, Launch.complete_of_finished h]

/-- Where there are no descriptors for a runtime, the builtin says so, and not what is wrong with the request. Where
there are, but too few for a child as well, it fails and the command line does not. -/
theorem run_disagrees_with_pread_of_few_descriptors :
    let b : Builtins := { executor := .ofConfig inBin }
    let finished := run (.pread false none "" []) inBin (limited 33)
    let called := b.call "pread" .outside (plainArgs "") (limited 33)
    let finished' := run (.pread false none "tool" []) inBin (limited 38)
    let called' := b.call "pread" .outside (plainArgs "tool") (limited 38)
    (plainArgs "").AsksFor false none "" [] ∧
      finished.world.told .log = [(.error, "pread: pread() usage: cmd:..., argv:...")] ∧
      called.world.told .log = [(.error, "pread: failed to spawn '': Too many open files (os error 24)")] ∧
      ¬Agree (limited 33) finished called ∧
      (plainArgs "tool").AsksFor false none "tool" [] ∧ finished'.code = 0 ∧ called'.value.isNone = true ∧
      ¬Agree (limited 38) finished' called' := by
  intro b finished called finished' called'
  have hfinished : finished.world.told .log = [(.error, "pread: pread() usage: cmd:..., argv:...")] := by
    have hrun : finished = _ := run_of_failure (Launch.run_of_invalid rfl)
    rw [hrun, told_error]
    decide
  have hcalled : called.world.told .log =
      [(.error, "pread: failed to spawn '': Too many open files (os error 24)")] := by
    have honly : OnlyTells (limited 33) _ called := onlyTells_of_few inBin {} (plainArgs_asksFor "") rfl (by decide)
    rw [honly.told]
    decide
  have hfinished' : finished'.code = 0 := by
    have hlaunch : (b.executor.launch (requestOf false none "tool" []) (limited 38)).1 = .ok [] :=
      launch_of_stage (by cbv)
    have hrun : finished' = _ := run_of_launch (Prod.ext hlaunch rfl)
    rw [hrun]
  have hcalled' : called'.value = none := by
    let tight := ((limited 38).record callRecord).reserving 4
    have hlaunch : (b.executor.launch (requestOf false none "tool" []) tight).1 =
        .error (.spawn "tool" .tooManyFiles) := launch_of_stage (by cbv)
    have hwaits := b.executor.launchBlocking_of_runtime (w := (limited 38).record callRecord)
      (show Executor.needsRuntime .outside = true from rfl) (by decide) (requestOf false none "tool" [])
    have hcall : called' = _ := call_of_launch (plainArgs_asksFor "tool") (hwaits.trans (Prod.ext hlaunch rfl))
    rw [hcall]
    rfl
  refine ⟨plainArgs_asksFor "", hfinished, hcalled, ?_, plainArgs_asksFor "tool", hfinished', ?_, ?_⟩
  · intro hagree
    have hsame := hagree.told_eq
    rw [hfinished, hcalled] at hsame
    exact absurd hsame (by decide)
  · rw [hcalled']
    rfl
  · intro hagree
    have hcode := hagree.code_of_none hcalled'
    rw [hfinished'] at hcode
    cases hcode

end Program

end ScriptExec
