-- SUMMARY: What a script's array comes to as arguments of a program: its scalars in order, and at most a warning.
import Mathlib
import ScriptExec.Builtin.Call
import ScriptExec.Proofs.Executor.Arguments
import ScriptExec.Proofs.Launch.Requests
import ScriptExec.Proofs.Value.Forms

/-!
# Arrays as arguments

A call of `pread` makes its array into an argument vector: the byte forms of the scalars in the slots, in order, with
the other slots left out (`Arguments`). That vector is handed over once, and the program sees it as it stands, or its
own path if it is empty (`HandsOver`). Neither the program nor the file that is executed depends on it. The named
entries show in one warning and in nothing else (`pread_hands_over_slots`). All this is told of the calls of a launch,
the one whose outcome the call of `pread` gives (`pread_of_traced`).
-/

namespace ScriptExec

open Launch (Event trace)

/-! ## Arrays -/

/-- The arguments that slots come to. -/
inductive Arguments : List Value → List Bytes → Prop
  | nil : Arguments [] []
  | null {slots argv} (h : Arguments slots argv) : Arguments (.null :: slots) argv
  | nested {slots argv inner named} (h : Arguments slots argv) : Arguments (.array inner named :: slots) argv
  | int {slots argv i} (h : Arguments slots argv) :
      Arguments (.int i :: slots) (utf8 (toString i.toInt) :: argv)
  | str {slots argv text} (h : Arguments slots argv) : Arguments (.str text :: slots) (utf8 text :: argv)
  | data {slots argv bytes} (h : Arguments slots argv) : Arguments (.data bytes :: slots) (bytes :: argv)

theorem Arguments.unique {slots : List Value} {argv argv' : List Bytes} (h : Arguments slots argv)
    (h' : Arguments slots argv') : argv = argv' := by
  induction h generalizing argv' with
  | nil =>
    cases h'
    rfl
  | null _ ih | nested _ ih =>
    cases h'
    exact ih ‹_›
  | int _ ih | str _ ih | data _ ih =>
    cases h'
    exact congrArg _ (ih ‹_›)

theorem arguments_toArgv (slots : List Value) (named : Named Value) :
    Arguments slots (ScriptArray.toArgList ⟨slots, named⟩).toArgv := by
  induction slots with
  | nil => exact .nil
  | cons v slots ih =>
    cases v with
    | null => exact .null ih
    | int i =>
      have hargv : (ScriptArray.toArgList ⟨.int i :: slots, named⟩).toArgv =
          Decimal.ofInt i.toInt :: (ScriptArray.toArgList ⟨slots, named⟩).toArgv := rfl
      rw [hargv, Decimal.ofInt_eq_utf8]
      exact .int ih
    | str text => exact .str ih
    | data bytes => exact .data ih
    | array inner named => exact .nested ih

theorem SpawnPlan.ofArgv_argv (program : Path) (argv : List Bytes) :
    (ofArgv program argv).argv = if argv = [] then [program] else argv := by
  cases argv <;> rfl

/-- The same arguments, with an array for `argv`. -/
def CallArgs.withArgv (args : CallArgs) (array : ScriptArray) : CallArgs :=
  { args with named := args.named.insert "argv" (.ofArray array) }

theorem CallArgs.byName?_withArgv (args : CallArgs) (array : ScriptArray) (key : String) :
    (args.withArgv array).byName? key = if "argv" = key then some (.ofArray array) else args.byName? key := by
  rw [byName?, withArgv, Named.find?_insert]
  split <;> rfl

namespace Builtins

variable {b : Builtins} {runtime : Runtime} {args args' : CallArgs} {req req' : Request} {w w₀ : World}

/-- With an array, a call asks for a launch with the array's arguments. -/
theorem preadRequest_argv {array : ScriptArray} (hargv : args.byName? "argv" = some (.ofArray array))
    (h : preadRequest args = .ok req) : req.args = array.toArgList := by
  unfold preadRequest at h
  rw [hargv] at h
  split at h
  · rename_i hfound
    cases hfound
    cases h
    rfl
  · cases h

/-- With another array, it asks for the same launch with that one's. -/
theorem preadRequest_withArgv (h : preadRequest args = .ok req) (array : ScriptArray) :
    preadRequest (args.withArgv array) = .ok { req with args := array.toArgList } := by
  have htext : ∀ key, "argv" ≠ key → (args.withArgv array).textByName? key = args.textByName? key := by
    intro key hkey
    rw [CallArgs.textByName?, CallArgs.byName?_withArgv, if_neg hkey]
    rfl
  have hcd : (args.withArgv array).intByName "cd" 0 = args.intByName "cd" 0 := by
    rw [CallArgs.intByName, CallArgs.byName?_withArgv, if_neg (by decide)]
    rfl
  have hargv : (args.withArgv array).byName? "argv" = some (.ofArray array) := by
    rw [CallArgs.byName?_withArgv, if_pos rfl]
  unfold preadRequest at h ⊢
  rw [htext "cmd" (by decide), htext "drop_privileges_user" (by decide), hcd, hargv]
  cases hcmd : args.textByName? "cmd" with
  | none =>
    rw [hcmd] at h
    cases h
  | some cmd =>
    rw [hcmd] at h
    cases hfound : args.byName? "argv" with
    | none =>
      rw [hfound] at h
      cases h
    | some argv =>
      rw [hfound] at h
      dsimp only at h
      split at h <;> cases h
      rfl

/-! ## The launch of a call -/

/-- The calls of the launch that a call of `pread` makes, if it makes one. -/
def preadCalls (b : Builtins) (runtime : Runtime) (args : CallArgs) (w : World) : List (Event Host.Child) :=
  match preadRequest args, Executor.start? runtime w with
  | .ok req, some w₀ => trace b.executor.collaborators b.executor.launcher req w₀
  | _, _ => []

theorem preadCalls_of_start (hreq : preadRequest args = .ok req) (hstart : Executor.start? runtime w = some w₀) :
    preadCalls b runtime args w = trace b.executor.collaborators b.executor.launcher req w₀ := by
  rw [preadCalls, hreq, hstart]

theorem exists_of_mem_preadCalls {event : Event Host.Child} (h : event ∈ preadCalls b runtime args w) :
    ∃ req w₀, preadRequest args = .ok req ∧ Executor.start? runtime w = some w₀ := by
  unfold preadCalls at h
  split at h
  · rename_i req w₀ hreq hstart
    exact ⟨req, w₀, hreq, hstart⟩
  · cases h

/-- What a call makes of the outcome of its launch. -/
def ofOutcome (b : Builtins) (after : World) : Launch.Outcome → Called
  | .ok bytes => b.give (.data bytes) after
  | .error e => b.fail s!"pread: {e.message}"
      (after.record (.of .debug "builtins::process" ["cmd", "error"] "pread failed"))

theorem pread_of_request (hreq : preadRequest args = .ok req) :
    b.pread runtime args w =
      b.ofOutcome (b.executor.launchBlocking runtime req w).2 (b.executor.launchBlocking runtime req w).1 := by
  simp only [pread, hreq]
  rcases b.executor.launchBlocking runtime req w with ⟨_ | _, after⟩ <;> rfl

theorem pread_of_launch (hreq : preadRequest args = .ok req) (hstart : Executor.start? runtime w = some w₀) :
    b.pread runtime args w =
      b.ofOutcome (Executor.finish runtime w (b.executor.launch req w₀).2) (b.executor.launch req w₀).1 := by
  rw [pread_of_request hreq, Executor.launchBlocking_of_start hstart]

/-- The launch that makes `preadCalls` is the one that gives the call of `pread` its value and leaves its world. -/
theorem pread_of_traced (hreq : preadRequest args = .ok req) (hstart : Executor.start? runtime w = some w₀) :
    ∃ outcome after, Launch.run b.executor.collaborators.traced b.executor.launcher req (w₀, []) =
        (outcome, after, preadCalls b runtime args w) ∧
      b.pread runtime args w = b.ofOutcome (Executor.finish runtime w after) outcome := by
  refine ⟨(b.executor.launch req w₀).1, (b.executor.launch req w₀).2, ?_, pread_of_launch hreq hstart⟩
  rw [Launch.run_traced, preadCalls_of_start hreq hstart]
  rfl

/-- Launches that end alike are calls that end alike. -/
theorem pread_alike {w₁ v₁ : World} (hreq : preadRequest args = .ok req) (hreq' : preadRequest args' = .ok req')
    (hstart : Executor.start? runtime w = some w₀)
    (h : Alike (World.Alongside w₁ v₁) (b.executor.launch req w₀) (b.executor.launch req' w₀)) :
    (b.pread runtime args w).value = (b.pread runtime args' w).value ∧
      (b.pread runtime args w).builtins = (b.pread runtime args' w).builtins ∧
      World.Alongside w₁ v₁ (b.pread runtime args w).world (b.pread runtime args' w).world := by
  obtain ⟨outcome, v, v', hlaunch, hlaunch', hv⟩ := h.exists_eq
  have hends := Executor.finish_alongside runtime w hv
  rw [pread_of_launch hreq hstart, pread_of_launch hreq' hstart, hlaunch, hlaunch']
  cases outcome with
  | ok bytes => exact ⟨rfl, rfl, hends⟩
  | error e => exact ⟨rfl, rfl, (hends.record _).tell _ _ _ _⟩

/-! ## What is handed over -/

/-- A call of `pread` in `w` hands a plan to the system, when the world is `w₁`, and no other one: that of the program
it has found, with the arguments that some slots come to. -/
structure HandsOver (b : Builtins) (runtime : Runtime) (args : CallArgs) (w : World) (slots : List Value)
    (program : Path) (plan : SpawnPlan) (w₁ : World) : Prop where
  found : ∃ req w₀, preadRequest args = .ok req ∧ Executor.start? runtime w = some w₀ ∧
    b.executor.Locates req w₀ program ∧ b.executor.ComesTo req w₀ program w₁
  once : Event.spawns (preadCalls b runtime args w) = [(plan, (b.executor.collaborators.spawn plan w₁).1)]
  program_eq : plan.program = program
  /-- An empty vector is made up by the program's path. -/
  argv : ∃ argv, Arguments slots argv ∧ plan.argv = if argv = [] then [program] else argv
  /-- A child that is a program of the system, and no script, has these arguments. -/
  seen : ∀ child sys id mode utility, w₁.sys.spawn plan = .ok (child, sys) → w₁.sys.executes plan = some id →
    w₁.sys.tree.node? id = some ⟨mode, .utility utility⟩ → child.program = ⟨utility, plan.argv⟩

theorem handsOver_of_acquired {array : ScriptArray} (hreq : preadRequest args = .ok req)
    (hargs : req.args = array.toArgList) (hstart : Executor.start? runtime w = some w₀)
    (h : .reserved ∈ Event.slots (trace b.executor.collaborators b.executor.launcher req w₀)) :
    ∃ program w₁, b.executor.ComesTo req w₀ program w₁ ∧
      HandsOver b runtime args w array.slots program (.ofArgv program req.args.toArgv) w₁ := by
  obtain ⟨l, w₁, program, hsteps, hstage, honce⟩ := Launch.spawns_of_acquired h
  have hcomes : b.executor.ComesTo req w₀ program w₁ := ⟨l, hsteps, hstage⟩
  refine ⟨program, w₁, hcomes, {
    found := ⟨req, w₀, hreq, hstart, (Executor.prepared hsteps hstage).1, hcomes⟩
    once := (congrArg Event.spawns (preadCalls_of_start hreq hstart)).trans honce
    program_eq := Executor.ofArgv_program _
    argv := ⟨_, arguments_toArgv array.slots array.named, ?_⟩
    seen := fun _ _ _ _ _ hspawn hfile hnode => Host.System.program_of_utility hspawn hfile hnode }⟩
  rw [hargs]
  exact SpawnPlan.ofArgv_argv _ _

/-- Any other array is handed over to the same program on the same host, and the same file is executed. -/
theorem handsOver_withArgv {program : Path} {w₁ : World} (hreq : preadRequest args = .ok req)
    (hstart : Executor.start? runtime w = some w₀) (hcomes : b.executor.ComesTo req w₀ program w₁)
    (hacquired : .reserved ∈ Event.slots (trace b.executor.collaborators b.executor.launcher req w₀))
    (other : ScriptArray) :
    ∃ plan w₂, HandsOver b runtime (args.withArgv other) w other.slots program plan w₂ ∧ w₂.sys = w₁.sys ∧
      ∀ child child' sys sys', w₁.sys.spawn (.ofArgv program req.args.toArgv) = .ok (child, sys) →
        w₂.sys.spawn plan = .ok (child', sys') →
        w₁.sys.executes (.ofArgv program req.args.toArgv) = w₂.sys.executes plan ∧
          child.program.utility = child'.program.utility := by
  have hsame : req.SameButArgs { req with args := other.toArgList } := ⟨rfl, rfl, rfl⟩
  obtain ⟨program', w₂, hcomes', hhands⟩ := handsOver_of_acquired (preadRequest_withArgv hreq other) rfl hstart
    (Launch.acquired_congr hsame hacquired)
  obtain ⟨rfl, hsys⟩ := hcomes.congr hsame.cmd hsame.changeDir hcomes'
  exact ⟨_, w₂, hhands, hsys.symm, fun child child' sys sys' hspawn hspawn' =>
    hcomes.executes hsame.cmd hsame.changeDir hcomes' hspawn hspawn'⟩

/-! ## Named entries -/

/-- Named entries show in one warning, right after the guard was taken. -/
theorem named_shows_in_warning {slots : List Value} (hreq : preadRequest args = .ok req)
    (hstart : Executor.start? runtime w = some w₀)
    (hacquired : .reserved ∈ Event.slots (trace b.executor.collaborators b.executor.launcher req w₀)) :
    ∃ way more w₁, ∀ named : Named Value,
      let bare := b.pread runtime (args.withArgv ⟨slots, []⟩) w
      let called := b.pread runtime (args.withArgv ⟨slots, named⟩) w
      preadCalls b runtime (args.withArgv ⟨slots, named⟩) w = way ++ Launch.acquisition ++
        (if named.isEmpty then [] else [.warn Launch.namedWarning]) ++ more ∧
      called.value = bare.value ∧ called.builtins = bare.builtins ∧
      if named.isEmpty then called.world = bare.world
      else World.Alongside w₁ (b.executor.warn Launch.namedWarning w₁) bare.world called.world := by
  let errand (named : Named Value) : Request := { req with args := (ScriptArray.mk slots named).toArgList }
  have herrand : ∀ named, preadRequest (args.withArgv ⟨slots, named⟩) = .ok (errand named) := fun named =>
    preadRequest_withArgv hreq ⟨slots, named⟩
  have hparts := @Executor.trace_of_named b.executor (errand []) (errand [("", .null)])
    ⟨⟨rfl, rfl, rfl⟩, rfl⟩ rfl rfl w₀
  have hsame : req.SameButArgs (errand []) := ⟨rfl, rfl, rfl⟩
  rw [if_pos (Launch.acquired_congr hsame hacquired)] at hparts
  obtain ⟨w₁, way, more, hbare, hnamed, halike⟩ := hparts
  refine ⟨way, more, w₁, fun named => ?_⟩
  rw [preadCalls_of_start (herrand named) hstart]
  cases named with
  | nil => exact ⟨by simpa using hbare, rfl, rfl, rfl⟩
  | cons entry rest =>
    -- what the keys are makes no difference
    have hlaunch : (errand [("", .null)]).SameLaunch (errand (entry :: rest)) := ⟨rfl, rfl, rfl, rfl, rfl⟩
    have hends := pread_alike (b := b) (herrand []) (herrand (entry :: rest)) hstart
      (by rw [Executor.launch, Executor.launch, ← Launch.run_congr hlaunch]; exact halike)
    refine ⟨?_, hends.1.symm, hends.2.1.symm, hends.2.2⟩
    rw [trace, ← Launch.run_congr hlaunch]
    exact hnamed.trans (by simp)

/-! ## Calls that take the guard -/

/-- A call of `pread` that takes the guard hands the scalars of its array's slots over, in order, to a program and a
file that do not depend on them, and the array's named entries do no more than to be warned of. -/
theorem pread_hands_over_slots (b : Builtins) (runtime : Runtime) {args : CallArgs} {array : ScriptArray} {w : World}
    (hargv : args.byName? "argv" = some (.ofArray array))
    (hacquired : .reserved ∈ Event.slots (preadCalls b runtime args w)) :
    (∃ program plan w₁, HandsOver b runtime args w array.slots program plan w₁ ∧
      ∀ other : ScriptArray, ∃ plan' w₂,
        HandsOver b runtime (args.withArgv other) w other.slots program plan' w₂ ∧ w₂.sys = w₁.sys ∧
        ∀ child child' sys sys', w₁.sys.spawn plan = .ok (child, sys) → w₂.sys.spawn plan' = .ok (child', sys') →
          w₁.sys.executes plan = w₂.sys.executes plan' ∧ child.program.utility = child'.program.utility) ∧
    ∀ slots : List Value, ∃ way more w₁, ∀ named : Named Value,
      let bare := b.pread runtime (args.withArgv ⟨slots, []⟩) w
      let called := b.pread runtime (args.withArgv ⟨slots, named⟩) w
      preadCalls b runtime (args.withArgv ⟨slots, named⟩) w = way ++ Launch.acquisition ++
        (if named.isEmpty then [] else [.warn Launch.namedWarning]) ++ more ∧
      called.value = bare.value ∧ called.builtins = bare.builtins ∧
      if named.isEmpty then called.world = bare.world
      else World.Alongside w₁ (b.executor.warn Launch.namedWarning w₁) bare.world called.world := by
  obtain ⟨event, hevent, -⟩ := List.mem_filterMap.mp hacquired
  obtain ⟨req, w₀, hreq, hstart⟩ := exists_of_mem_preadCalls hevent
  rw [preadCalls_of_start hreq hstart] at hacquired
  constructor
  · obtain ⟨program, w₁, hcomes, hhands⟩ := handsOver_of_acquired hreq (preadRequest_argv hargv hreq) hstart hacquired
    exact ⟨program, _, w₁, hhands, handsOver_withArgv hreq hstart hcomes hacquired⟩
  · exact fun slots => named_shows_in_warning hreq hstart hacquired

/-- Holes, one of them in front, and bytes that are no text. -/
theorem pread_hands_over_slots_of_sparse_array :
    let b : Builtins := { executor := { launcher := { searchPath := some "/w/bin" } } }
    let array : ScriptArray := ⟨[.null, .int (-7), .array [.int 1] [], .data [0xff], .str ""], [("key", .int 2)]⟩
    let args : CallArgs := .ofLists [] [("cmd", .str "tool"), ("cd", .int 1), ("argv", .ofArray array)]
    .reserved ∈ Event.slots (preadCalls b .task args Executor.toolWorld) ∧
      ∃ program plan w₁, HandsOver b .task args Executor.toolWorld array.slots program plan w₁ ∧
        plan.argv = [utf8 "-7", [0xff], []] := by
  intro b array args
  let bare : Request := { cmd := "tool", changeDir := true }
  have hsteps : Launch.Steps b.executor.collaborators b.executor.launcher bare {} Executor.toolWorld _ _ :=
    Launch.advance_steps Launch.Stage.isWarning {} Executor.toolWorld
  have hstage : (Launch.advance b.executor.collaborators b.executor.launcher bare Launch.Stage.isWarning {}
      Executor.toolWorld).1.stage = .warning (utf8 "/w/bin/tool") := by cbv
  have hsame : bare.SameButArgs { bare with args := array.toArgList } := ⟨rfl, rfl, rfl⟩
  have hargv : args.byName? "argv" = some (.ofArray array) := by cbv
  have hreq : preadRequest args = .ok { cmd := "tool", args := array.toArgList, changeDir := true } := by cbv
  have hacquired : .reserved ∈ Event.slots (preadCalls b .task args Executor.toolWorld) := by
    rw [preadCalls_of_start hreq rfl]
    exact Launch.acquired_congr hsame (Launch.acquired_of_warning hsteps hstage)
  obtain ⟨⟨program, plan, w₁, hhands, -⟩, -⟩ := pread_hands_over_slots b .task hargv hacquired
  obtain ⟨argv, hslots, hseen⟩ := hhands.argv
  refine ⟨hacquired, program, plan, w₁, hhands, ?_⟩
  rw [hslots.unique (.null (.int (.nested (.data (.str .nil)))))] at hseen
  exact hseen

end Builtins

end ScriptExec
