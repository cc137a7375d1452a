-- SUMMARY: A runtime of its own makes no difference to a launch if there are descriptors enough.
import ScriptExec.Proofs.Executor.Relocation
import ScriptExec.Proofs.Host.Choice
import ScriptExec.Proofs.Launch.Agreement

/-!
# Descriptors for runtimes

A launch that is waited for may need a runtime, and the runtime takes descriptors as long as the launch goes on. Of
those the launch sees nothing but whether a child can still be created (`System.reserving_spawn`). If it can be whenever
it could have been without the runtime, then waiting makes no difference (`launchBlocking_eq_launch`). It never makes
one to a launch that comes to no child (`launchBlocking_of_childless`).
-/

namespace ScriptExec

namespace Host

/-- The host, with so many descriptors taken. -/
def System.reserving (sys : System) (n : Nat) : System :=
  { sys with reserved := n }

theorem System.reserving_self (sys : System) : sys.reserving sys.reserved = sys := rfl

namespace Program

variable (sys : System) (n : Nat)

theorem follow_reserving (scripts : Nat) (path : Path) (argv : List Bytes) :
    follow (sys.reserving n) scripts path argv = follow sys scripts path argv := by
  have hexecutable : ∀ path, executable (sys.reserving n) path = executable sys path := fun _ => rfl
  induction scripts generalizing path argv with
  | zero => rw [follow, follow, hexecutable]
  | succ scripts ih =>
    rw [follow, follow, hexecutable]
    simp only [ih]

theorem ofPath_reserving (path : Path) (argv : List Bytes) :
    ofPath (sys.reserving n) path argv = ofPath sys path argv := by
  unfold ofPath
  rw [follow_reserving]
  rfl

theorem inEntries_reserving (name : Bytes) (argv entries : List Bytes) (denied : Bool) :
    inEntries (sys.reserving n) name argv denied entries = inEntries sys name argv denied entries := by
  induction entries generalizing denied with
  | nil => rfl
  | cons entry entries ih =>
    rw [inEntries, inEntries]
    simp only [ofPath_reserving, ih]

/-- What a name starts does not depend on descriptors. -/
theorem ofName_reserving (name : Bytes) (argv : List Bytes) :
    ofName (sys.reserving n) name argv = ofName sys name argv := by
  unfold ofName
  rw [ofPath_reserving, inEntries_reserving]
  rfl

end Program

namespace System

variable {sys : System} {n : Nat}

theorem reserving_changeDir (path : Path) :
    (sys.reserving n).changeDir path = (sys.changeDir path).map (·.reserving n) := by
  simp only [changeDir, reserving]
  cases sys.tree.resolve sys.cwd true path with
  | error cause => rfl
  | ok found =>
    dsimp only [bind, Except.bind]
    split
    · rfl
    · split <;> rfl

theorem hasFree_reserving (m : Nat) :
    (sys.reserving (sys.reserved + n)).hasFree m = sys.hasFree (n + m) := by
  unfold hasFree reserving
  exact decide_eq_decide.mpr (by dsimp only; omega)

theorem hasFree_of_le {m : Nat} (hle : m ≤ n) (h : sys.hasFree n = true) : sys.hasFree m = true := by
  unfold hasFree at h ⊢
  have := of_decide_eq_true h
  exact decide_eq_true (by omega)

/-- A child is the same, if there are descriptors for it. -/
theorem reserving_spawn (hfree : (sys.reserving n).hasFree spawnDescriptors = sys.hasFree spawnDescriptors)
    (plan : SpawnPlan) :
    (sys.reserving n).spawn plan = (sys.spawn plan).map fun created => (created.1, created.2.reserving n) := by
  unfold spawn
  rw [hfree, Program.ofName_reserving]
  split
  · rfl
  · split
    · rfl
    · cases Program.ofName sys plan.program plan.argv <;> rfl

/-- A child does not see its parent's descriptors. -/
theorem reserving_runChild (child : Child) :
    Shell.runChild (sys.reserving n) child =
      ((Shell.runChild sys child).1, (Shell.runChild sys child).2.reserving n) := rfl

end System

end Host

open Host

/-- The world, with so many descriptors taken by the process. -/
def World.reserving (w : World) (n : Nat) : World :=
  { w with sys := w.sys.reserving n }

/-- A launch that began in `w₀` has come to `w`, and with `n` descriptors taken to `v`. The two differ in nothing else,
and how many may be taken for a child still to be created is the same as in `w₀`. -/
structure World.SameButReserved (w₀ : World) (n : Nat) (w v : World) : Prop where
  world : v = w.reserving n
  reserved : w.sys.reserved = w₀.sys.reserved
  free : ∀ m, (w.sys.reserving m).hasFree System.spawnDescriptors =
    (w₀.sys.reserving m).hasFree System.spawnDescriptors

namespace World.SameButReserved

variable {w₀ w v : World} {n : Nat}

theorem start (w₀ : World) (n : Nat) : SameButReserved w₀ n w₀ (w₀.reserving n) :=
  ⟨rfl, rfl, fun _ => rfl⟩

/-- Giving the descriptors back leads to the one world from the other. -/
theorem giveBack (h : SameButReserved w₀ n w v) : v.reserving w₀.sys.reserved = w := by
  rw [h.world, ← h.reserved]
  rfl

theorem children (h : SameButReserved w₀ n w v)
    (hfree : (w₀.sys.reserving n).hasFree System.spawnDescriptors = w₀.sys.hasFree System.spawnDescriptors) :
    (w.sys.reserving n).hasFree System.spawnDescriptors = w.sys.hasFree System.spawnDescriptors := by
  have hsame := h.free w₀.sys.reserved
  rw [← h.reserved, System.reserving_self, h.reserved, System.reserving_self] at hsame
  rw [h.free, hfree, hsame]

theorem record (h : SameButReserved w₀ n w v) (record : Log.Record) :
    SameButReserved w₀ n (w.record record) (v.record record) := by
  obtain ⟨rfl, hreserved, hfree⟩ := h
  exact ⟨rfl, hreserved, hfree⟩

theorem setSlot (h : SameButReserved w₀ n w v) (guard : Nat) (slot : Slot) :
    SameButReserved w₀ n (w.setSlot guard slot) (v.setSlot guard slot) := by
  obtain ⟨rfl, hreserved, hfree⟩ := h
  exact ⟨rfl, hreserved, hfree⟩

theorem tell (h : SameButReserved w₀ n w v) (sink : Sink) (guard : Nat) (kind : Report.Kind) (text : String) :
    SameButReserved w₀ n (w.tell sink guard kind text) (v.tell sink guard kind text) := by
  obtain ⟨rfl, hreserved, hfree⟩ := h
  cases sink <;> cases kind <;> exact ⟨rfl, hreserved, hfree⟩

/-- A system call that leaves the open files and the limits alone. -/
theorem withSys {sys : System} (h : SameButReserved w₀ n w v)
    (hfree : ∀ m, (sys.reserving m).hasFree System.spawnDescriptors =
      (w.sys.reserving m).hasFree System.spawnDescriptors)
    (hreserved : sys.reserved = w.sys.reserved) :
    SameButReserved w₀ n { w with sys } { v with sys := sys.reserving n } := by
  obtain ⟨rfl, hsame, hfree₀⟩ := h
  exact ⟨rfl, hreserved.trans hsame, fun m => (hfree m).trans (hfree₀ m)⟩

end World.SameButReserved

namespace Executor

open Launch World

variable (executor : Executor)

/-- Until it asks for a child, an executor does not see the difference. -/
theorem agree_sameButReserved (w₀ : World) (n : Nat) :
    Collaborators.Agree (SameButReserved w₀ n) executor.collaborators executor.collaborators where
  current h := by
    rw [h.world]
    rfl
  change path w v h := by
    have hv : v.sys = w.sys.reserving n := congrArg World.sys h.world
    simp only [collaborators, directories, hv, System.reserving_changeDir]
    cases hchange : w.sys.changeDir path with
    | error cause => exact ⟨rfl, h⟩
    | ok sys =>
      obtain ⟨-, -, hsys⟩ := changeDir_ok hchange
      exact ⟨rfl, h.withSys (fun _ => by rw [hsys]; rfl) (by rw [hsys])⟩
  log record _ _ h := h.record record
  becomeUser user w v h := by
    have htold := h.tell executor.sink executor.guard .userRequest user
    have hidentity : (v.tell executor.sink executor.guard .userRequest user).identity =
        (w.tell executor.sink executor.guard .userRequest user).identity := by
      rw [htold.world]
      rfl
    simp only [collaborators, becomeUser, hidentity]
    refine ⟨rfl, ?_⟩
    dsimp only
    split
    · exact htold.record _
    · exact htold
  find name w v h := by
    have hfound : (executor.lookup v.sys).find v.sys.isExecutableFile (utf8 name) =
        (executor.lookup w.sys).find w.sys.isExecutableFile (utf8 name) := by
      rw [h.world]
      rfl
    simp only [collaborators, find, hfound]
    refine ⟨rfl, ?_⟩
    dsimp only
    split
    · exact h.record _
    · exact h
  slot h := by
    rw [h.world]
    rfl
  setSlot slot _ _ h := h.setSlot executor.guard slot
  error text _ _ h := h.tell executor.sink executor.guard .error text
  warn text _ _ h := h.tell executor.sink executor.guard .warning text

/-- It does not see it at all, if a child can be created with those descriptors taken whenever it can without. -/
theorem agreeFully_sameButReserved {w₀ : World} {n : Nat}
    (hfree : (w₀.sys.reserving n).hasFree System.spawnDescriptors = w₀.sys.hasFree System.spawnDescriptors) :
    Collaborators.AgreeFully (SameButReserved w₀ n) executor.collaborators executor.collaborators where
  toAgree := executor.agree_sameButReserved w₀ n
  spawn plan w v h := by
    have hv : v.sys = w.sys.reserving n := congrArg World.sys h.world
    simp only [collaborators, hv, System.reserving_spawn (h.children hfree)]
    cases hspawn : w.sys.spawn plan with
    | error cause => exact ⟨rfl, h⟩
    | ok created =>
      obtain ⟨-, hsys⟩ := System.spawn_ok hspawn
      exact ⟨rfl, h.withSys (fun _ => by rw [hsys]; rfl) (by rw [hsys])⟩
  pid? _ := rfl
  outputs chunk child w v h := by
    have hv : v.sys = w.sys.reserving n := congrArg World.sys h.world
    simp only [collaborators, hv, System.reserving_runChild]
    exact ⟨rfl, h.withSys (fun _ => rfl) rfl⟩

/-- The descriptors for a runtime can be had, if one is needed, and taking them is not what leaves too few for a
child. -/
def HasRoom (runtime : Runtime) (sys : System) : Prop :=
  needsRuntime runtime = true → sys.hasFree runtimeDescriptors = true ∧
    (sys.hasFree System.spawnDescriptors = true →
      sys.hasFree (runtimeDescriptors + System.spawnDescriptors) = true)

/-- Who needs a runtime launches with its descriptors taken, and gives them back. -/
theorem launchBlocking_of_runtime {runtime : Runtime} {w : World} (hneeds : needsRuntime runtime = true)
    (hroom : w.sys.hasFree runtimeDescriptors = true) (req : Request) :
    let launched := executor.launch req (w.reserving (w.sys.reserved + runtimeDescriptors))
    executor.launchBlocking runtime req w = (launched.1, launched.2.reserving w.sys.reserved) := by
  rw [launchBlocking, if_pos hneeds, if_pos hroom]
  rfl

/-- To wait for a launch makes no difference to it, if there are descriptors for a runtime and the launch is the same
with them taken. -/
theorem launchBlocking_of_alike {runtime : Runtime} {w : World} {req : Request}
    (hroom : needsRuntime runtime = true → w.sys.hasFree runtimeDescriptors = true)
    (halike : needsRuntime runtime = true → Alike (SameButReserved w (w.sys.reserved + runtimeDescriptors))
      (executor.launch req w) (executor.launch req (w.reserving (w.sys.reserved + runtimeDescriptors)))) :
    executor.launchBlocking runtime req w = executor.launch req w := by
  cases hneeds : needsRuntime runtime with
  | false => rw [launchBlocking, hneeds, if_neg Bool.false_ne_true]
  | true =>
    obtain ⟨houtcome, hworld⟩ := halike hneeds
    rw [launchBlocking_of_runtime executor hneeds (hroom hneeds)]
    exact Prod.ext houtcome.symm hworld.giveBack

/-- With room for a runtime, to wait for a launch makes no difference to it. -/
theorem launchBlocking_eq_launch {runtime : Runtime} {w : World} (h : HasRoom runtime w.sys) (req : Request) :
    executor.launchBlocking runtime req w = executor.launch req w := by
  apply executor.launchBlocking_of_alike (fun hneeds => (h hneeds).1)
  intro hneeds
  obtain ⟨-, hchild⟩ := h hneeds
  have hfree : (w.sys.reserving (w.sys.reserved + runtimeDescriptors)).hasFree System.spawnDescriptors =
      w.sys.hasFree System.spawnDescriptors := by
    rw [System.hasFree_reserving, Bool.eq_iff_iff]
    exact ⟨System.hasFree_of_le (Nat.le_add_left _ _), hchild⟩
  exact complete_alike executor.launcher req (executor.agreeFully_sameButReserved hfree) {} (SameButReserved.start w _)

/-- Nor does it to a launch that comes to no child, however few descriptors the runtime leaves for one. -/
theorem launchBlocking_of_childless {runtime : Runtime} {w : World} {req : Request}
    (hroom : needsRuntime runtime = true → w.sys.hasFree runtimeDescriptors = true)
    (hnone : ∀ l w', Steps executor.collaborators executor.launcher req {} w l w' → l.stage.hasChild = false) :
    executor.launchBlocking runtime req w = executor.launch req w :=
  executor.launchBlocking_of_alike hroom fun _ =>
    complete_alike_of_childless executor.launcher req (executor.agree_sameButReserved w _) (SameButReserved.start w _)
      hnone

end Executor

end ScriptExec
