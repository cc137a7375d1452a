-- SUMMARY: Launches side by side that change the directory: nested they come back, crossed they get lost.
import ScriptExec.Proofs.Concurrent.Exclusion
import ScriptExec.Proofs.Launch.Away

/-!
# Nested launches

The working directory belongs to the whole process, and a launch notes and changes it before it has the
guard. So launches whose ways cross get lost (`crossing_launches_get_lost`). They do not if their ways are
nested: while a launch is away, it uses the directory only when all that have left later have come back
(`Moment.nests`). Then the launches that are away form a chain from the first directory to the current
one (`Chain`), every child starts in the directory of its command, and in the end the process is where
it was (`nested_launches_keep_places`).
-/

namespace ScriptExec.Launch

variable {σ κ δ : Type}

/-! ## Nested orders of turns -/

namespace Moment

/-- One of the launches is away. -/
def isAway (m : Moment σ κ) (i : Nat) : Bool :=
  (m.tasks[i]?).any (·.inFlight.isAway)

/-- One of the launches is away, and its next step uses the directory. -/
def usesDir (m : Moment σ κ) (i : Nat) : Bool :=
  (m.tasks[i]?).any fun t => t.inFlight.isAway && t.inFlight.usesDir

/-- The launches that are away after a turn, the last one to leave first. -/
def awayAfter (m : Moment σ κ) (i : Nat) (away : List Nat) : List Nat :=
  match m.isAway i, (m.turn i).isAway i with
  | false, true => i :: away
  | true, false => away.tail
  | _, _ => away

/-- A launch that is away uses the directory only when all that have left later are back. -/
def nests (m : Moment σ κ) (away : List Nat) : List Nat → Bool
  | [] => true
  | i :: order =>
    (!m.usesDir i || away.head? == some i) && (m.turn i).nests (m.awayAfter i away) order

variable {m : Moment σ κ} {i : Nat} {t : Task σ κ} {away : List Nat}

theorem isAway_eq (ht : m.tasks[i]? = some t) : m.isAway i = t.inFlight.isAway := by
  simp [isAway, ht]

theorem usesDir_eq (ht : m.tasks[i]? = some t) :
    m.usesDir i = (t.inFlight.isAway && t.inFlight.usesDir) := by
  simp [usesDir, ht]

theorem exists_of_isAway (h : m.isAway i = true) : ∃ t ∈ m.tasks, t.inFlight.isAway = true := by
  unfold isAway at h
  cases ht : m.tasks[i]? with
  | none => simp [ht] at h
  | some t => exact ⟨t, List.mem_of_getElem? ht, by simpa [ht] using h⟩

theorem isAway_of_usesDir (h : m.usesDir i = true) : m.isAway i = true := by
  unfold usesDir at h
  unfold isAway
  cases ht : m.tasks[i]? with
  | none => simp [ht] at h
  | some t => simp_all

theorem isAway_turn_ne {j : Nat} (h : j ≠ i) : (m.turn i).isAway j = m.isAway j := by
  rw [isAway, turn_tasks_ne h, isAway]

theorem awayAfter_of_same (h : (m.turn i).isAway i = m.isAway i) : m.awayAfter i away = away := by
  rw [awayAfter, h]
  cases m.isAway i <;> rfl

end Moment

/-! ## Places -/

/-- The directories are in place: the current one has the path by which it is known, those that are
known can be entered by their paths, and a path that can be entered leads where it always does. -/
structure InPlace (leads : Path → δ → Option δ) (pathOf : δ → Option Path) (cwd : σ → δ)
    (c : Collaborators σ κ) (w : σ) : Prop where
  noted : ∃ path, c.current w = .ok path ∧ pathOf (cwd w) = some path
  known : ∀ dir path, pathOf dir = some path →
    (c.change path w).1 = .ok () ∧ cwd (c.change path w).2 = dir
  entered : ∀ path, (c.change path w).1 = .ok () →
    leads path (cwd w) = some (cwd (c.change path w).2)

/-- The directories are in place for all launches. -/
def Moment.InPlace (m : Moment σ κ) (leads : Path → δ → Option δ) (pathOf : δ → Option Path)
    (cwd : σ → δ) : Prop :=
  ∀ t ∈ m.tasks, Launch.InPlace leads pathOf cwd t.collaborators m.world

variable {leads : Path → δ → Option δ} {pathOf : δ → Option Path} {cwd : σ → δ}

/-- Where a launch that is away has come from, and where it has gone. -/
inductive Position (leads : Path → δ → Option δ) (pathOf : δ → Option Path) (t : Task σ κ) (home : δ) :
    δ → Prop
  | leaving {program path dir held}
      (hflight : t.inFlight = ⟨.enteringDir program (.ok path), dir, held⟩)
      (hback : pathOf home = some path) : Position leads pathOf t home home
  | abroad {path target here} (hleg : t.inFlight.stage.leg = .abroad)
      (hdir : t.inFlight.dir = some ⟨some path, target, false⟩)
      (hprogram : ∀ program, t.inFlight.stage.program? = some program →
        target = Path.containingDir program)
      (hthere : leads target home = some here)
      (hback : pathOf home = some path) : Position leads pathOf t home here

/-- The launches that are away, the last one to leave first: each has left where the one before it has
gone, and the first of them where all began. -/
inductive Chain (leads : Path → δ → Option δ) (pathOf : δ → Option Path) (tasks : List (Task σ κ))
    (base : δ) : List Nat → δ → Prop
  | nil : Chain leads pathOf tasks base [] base
  | cons {i t outer home here} (ht : tasks[i]? = some t)
      (hposition : Position leads pathOf t home here)
      (houter : Chain leads pathOf tasks base outer home) :
      Chain leads pathOf tasks base (i :: outer) here

variable {tasks tasks' : List (Task σ κ)} {base here : δ} {away : List Nat}

/-- Who has not left yet is where it has noted to be. -/
theorem Position.of_entering {t : Task σ κ} {home : δ} (h : Position leads pathOf t home here)
    {program : Path} {saved : Except IoError Path} {dir : Option DirectoryContext} {held : Bool}
    (hflight : t.inFlight = ⟨.enteringDir program saved, dir, held⟩) :
    home = here ∧ ∃ path, saved = .ok path ∧ pathOf home = some path := by
  cases h with
  | leaving hflight' hback =>
    rw [hflight] at hflight'
    cases hflight'
    exact ⟨rfl, _, rfl, hback⟩
  | abroad hleg =>
    rw [hflight] at hleg
    cases hleg

/-- Who has left is in a context that leads from there and back. -/
theorem Position.of_abroad {t : Task σ κ} {home : δ} (h : Position leads pathOf t home here)
    (hleg : t.inFlight.stage.leg = .abroad) :
    ∃ path target, t.inFlight.dir = some ⟨some path, target, false⟩ ∧
      (∀ program, t.inFlight.stage.program? = some program → target = Path.containingDir program) ∧
      leads target home = some here ∧ pathOf home = some path := by
  cases h with
  | leaving hflight =>
    rw [hflight] at hleg
    cases hleg
  | abroad _ hdir hprogram hthere hback => exact ⟨_, _, hdir, hprogram, hthere, hback⟩

/-- Who has left, and goes on without using the directory, keeps its position. -/
theorem Position.goOn {t t' : Task σ κ} {home : δ} (h : Position leads pathOf t home here)
    (hleg : t.inFlight.stage.leg = .abroad) (hleg' : t'.inFlight.stage.leg = .abroad)
    (hprogram : ∀ program, t'.inFlight.stage.program? = some program →
      t.inFlight.stage.program? = some program)
    (hdir : t'.inFlight.dir = t.inFlight.dir) : Position leads pathOf t' home here := by
  obtain ⟨path, target, hcontext, htarget, hthere, hback⟩ := h.of_abroad hleg
  refine .abroad hleg' (hdir.trans hcontext) (fun program hahead => ?_) hthere hback
  exact htarget program (hprogram program hahead)

/-- A chain stays a chain if its launches keep their positions. -/
theorem Chain.mono (h : Chain leads pathOf tasks base away here)
    (hkept : ∀ i ∈ away, ∀ t, tasks[i]? = some t → ∃ t', tasks'[i]? = some t' ∧
      ∀ home here, Position leads pathOf t home here → Position leads pathOf t' home here) :
    Chain leads pathOf tasks' base away here := by
  induction h with
  | nil => exact .nil
  | @cons i t outer home here ht hposition _ ih =>
    obtain ⟨t', ht', hmove⟩ := hkept i List.mem_cons_self t ht
    exact .cons ht' (hmove home here hposition) (ih fun j hj => hkept j (List.mem_cons_of_mem i hj))

/-- What is known of launches on nested ways. -/
structure OnNestedWays (leads : Path → δ → Option δ) (pathOf : δ → Option Path) (cwd : σ → δ)
    (base : δ) (away : List Nat) (m : Moment σ κ) : Prop where
  keeps : ∀ t ∈ m.tasks, KeepsDir t.collaborators cwd
  fits : ∀ t ∈ m.tasks, t.inFlight.Fits t.request
  away_iff : ∀ i, m.isAway i = true ↔ i ∈ away
  nodup : away.Nodup
  chain : Chain leads pathOf m.tasks base away (cwd m.world)

variable {m : Moment σ κ} {i : Nat} {t : Task σ κ}

/-- A turn of a launch that is not away leaves the chain as it is. -/
theorem Chain.other (h : Chain leads pathOf m.tasks base away here) (hi : i ∉ away) :
    Chain leads pathOf (m.turn i).tasks base away here := by
  refine h.mono fun j hj t ht => ⟨t, ?_, fun _ _ => id⟩
  have hji : j ≠ i := fun heq => hi (heq ▸ hj)
  rw [Moment.turn_tasks_ne hji, ht]

/-- The last launch to leave is where the process is. -/
theorem Chain.top (h : Chain leads pathOf tasks base away here) (ht : tasks[i]? = some t)
    (hlast : away.head? = some i) : ∃ outer home, away = i :: outer ∧
      Position leads pathOf t home here ∧ Chain leads pathOf tasks base outer home := by
  cases h with
  | nil => cases hlast
  | @cons j t' outer home _ ht' hposition houter =>
    obtain rfl : j = i := Option.some.inj hlast
    obtain rfl : t' = t := Option.some.inj (ht'.symm.trans ht)
    exact ⟨outer, home, rfl, hposition, houter⟩

theorem Task.atDir (t : Task σ κ) (hkeeps : KeepsDir t.collaborators cwd)
    (hfits : t.inFlight.Fits t.request) (w : σ) :
    (t.step w).1.inFlight.Fits t.request ∧
      AtDir t.collaborators cwd t.inFlight w (t.step w).1.inFlight (t.step w).2 := by
  by_cases hgoing : t.inFlight.stage.outcome? = none
  · have hstep := step_spec t.collaborators t.launcher t.request w hgoing
    exact ⟨hstep.fits hfits, hstep.atDir hkeeps hfits⟩
  · obtain ⟨outcome, hstage⟩ := Stage.eq_finished hgoing
    have hstill : t.step w = (t, w) := by simp [Task.step, Launch.step, hstage]
    have hhome : t.inFlight.isAway = false := by simp [InFlight.isAway, hstage, Stage.leg]
    rw [hstill]
    exact ⟨hfits, .home hhome hhome rfl⟩

/-- After a turn of one launch, all is well with the others. -/
theorem OnNestedWays.go (h : OnNestedWays leads pathOf cwd base away m) (ht : m.tasks[i]? = some t)
    {away' : List Nat} (haway : (m.turn i).isAway i = true ↔ i ∈ away')
    (hothers : ∀ j, j ≠ i → (j ∈ away ↔ j ∈ away')) (hnodup : away'.Nodup)
    (hchain : Chain leads pathOf (m.turn i).tasks base away' (cwd (t.step m.world).2)) :
    OnNestedWays leads pathOf cwd base away' (m.turn i) where
  keeps t' ht' := by
    obtain ⟨t, ht, hsame⟩ := Moment.of_mem_turn ht'
    rw [← hsame]
    exact h.keeps t ht
  fits t' ht' := by
    obtain ⟨j, hj⟩ := List.mem_iff_getElem?.mp ht'
    rcases Moment.of_turn_getElem? ht hj with ⟨rfl, rfl⟩ | ⟨-, hj⟩
    · have hmem := List.mem_of_getElem? ht
      exact (t.atDir (h.keeps t hmem) (h.fits t hmem) m.world).1
    · exact h.fits t' (List.mem_of_getElem? hj)
  away_iff j := by
    by_cases hji : j = i
    · subst hji
      exact haway
    · rw [Moment.isAway_turn_ne hji]
      exact (h.away_iff j).trans (hothers j hji)
  nodup := hnodup
  chain := by rwa [Moment.turn_world ht]

/-- A launch that is not away does not change the directory. -/
theorem OnNestedWays.stayHome (h : OnNestedWays leads pathOf cwd base away m)
    (ht : m.tasks[i]? = some t) (hbefore : m.isAway i = false) (hafter : (m.turn i).isAway i = false)
    (hcwd : cwd (t.step m.world).2 = cwd m.world) :
    OnNestedWays leads pathOf cwd base (m.awayAfter i away) (m.turn i) := by
  have hi : i ∉ away := by simpa [hbefore] using h.away_iff i
  rw [Moment.awayAfter, hbefore, hafter]
  refine h.go ht (by simp [hafter, hi]) (fun _ _ => Iff.rfl) h.nodup ?_
  rw [hcwd]
  exact h.chain.other hi

/-- Who leaves now is the last one to have left. -/
theorem OnNestedWays.leave (h : OnNestedWays leads pathOf cwd base away m)
    (ht : m.tasks[i]? = some t) (hbefore : m.isAway i = false) (hafter : (m.turn i).isAway i = true)
    (hposition : Position leads pathOf (t.step m.world).1 (cwd m.world) (cwd (t.step m.world).2)) :
    OnNestedWays leads pathOf cwd base (m.awayAfter i away) (m.turn i) := by
  have hi : i ∉ away := by simpa [hbefore] using h.away_iff i
  rw [Moment.awayAfter, hbefore, hafter]
  refine h.go ht (by simp [hafter]) (fun j hj => by simp [hj]) (List.nodup_cons.mpr ⟨hi, h.nodup⟩) ?_
  exact .cons (Moment.turn_tasks_self ht) hposition (h.chain.other hi)

/-- The last one to have left may change the directory. -/
theorem OnNestedWays.move (h : OnNestedWays leads pathOf cwd base away m)
    (ht : m.tasks[i]? = some t) (hlast : away.head? = some i) (hbefore : m.isAway i = true)
    (hafter : (m.turn i).isAway i = true)
    (hposition : ∀ home, Position leads pathOf t home (cwd m.world) →
      Position leads pathOf (t.step m.world).1 home (cwd (t.step m.world).2)) :
    OnNestedWays leads pathOf cwd base (m.awayAfter i away) (m.turn i) := by
  obtain ⟨outer, home, rfl, hthere, houter⟩ := h.chain.top ht hlast
  have hi := (List.nodup_cons.mp h.nodup).1
  rw [Moment.awayAfter, hbefore, hafter]
  refine h.go ht (by simp [hafter]) (fun _ _ => Iff.rfl) h.nodup ?_
  exact .cons (Moment.turn_tasks_self ht) (hposition home hthere) (houter.other hi)

/-- The last one to have left may come back. -/
theorem OnNestedWays.comeBack (h : OnNestedWays leads pathOf cwd base away m)
    (ht : m.tasks[i]? = some t) (hlast : away.head? = some i) (hbefore : m.isAway i = true)
    (hafter : (m.turn i).isAway i = false)
    (hcwd : ∀ home, Position leads pathOf t home (cwd m.world) → cwd (t.step m.world).2 = home) :
    OnNestedWays leads pathOf cwd base (m.awayAfter i away) (m.turn i) := by
  obtain ⟨outer, home, rfl, hthere, houter⟩ := h.chain.top ht hlast
  obtain ⟨hi, hnodup⟩ := List.nodup_cons.mp h.nodup
  rw [Moment.awayAfter, hbefore, hafter]
  refine h.go ht (by simp [hafter, hi]) (fun j hj => by simp [hj]) hnodup ?_
  rw [hcwd home hthere]
  exact houter.other hi

/-- Any launch may go on without using the directory. -/
theorem OnNestedWays.goOn (h : OnNestedWays leads pathOf cwd base away m)
    (ht : m.tasks[i]? = some t) (hsame : (m.turn i).isAway i = m.isAway i)
    (hcwd : cwd (t.step m.world).2 = cwd m.world)
    (hposition : ∀ home here, Position leads pathOf t home here →
      Position leads pathOf (t.step m.world).1 home here) :
    OnNestedWays leads pathOf cwd base (m.awayAfter i away) (m.turn i) := by
  rw [Moment.awayAfter_of_same hsame]
  refine h.go ht (by rw [hsame]; exact h.away_iff i) (fun _ _ => Iff.rfl) h.nodup ?_
  rw [hcwd]
  refine h.chain.mono fun j _ t' ht' => ?_
  by_cases hji : j = i
  · subst hji
    obtain rfl : t = t' := Option.some.inj (ht.symm.trans ht')
    exact ⟨_, Moment.turn_tasks_self ht, hposition⟩
  · exact ⟨t', by rw [Moment.turn_tasks_ne hji, ht'], fun _ _ => id⟩

theorem OnNestedWays.turn (h : OnNestedWays leads pathOf cwd base away m)
    (hplaces : m.InPlace leads pathOf cwd) (hnested : m.usesDir i = true → away.head? = some i) :
    OnNestedWays leads pathOf cwd base (m.awayAfter i away) (m.turn i) := by
  cases ht : m.tasks[i]? with
  | none =>
    have hhere : m.isAway i = false := by simp [Moment.isAway, ht]
    have hsame := Moment.turn_of_none ht
    simpa [Moment.awayAfter, hsame, hhere] using h
  | some t =>
    have hmem := List.mem_of_getElem? ht
    have hdir := (t.atDir (h.keeps t hmem) (h.fits t hmem) m.world).2
    have hbefore := Moment.isAway_eq ht
    have hafter := Moment.isAway_eq (Moment.turn_tasks_self ht)
    have huses := Moment.usesDir_eq ht
    generalize hl : t.inFlight = l at *
    generalize hl' : (t.step m.world).1.inFlight = l' at *
    cases hdir with
    | home hhere hthere hcwd =>
      exact h.stayHome ht (hbefore.trans hhere) (hafter.trans hthere) hcwd
    | notes hcwd =>
      obtain ⟨path, hread, hback⟩ := (hplaces t hmem).noted
      refine h.leave ht hbefore hafter ?_
      rw [hcwd]
      exact .leaving (hl'.trans (by rw [hread])) hback
    | enters hchange hcwd hleg hprogram hdir =>
      have hafter : (m.turn i).isAway i = true := by simp [hafter, InFlight.isAway, hleg, hdir]
      refine h.move ht (hnested huses) hbefore hafter fun home hposition => ?_
      obtain ⟨rfl, path, rfl, hback⟩ := hposition.of_entering hl
      have hentered := (hplaces t hmem).entered _ hchange
      rw [← hcwd] at hentered
      refine .abroad (by rw [hl', hleg]) (by rw [hl', hdir]; rfl) (fun program' hahead => ?_) hentered hback
      rw [hl', hprogram] at hahead
      rw [Option.some.inj hahead]
    | barred hthere hcwd =>
      refine h.comeBack ht (hnested huses) hbefore (hafter.trans hthere) fun home hposition => ?_
      rw [hcwd, (hposition.of_entering hl).1]
    | stays hleg hleg' hprogram hdir hcwd =>
      have hsame : (m.turn i).isAway i = m.isAway i := by
        simp [hbefore, hafter, InFlight.isAway, hleg, hleg', hdir]
      subst hl hl'
      exact h.goOn ht hsame hcwd fun home here hposition => hposition.goOn hleg hleg' hprogram hdir
    | returns hthere hcwd =>
      refine h.comeBack ht (hnested huses) hbefore (hafter.trans hthere) fun home hposition => ?_
      obtain ⟨path, target, hdir, -, -, hback⟩ := hposition.of_abroad (by rw [hl]; rfl)
      rw [hl] at hdir
      rw [hcwd path target (Option.some.inj hdir), ((hplaces t hmem).known home path hback).2]

/-- Turns that are nested as a whole are so up to any of them, and from there on. -/
theorem OnNestedWays.turns (h : OnNestedWays leads pathOf cwd base away m) {before after : List Nat}
    (hplaces : ∀ early, early <+: before → (m.turns early).InPlace leads pathOf cwd)
    (hnested : m.nests away (before ++ after) = true) :
    ∃ away', OnNestedWays leads pathOf cwd base away' (m.turns before) ∧
      (m.turns before).nests away' after = true := by
  induction before generalizing m away with
  | nil => exact ⟨away, h, hnested⟩
  | cons i before ih =>
    simp only [List.cons_append, Moment.nests, Bool.and_eq_true] at hnested
    obtain ⟨hturn, hrest⟩ := hnested
    have hnow : m.InPlace leads pathOf cwd := hplaces [] List.nil_prefix
    refine ih (h.turn hnow fun huses => by simpa [huses] using hturn) (fun early hearly => ?_) hrest
    exact hplaces (i :: early) (List.prefix_cons_inj i |>.mpr hearly)

/-- At first nobody is away. -/
theorem onNestedWays_start {tasks : List (Task σ κ)} (w : σ)
    (hkeeps : ∀ t ∈ tasks, KeepsDir t.collaborators cwd) (hfresh : ∀ t ∈ tasks, t.inFlight = {}) :
    OnNestedWays leads pathOf cwd (cwd w) [] { tasks, world := w } where
  keeps := hkeeps
  fits t ht := by
    rw [hfresh t ht]
    rfl
  away_iff i := by
    refine iff_of_false (fun haway => ?_) List.not_mem_nil
    obtain ⟨t, ht, hleft⟩ := Moment.exists_of_isAway haway
    rw [hfresh t ht] at hleft
    cases hleft
  nodup := List.nodup_nil
  chain := .nil

/-- When all have finished, nobody is away. -/
theorem OnNestedWays.of_isFinished (h : OnNestedWays leads pathOf cwd base away m)
    (hfinished : m.IsFinished) : cwd m.world = base := by
  have hnobody : away = [] := by
    refine List.eq_nil_iff_forall_not_mem.mpr fun i hi => ?_
    obtain ⟨t, ht, hleft⟩ := Moment.exists_of_isAway ((h.away_iff i).mpr hi)
    obtain ⟨outcome, hstage⟩ := Stage.eq_finished (hfinished t ht)
    simp [InFlight.isAway, hstage, Stage.leg] at hleft
  have hchain := h.chain
  rw [hnobody] at hchain
  generalize cwd m.world = here at hchain
  cases hchain
  rfl

/-! ## What follows for the launches -/

/-- A launch is in the directory that holds its program, as seen from the one it has noted. -/
def IsThere (leads : Path → δ → Option δ) (pathOf : δ → Option Path) (t : Task σ κ) (program : Path)
    (here : δ) : Prop :=
  ∃ home saved, t.inFlight.dir = some ⟨some saved, Path.containingDir program, false⟩ ∧
    pathOf home = some saved ∧ leads (Path.containingDir program) home = some here

/-- The children of launches that go to their commands' directories start there, if their programs are
more than a name, and in the end the process is where it was. -/
structure KeepsPlaces (leads : Path → δ → Option δ) (pathOf : δ → Option Path) (cwd : σ → δ)
    (m : Moment σ κ) (order : List Nat) : Prop where
  child : ∀ before i after t program, order = before ++ i :: after →
    (m.turns before).tasks[i]? = some t → t.inFlight.stage = .spawning program →
    t.request.changeDir = true → Byte.slash ∈ program →
    IsThere leads pathOf t program (cwd (m.turns before).world)
  back : (m.turns order).IsFinished → cwd (m.turns order).world = cwd m.world

/-- A launch that creates its child next is at its command's directory if it is the last one to have
left. -/
theorem OnNestedWays.child (h : OnNestedWays leads pathOf cwd base away m)
    (hnested : m.usesDir i = true → away.head? = some i) (ht : m.tasks[i]? = some t)
    {program : Path} (hstage : t.inFlight.stage = .spawning program)
    (hmove : t.request.changeDir = true) : IsThere leads pathOf t program (cwd m.world) := by
  have hleg : t.inFlight.stage.leg = .abroad := by
    rw [hstage]
    rfl
  have hdir : t.inFlight.dir.isSome = true := by
    have hfits := h.fits t (List.mem_of_getElem? ht)
    simpa [InFlight.Fits, hstage, Stage.leg, hmove] using hfits
  have huses : m.usesDir i = true := by
    simp [Moment.usesDir, ht, InFlight.isAway, InFlight.usesDir, hdir, hstage, Stage.leg]
  obtain ⟨outer, home, -, hposition, -⟩ := h.chain.top ht (hnested huses)
  obtain ⟨saved, target, hcontext, hprogram, hthere, hback⟩ := hposition.of_abroad hleg
  obtain rfl := hprogram program (by rw [hstage]; rfl)
  exact ⟨home, saved, hcontext, hback, hthere⟩

/-- Launches whose ways are nested keep their places while the directories stay in theirs, however many
launches there are, whichever of them go to their commands' directories, and whoever gets the guard:
every child of a launch that does starts in the directory of its program, and when all have finished,
each after no more than sixteen turns of its own, the process is where it was before the first of
them. -/
theorem nested_launches_keep_places (leads : Path → δ → Option δ) (pathOf : δ → Option Path)
    (cwd : σ → δ) (tasks : List (Task σ κ)) (w : σ)
    (hkeeps : ∀ t ∈ tasks, KeepsDir t.collaborators cwd) (hfresh : ∀ t ∈ tasks, t.inFlight = {})
    (order : List Nat)
    (hplaces : ∀ early, early <+: order →
      (({ tasks, world := w } : Moment σ κ).turns early).InPlace leads pathOf cwd)
    (hnested : ({ tasks, world := w } : Moment σ κ).nests [] order = true) :
    KeepsPlaces leads pathOf cwd { tasks, world := w } order ∧
      ((∀ i < tasks.length, 16 ≤ order.count i) →
        (({ tasks, world := w } : Moment σ κ).turns order).IsFinished) := by
  have hstart : OnNestedWays leads pathOf cwd (cwd w) [] { tasks, world := w } :=
    onNestedWays_start w hkeeps hfresh
  refine ⟨⟨?_, fun hfinished => ?_⟩, fun hcount => ?_⟩
  · rintro before i after t program rfl ht hstage hmove -
    obtain ⟨away, h, hrest⟩ := hstart.turns
      (fun early hearly => hplaces early (hearly.trans (List.prefix_append _ _))) hnested
    simp only [Moment.nests, Bool.and_eq_true] at hrest
    exact h.child (fun huses => by simpa [huses] using hrest.1) ht hstage hmove
  · rw [← List.append_nil order] at hnested
    obtain ⟨away, h, -⟩ := hstart.turns hplaces hnested
    exact h.of_isFinished hfinished
  · exact Moment.isFinished_of_count (m := { tasks, world := w }) hfresh hcount

/-- In the plain world a path leads to itself from everywhere. -/
theorem plain_inPlace (outputs : Outputs) (w : Slot × Path) :
    InPlace (fun path _ => some path) some Prod.snd (Collaborators.plain outputs) w where
  noted := ⟨w.2, rfl, rfl⟩
  known _ _ hpath := ⟨rfl, (Option.some.inj hpath).symm⟩
  entered _ _ := rfl

/-- A launch in the plain world that goes to its command's directory. -/
def movingTask (cmd : String) : Task (Slot × Path) Unit where
  collaborators := .plain default
  launcher := {}
  request := { cmd, changeDir := true }

/-- Two launches in the plain world, before the first turn. -/
def movingPair : Moment (Slot × Path) Unit where
  tasks := [movingTask "/a/x", movingTask "/b/y"]
  world := (.idle, utf8 "/w")

theorem movingPair_fresh : ∀ t ∈ movingPair.tasks, t.inFlight = {} := by
  simp [movingPair, movingTask]

theorem movingPair_inPlace (order : List Nat) :
    (movingPair.turns order).InPlace (fun path _ => some path) some Prod.snd := by
  intro t ht
  have hplain : t.collaborators = .plain default := by
    have hmem := List.mem_map_of_mem (f := Task.collaborators) ht
    rw [Moment.turns_collaborators] at hmem
    simpa [movingPair, movingTask] using hmem
  rw [hplain]
  exact plain_inPlace default _

/-- The second launch runs while the first one is about to create its child. -/
def innerTurns : List Nat :=
  List.replicate 7 0 ++ List.replicate 16 1 ++ List.replicate 9 0

theorem nested_launches_keep_places_of_inner :
    movingPair.nests [] innerTurns = true ∧
      (movingPair.turns (innerTurns.take 23)).world.2 = utf8 "/a" ∧
      (movingPair.turns innerTurns).world.2 = utf8 "/w" := by
  have hnested : movingPair.nests [] innerTurns = true := by decide +kernel
  have hcount : ∀ i < movingPair.tasks.length, 16 ≤ innerTurns.count i := by decide
  have hkeeps : ∀ t ∈ movingPair.tasks, KeepsDir t.collaborators Prod.snd := by
    simp [movingPair, movingTask, plain_keepsDir]
  obtain ⟨hkept, hfinished⟩ := nested_launches_keep_places (fun path _ => some path) some Prod.snd
    movingPair.tasks movingPair.world hkeeps movingPair_fresh innerTurns
    (fun early _ => movingPair_inPlace early) hnested
  have hsight : ((movingPair.turns (innerTurns.take 23)).tasks[0]?).map (fun t =>
      (t.inFlight.stage.rank, t.inFlight.stage.program?, t.request.changeDir)) =
      some (8, some (utf8 "/a/x"), true) := by decide +kernel
  obtain ⟨t, ht, hseen⟩ := Option.map_eq_some_iff.mp hsight
  simp only [Prod.mk.injEq] at hseen
  obtain ⟨hrank, hprogram, hmove⟩ := hseen
  have hstage : t.inFlight.stage = .spawning (utf8 "/a/x") := by
    cases hstage : t.inFlight.stage <;> simp_all [Stage.rank, Stage.program?]
  have horder : innerTurns = innerTurns.take 23 ++ 0 :: List.replicate 8 0 := by decide
  obtain ⟨home, saved, -, -, hlead⟩ := hkept.child _ 0 _ t _ horder ht hstage hmove (by decide +kernel)
  have hthere : (movingPair.turns (innerTurns.take 23)).world.2 = utf8 "/a" :=
    (Option.some.inj hlead).symm.trans (by decide +kernel)
  exact ⟨hnested, hthere, hkept.back (hfinished hcount)⟩

/-- Each launch leaves before the other one is back. -/
def crossingTurns : List Nat :=
  List.replicate 5 0 ++ List.replicate 5 1 ++ List.replicate 11 0 ++ List.replicate 11 1

/-- Two launches that share a guard and go to their commands' directories, all of which stay in place:
the first one's child starts in the second one's directory, and in the end the process is in the first
one's. -/
theorem crossing_launches_get_lost :
    (∀ t ∈ movingPair.tasks, t.request.changeDir = true ∧
      SharesGuard Prod.fst (fun _ => True) t.collaborators ∧ KeepsDir t.collaborators Prod.snd) ∧
    (∀ order, (movingPair.turns order).InPlace (fun path _ => some path) some Prod.snd) ∧
    (let m := movingPair.turns (crossingTurns.take 12)
     (m.tasks[0]?).bind (·.inFlight.stage.program?) = some (utf8 "/a/x") ∧
      (Event.spawns (m.next 0)).length = 1 ∧ m.world.2 = utf8 "/b") ∧
    (let m := movingPair.turns crossingTurns
     m.IsFinished ∧ m.world.2 = utf8 "/a") ∧
    ¬ ∀ order, KeepsPlaces (fun path _ => some path) some Prod.snd movingPair order := by
  have hcount : ∀ i < movingPair.tasks.length, 16 ≤ crossingTurns.count i := by decide
  have hfinished := Moment.isFinished_of_count movingPair_fresh hcount
  have hend : (movingPair.turns crossingTurns).world.2 = utf8 "/a" := by decide +kernel
  refine ⟨?_, movingPair_inPlace, ?_, ⟨hfinished, hend⟩, fun hkept => ?_⟩
  · simp [movingPair, movingTask, plain_sharesGuard, plain_keepsDir]
  · decide +kernel
  · have hback : utf8 "/a" = utf8 "/w" := hend.symm.trans ((hkept crossingTurns).back hfinished)
    exact absurd hback (by decide +kernel)

end ScriptExec.Launch
