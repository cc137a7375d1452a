-- SUMMARY: Launches that share a guard exclude each other, however their steps are interleaved.
import ScriptExec.Proofs.Concurrent.Moments
import ScriptExec.Proofs.Launch.Holding

/-!
# Exclusion

Launches share a guard if they find it in the same slot, which no other call writes (`SharesGuard`). At
every moment then the slot is what its holder wrote into it last, and idle if nobody holds it
(`Governed`); each turn keeps that, because a launch takes the guard only when the slot is idle. What a
launch does about the guard on its own, and where in its course, is told by its calls
(`Launch.Told`).
-/

namespace ScriptExec.Launch

variable {σ κ : Type} {slot : σ → Slot} {Live : σ → Prop}

/-- The collaborators of launches that share a guard. They find it in one slot, in all worlds that have
it (`Live`), and no call but those that write into the slot changes it. -/
structure SharesGuard (slot : σ → Slot) (Live : σ → Prop) (c : Collaborators σ κ) : Prop where
  slot_eq : c.slot = slot
  keeps : c.KeepsAside fun w => (slot w, Live w)
  written : ∀ s w, Live w → slot (c.setSlot s w) = s ∧ Live (c.setSlot s w)

/-- What there is to see of the guard: the slot, whether it is there, and what a launch has written into
it. -/
def guardView (slot : σ → Slot) (Live : σ → Prop) (s : σ × List (Event κ)) :
    (Slot × Prop) × List Slot :=
  ((slot s.1, Live s.1), Event.slots s.2)

theorem slots_append_of_nil {es fs : List (Event κ)} (h : Event.slots fs = []) :
    Event.slots (es ++ fs) = Event.slots es := by
  rw [Event.slots_append, h, List.append_nil]

theorem SharesGuard.traced {c : Collaborators σ κ} (h : SharesGuard slot Live c) :
    c.traced.KeepsAside (guardView slot Live) where
  keeps := {
    log := fun record s => Prod.ext (h.keeps.keeps.log record s.1) (slots_append_of_nil rfl)
    becomeUser := fun user s => Prod.ext (h.keeps.keeps.becomeUser user s.1) (slots_append_of_nil rfl)
    find := fun name s => Prod.ext (h.keeps.keeps.find name s.1) (slots_append_of_nil rfl)
    spawn := fun plan s => Prod.ext (h.keeps.keeps.spawn plan s.1) (slots_append_of_nil rfl)
    outputs := fun chunk child s =>
      Prod.ext (h.keeps.keeps.outputs chunk child s.1) (slots_append_of_nil rfl)
    warn := fun text s => Prod.ext (h.keeps.keeps.warn text s.1) (slots_append_of_nil rfl) }
  change path s := Prod.ext (h.keeps.change path s.1) (slots_append_of_nil rfl)
  error text s := Prod.ext (h.keeps.error text s.1) (slots_append_of_nil rfl)

/-- What is written into the slot is there afterwards, and was written last. -/
theorem SharesGuard.of_setSlot {c : Collaborators σ κ} (h : SharesGuard slot Live c)
    {s s' : σ × List (Event κ)} {written : Slot} (hlive : Live s.1)
    (hview : guardView slot Live s' = guardView slot Live (c.traced.setSlot written s)) :
    slot s'.1 = written ∧ Live s'.1 ∧ lastSlot s'.2 = written := by
  obtain ⟨hslot, hkept⟩ := h.written written s.1 hlive
  simp only [guardView, Collaborators.traced, Prod.mk.injEq, hslot, hkept, eq_iff_iff, iff_true] at hview
  refine ⟨hview.1.1, hview.1.2, ?_⟩
  rw [lastSlot, hview.2]
  simp [Event.slots]

/-- A launch in its turn, with its calls so far. -/
theorem Task.atGuard (t : Task σ κ) (h : SharesGuard slot Live t.collaborators) (w : σ)
    (es : List (Event κ)) :
    AtGuard t.collaborators.traced (guardView slot Live) t.inFlight (w, es) (t.step w).1.inFlight
      ((t.step w).2, es ++ stepCalls t.collaborators t.launcher t.request t.inFlight w) := by
  by_cases hgoing : t.inFlight.stage.outcome? = none
  · have hstep := step_spec t.collaborators.traced t.launcher t.request (w, es) hgoing
    rw [step_traced] at hstep
    exact hstep.atGuard h.traced
  · obtain ⟨outcome, hstage⟩ := Stage.eq_finished hgoing
    refine .away ?_ ?_ <;> simp [Task.step, Launch.step, stepCalls, hstage]

/-- The guard is in the hands of `holder`, or of nobody. -/
structure Governed (slot : σ → Slot) (Live : σ → Prop) (holder : Option Nat) (m : Moment σ κ) :
    Prop where
  live : Live m.world
  shares : ∀ t ∈ m.tasks, SharesGuard slot Live t.collaborators
  told : ∀ i t, m.tasks[i]? = some t →
    Told t.collaborators.pid? t.launcher t.request t.inFlight (m.calls i)
  silent : ∀ i, m.tasks[i]? = none → m.calls i = []
  holds : ∀ i t, m.tasks[i]? = some t → (t.inFlight.holdsGuard = true ↔ holder = some i)
  present : ∀ i, holder = some i → i < m.tasks.length
  slot_eq : slot m.world = (holder.map fun i => lastSlot (m.calls i)).getD .idle

variable {m : Moment σ κ} {holder : Option Nat} {i : Nat} {t : Task σ κ}

theorem Governed.holds_iff (h : Governed slot Live holder m) (i : Nat) :
    Holds (m.calls i) ↔ holder = some i := by
  cases ht : m.tasks[i]? with
  | none =>
    have hnobody : holder ≠ some i := by
      intro hholder
      have hlt := h.present i hholder
      rw [List.getElem?_eq_none_iff] at ht
      omega
    simp [h.silent i ht, Holds, lastSlot, Event.slots, hnobody]
  | some t => exact (h.told i t ht).holds_iff.trans (h.holds i t ht)

theorem Governed.idle_iff (h : Governed slot Live holder m) : slot m.world = .idle ↔ holder = none := by
  rw [h.slot_eq]
  cases hholder : holder with
  | none => simp
  | some i =>
    have hbusy : Holds (m.calls i) := (h.holds_iff i).mpr hholder
    simpa [Holds] using hbusy

/-- A turn hands the guard from one holder to the next, if to another one, and the slot tells. -/
theorem Governed.pass (h : Governed slot Live holder m) (ht : m.tasks[i]? = some t)
    {holder' : Option Nat} (hlive : Live (t.step m.world).2)
    (hself : (t.step m.world).1.inFlight.holdsGuard = true ↔ holder' = some i)
    (hothers : ∀ j, j ≠ i → (holder = some j ↔ holder' = some j))
    (hslot : slot (t.step m.world).2 =
      (holder'.map fun j => lastSlot ((m.turn i).calls j)).getD .idle) :
    Governed slot Live holder' (m.turn i) where
  live := by rwa [Moment.turn_world ht]
  shares t' ht' := by
    obtain ⟨t, ht, hsame⟩ := Moment.of_mem_turn ht'
    rw [← hsame]
    exact h.shares t ht
  told j t' hj := by
    rcases Moment.of_turn_getElem? ht hj with ⟨rfl, rfl⟩ | ⟨hji, hj⟩
    · rw [Moment.calls_turn_self, Moment.next_eq ht]
      exact (h.told j t ht).next m.world
    · rw [Moment.calls_turn_ne hji]
      exact h.told j t' hj
  silent j hj := by
    by_cases hji : j = i
    · subst hji
      rw [Moment.turn_tasks_self ht] at hj
      cases hj
    · rw [Moment.turn_tasks_ne hji] at hj
      rw [Moment.calls_turn_ne hji]
      exact h.silent j hj
  holds j t' hj := by
    rcases Moment.of_turn_getElem? ht hj with ⟨rfl, rfl⟩ | ⟨hji, hj⟩
    · exact hself
    · exact (h.holds j t' hj).trans (hothers j hji)
  present j hj := by
    rw [Moment.turn_length]
    by_cases hji : j = i
    · subst hji
      exact (List.getElem?_eq_some_iff.mp ht).1
    · exact h.present j ((hothers j hji).mpr hj)
  slot_eq := by rwa [Moment.turn_world ht]

/-- How the guard goes from hand to hand in a turn of one launch: who frees it is through with its
child. -/
def Passes (m : Moment σ κ) (i : Nat) (holder holder' : Option Nat) : Prop :=
  holder' = holder ∨ (holder = none ∧ holder' = some i) ∨
    (holder = some i ∧ holder' = none ∧ IsThrough (m.calls i))

theorem Governed.turn (h : Governed slot Live holder m) (i : Nat) :
    ∃ holder', Governed slot Live holder' (m.turn i) ∧ Passes m i holder holder' := by
  cases ht : m.tasks[i]? with
  | none =>
    rw [Moment.turn_of_none ht]
    exact ⟨holder, h, .inl rfl⟩
  | some t =>
    have hshares := h.shares t (List.mem_of_getElem? ht)
    have hguard := t.atGuard hshares m.world (m.calls i)
    have htold := h.told i t ht
    have hheld := h.holds i t ht
    have hcalls := @Moment.calls_turn_self _ _ m i
    rw [Moment.next_eq ht] at hcalls
    rw [← hcalls] at hguard
    have hlive : Live (m.world, m.calls i).1 := h.live
    generalize hl : t.inFlight = l at *
    generalize hl' : (t.step m.world).1.inFlight = l' at *
    cases hguard with
    | away hview hstill =>
      simp only [guardView, Prod.mk.injEq, eq_iff_iff] at hview
      obtain ⟨⟨hslot, hkept⟩, hslots⟩ := hview
      refine ⟨holder, h.pass ht (hkept.mpr h.live) ?_ (fun _ _ => Iff.rfl) ?_, .inl rfl⟩
      · rw [hl', hstill]
        exact hheld
      · have hlast (j : Nat) : lastSlot ((m.turn i).calls j) = lastSlot (m.calls j) := by
          by_cases hji : j = i
          · rw [hji, lastSlot, lastSlot, hslots]
          · rw [Moment.calls_turn_ne hji]
        simp only [hslot, h.slot_eq, hlast]
    | takes hidle hview =>
      obtain ⟨hslot, hkept, hlast⟩ := hshares.of_setSlot hlive hview
      have hnobody : holder = none := h.idle_iff.mp (hshares.slot_eq ▸ hidle)
      refine ⟨some i, h.pass ht hkept ?_ (fun j hj => ?_) ?_, .inr (.inl ⟨hnobody, rfl⟩)⟩
      · rw [hl']
        exact iff_of_true rfl rfl
      · simp [hnobody, Ne.symm hj]
      · rw [hslot]
        exact hlast.symm
    | notes hpid hview =>
      obtain ⟨hslot, hkept, hlast⟩ := hshares.of_setSlot hlive hview
      have hmine : holder = some i := hheld.mp (htold.held_of_hasChild rfl)
      refine ⟨some i, h.pass ht hkept ?_ (fun j hj => ?_) ?_, .inl hmine.symm⟩
      · rw [hl']
        exact iff_of_true (htold.held_of_hasChild rfl) rfl
      · rw [hmine]
      · rw [hslot]
        exact hlast.symm
    | frees hview =>
      obtain ⟨hslot, hkept, hlast⟩ := hshares.of_setSlot hlive hview
      have hmine : holder = some i := hheld.mp rfl
      refine ⟨none, h.pass ht hkept ?_ (fun j hj => ?_) hslot, .inr (.inr ⟨hmine, rfl, htold.isThrough⟩)⟩
      · rw [hl']
        simp
      · simp [hmine, Ne.symm hj]

theorem Governed.turns (h : Governed slot Live holder m) (order : List Nat) :
    ∃ holder', Governed slot Live holder' (m.turns order) := by
  induction order generalizing m holder with
  | nil => exact ⟨holder, h⟩
  | cons i order ih =>
    obtain ⟨holder', h', -⟩ := h.turn i
    exact ih h'

/-- At first nobody holds the guard. -/
theorem governed_start {tasks : List (Task σ κ)} {w : σ}
    (hshares : ∀ t ∈ tasks, SharesGuard slot Live t.collaborators)
    (hfresh : ∀ t ∈ tasks, t.inFlight = {}) (hlive : Live w) (hidle : slot w = .idle) :
    Governed slot Live none { tasks, world := w } where
  live := hlive
  shares := hshares
  told i t ht := by
    rw [hfresh t (List.mem_of_getElem? ht)]
    exact .validating
  silent _ _ := rfl
  holds i t ht := by
    rw [hfresh t (List.mem_of_getElem? ht)]
    exact iff_of_false nofun nofun
  present _ := nofun
  slot_eq := hidle

/-! ## What follows for the launches -/

/-- The number in the slot is that of a child that the holder has created. -/
theorem Governed.tracked (h : Governed slot Live holder m) {pid : Nat}
    (hslot : slot m.world = .tracking pid) :
    ∃ i t plan child, m.tasks[i]? = some t ∧ Holds (m.calls i) ∧
      .spawn plan (.ok child) ∈ m.calls i ∧ t.collaborators.pid? child = some pid := by
  cases hholder : holder with
  | none =>
    rw [h.idle_iff.mpr hholder] at hslot
    cases hslot
  | some i =>
    have hi := List.getElem?_eq_getElem (h.present i hholder)
    have hholds : Holds (m.calls i) := (h.holds_iff i).mpr hholder
    have hlast : lastSlot (m.calls i) = .tracking pid := by
      rw [← hslot, h.slot_eq, hholder]
      rfl
    have hmarks := (h.told i _ hi).marks ((h.holds i _ hi).mpr hholder)
    unfold lastSlot at hlast
    generalize Event.slots (m.calls i) = slots at hmarks hlast
    cases hmarks with
    | taken => cases hlast
    | @noted plan child pid' hspawn hpid =>
      obtain rfl : pid' = pid := Slot.tracking.inj hlast
      exact ⟨i, _, plan, child, hi, hholds, hspawn, hpid⟩

/-- Only the holder of the guard creates a child. -/
theorem Governed.spawns (h : Governed slot Live holder m) (hspawns : Event.spawns (m.next i) ≠ []) :
    Holds (m.calls i) := by
  cases ht : m.tasks[i]? with
  | none => simp [Moment.next, ht, Event.spawns] at hspawns
  | some t =>
    rw [Moment.next_eq ht] at hspawns
    refine (h.told i t ht).holds_iff.mpr ((h.told i t ht).held_of_hasChild ?_)
    by_contra hstage
    refine hspawns (spawns_stepCalls (fun program hspawning => hstage ?_) m.world)
    rw [hspawning]
    rfl

theorem Task.isLost_step (t : Task σ κ) (w : σ) (h : t.inFlight.stage.isLost = true) :
    (t.step w).1.inFlight.stage.isLost = true := by
  by_cases hgoing : t.inFlight.stage.outcome? = none
  · exact (step_spec t.collaborators t.launcher t.request w hgoing).isLost h
  · obtain ⟨outcome, hstage⟩ := Stage.eq_finished hgoing
    simpa [Task.step, Launch.step, hstage] using h

/-- A launch that has found the guard taken does nothing at it from then on, creates no child, and ends
with that error. -/
theorem Governed.lost (h : Governed slot Live holder m) {program : Path} (ht : m.tasks[i]? = some t)
    (hstage : t.inFlight.stage = .acquiring program) (hbusy : slot m.world ≠ .idle)
    (more : List Nat) :
    Event.slots (((m.turn i).turns more).calls i) = [] ∧
      Event.spawns (((m.turn i).turns more).calls i) = [] ∧
      ∀ t' outcome, ((m.turn i).turns more).tasks[i]? = some t' →
        t'.inFlight.stage = .finished outcome → ∃ pid, outcome = .error (.reentrancy pid) := by
  have hlost : (t.step m.world).1.inFlight.stage.isLost = true := by
    have hfound := (h.shares t (List.mem_of_getElem? ht)).slot_eq
    have hrefused : (slot m.world).acquire? = none := by
      cases hslot : slot m.world <;> first | exact absurd hslot hbusy | rfl
    simp [Task.step, Launch.step, hstage, hfound, hrefused, InFlight.goTo, Stage.isLost]
  obtain ⟨last, hlast, hstill⟩ := Moment.keeps_turns
    (P := fun t : Task σ κ => t.inFlight.stage.isLost = true) Task.isLost_step
    (Moment.turn_tasks_self ht) hlost more
  obtain ⟨holder', h', -⟩ := h.turn i
  obtain ⟨holder'', h''⟩ := h'.turns more
  obtain ⟨hslots, hspawns⟩ := (h''.told i last hlast).of_isLost hstill
  refine ⟨hslots, hspawns, fun t' outcome ht' hfinished => ?_⟩
  obtain rfl : last = t' := Option.some.inj (hlast.symm.trans ht')
  rw [hfinished] at hstill
  exact exists_of_isReentrancy hstill

/-- A launch that finds the guard idle has it. -/
theorem Governed.won (h : Governed slot Live holder m) {program : Path} (ht : m.tasks[i]? = some t)
    (hstage : t.inFlight.stage = .acquiring program) (hidle : slot m.world = .idle) :
    Holds ((m.turn i).calls i) := by
  have hfound := (h.shares t (List.mem_of_getElem? ht)).slot_eq
  obtain ⟨holder', h', -⟩ := h.turn i
  refine ((h'.told i _ (Moment.turn_tasks_self ht)).holds_iff).mpr ?_
  simp [Task.step, Launch.step, hstage, hfound, hidle, Slot.acquire?]

/-- The guard is freed by its holder only, and only when that is through with its child. -/
theorem Governed.freed (h : Governed slot Live holder m) (hbusy : slot m.world ≠ .idle)
    (hidle : slot (m.turn i).world = .idle) : Holds (m.calls i) ∧ IsThrough (m.calls i) := by
  obtain ⟨holder', h', hpass⟩ := h.turn i
  have hheld : holder ≠ none := fun hnobody => hbusy (h.idle_iff.mpr hnobody)
  have hfree : holder' = none := h'.idle_iff.mp hidle
  rcases hpass with hsame | ⟨hnobody, -⟩ | ⟨hmine, -, hthrough⟩
  · exact absurd (hsame.symm.trans hfree) hheld
  · exact absurd hnobody hheld
  · exact ⟨(h.holds_iff i).mpr hmine, hthrough⟩

theorem Governed.idle_of_isFinished (h : Governed slot Live holder m) (hfinished : m.IsFinished) :
    slot m.world = .idle := by
  refine h.idle_iff.mpr (Option.eq_none_iff_forall_ne_some.mpr fun i hholder => ?_)
  have hi := List.getElem?_eq_getElem (h.present i hholder)
  have hheld := (h.holds i _ hi).mpr hholder
  have hfree := (h.told i _ hi).free_of_finished (hfinished _ (List.mem_of_getElem? hi))
  rw [hheld] at hfree
  cases hfree

/-- Launches that share a guard, which is idle at first, exclude each other, in whatever order their
steps come. At most one of them holds the guard at a time; children are created, and the guard is
freed, by its holder only; a number in the slot is that of a child that the holder has created, and
the slot becomes idle only when the holder is through with that. A launch that finds the guard taken
fails without touching it. When all have finished, and each has after no more than sixteen turns of its
own, the guard is idle. -/
theorem launches_exclude_each_other (slot : σ → Slot) (Live : σ → Prop) (tasks : List (Task σ κ)) (w : σ)
    (hshares : ∀ t ∈ tasks, SharesGuard slot Live t.collaborators)
    (hfresh : ∀ t ∈ tasks, t.inFlight = {}) (hlive : Live w) (hidle : slot w = .idle)
    (order : List Nat) :
    let m := ({ tasks, world := w } : Moment σ κ).turns order
    (m.tasks, m.world) = turns tasks w order ∧
    (∀ i j, Holds (m.calls i) → Holds (m.calls j) → i = j) ∧
    (slot m.world ≠ .idle ↔ ∃ i, Holds (m.calls i)) ∧
    (∀ i, Event.spawns (m.next i) ≠ [] → Holds (m.calls i)) ∧
    (∀ pid, slot m.world = .tracking pid → ∃ i t plan child, m.tasks[i]? = some t ∧
      Holds (m.calls i) ∧ .spawn plan (.ok child) ∈ m.calls i ∧
        t.collaborators.pid? child = some pid) ∧
    (∀ i t program, m.tasks[i]? = some t → t.inFlight.stage = .acquiring program →
      if slot m.world = .idle then Holds ((m.turn i).calls i)
      else ∀ more, Event.slots (((m.turn i).turns more).calls i) = [] ∧
        Event.spawns (((m.turn i).turns more).calls i) = [] ∧
        ∀ t' outcome, ((m.turn i).turns more).tasks[i]? = some t' →
          t'.inFlight.stage = .finished outcome → ∃ pid, outcome = .error (.reentrancy pid)) ∧
    (∀ i, slot m.world ≠ .idle → slot (m.turn i).world = .idle →
      Holds (m.calls i) ∧ IsThrough (m.calls i)) ∧
    (m.IsFinished → slot m.world = .idle) ∧
    ((∀ i < tasks.length, 16 ≤ order.count i) → m.IsFinished) := by
  intro m
  obtain ⟨holder, h⟩ := (governed_start hshares hfresh hlive hidle).turns order
  have h : Governed slot Live holder m := h
  refine ⟨Moment.turns_eq _ order, ?_, ?_, fun i hspawns => h.spawns hspawns,
    fun pid hslot => h.tracked hslot, ?_, fun i hbusy hfree => h.freed hbusy hfree,
    h.idle_of_isFinished, fun hcount => ?_⟩
  · intro i j hi hj
    exact Option.some.inj (((h.holds_iff i).mp hi).symm.trans ((h.holds_iff j).mp hj))
  · rw [ne_eq, h.idle_iff, ← ne_eq, Option.ne_none_iff_exists']
    exact exists_congr fun i => (h.holds_iff i).symm
  · intro i t program ht hstage
    split
    · rename_i hfree
      exact h.won ht hstage hfree
    · rename_i hbusy
      exact h.lost ht hstage hbusy
  · exact Moment.isFinished_of_count (m := { tasks, world := w }) hfresh hcount

theorem plain_sharesGuard (outputs : Outputs) :
    SharesGuard Prod.fst (fun _ => True) (Collaborators.plain outputs) where
  slot_eq := rfl
  keeps := {
    keeps := ⟨⟨fun _ _ => rfl, fun _ _ => rfl, fun _ _ => rfl⟩, fun _ _ => rfl, fun _ _ _ => rfl,
      fun _ _ => rfl⟩
    change := fun _ _ => rfl
    error := fun _ _ => rfl }
  written _ _ _ := ⟨rfl, trivial⟩

/-- A launch in the plain world. -/
def plainTask : Task (Slot × Path) Unit where
  collaborators := .plain default
  launcher := {}
  request := { cmd := "/bin/id" }

/-- Turns after which one launch waits for its child and another one has come to the guard. -/
def rivalTurns : List Nat :=
  [0, 1, 0, 1, 0, 1, 0, 0, 0, 0]

theorem launches_exclude_each_other_of_two :
    let m := ({ tasks := [plainTask, plainTask], world := (.idle, Path.root) } : Moment _ _).turns rivalTurns
    m.world.1 = .tracking 1000 ∧ Holds (m.calls 0) ∧
      ∀ more, Event.spawns (((m.turn 1).turns more).calls 1) = [] := by
  intro m
  have hshares : ∀ t ∈ [plainTask, plainTask], SharesGuard Prod.fst (fun _ => True) t.collaborators := by
    simp [plainTask, plain_sharesGuard]
  have hfresh : ∀ t ∈ [plainTask, plainTask], t.inFlight = {} := by
    simp [plainTask]
  have hslot : m.world.1 = .tracking 1000 := by decide +kernel
  have hholds : Holds (m.calls 0) := by decide +kernel
  have hthere : (m.tasks[1]?).map (fun t => t.inFlight.stage.rank) = some 10 := by decide +kernel
  have hexclude := launches_exclude_each_other Prod.fst (fun _ => True) [plainTask, plainTask]
    (.idle, Path.root) hshares hfresh trivial rfl rivalTurns
  obtain ⟨-, -, -, -, -, hguard, -⟩ := hexclude
  obtain ⟨t, ht, hrank⟩ := Option.map_eq_some_iff.mp hthere
  obtain ⟨program, hstage⟩ : ∃ program, t.inFlight.stage = .acquiring program := by
    cases hstage : t.inFlight.stage <;> simp_all [Stage.rank]
  have hlost := hguard 1 t program ht hstage
  have hbusy : m.world.1 ≠ .idle := by
    simp [hslot]
  rw [if_neg hbusy] at hlost
  refine ⟨hslot, hholds, fun more => ?_⟩
  exact (hlost more).2.1

end ScriptExec.Launch
