-- SUMMARY: Launches side by side with all that they have called so far, turn by turn.
import ScriptExec.Launch.Concurrent
import ScriptExec.Proofs.Launch.Course

/-!
# Moments of concurrent launches

A `Moment` is a world with the launches that work on it and the calls they have made, each with the
number of its launch. A turn adds the calls of one step (`Moment.turn`); apart from these notes, turns
are those of `Launch.turns` (`Moment.turns_tasks`, `Moment.turns_world`). Every order of turns is an
interleaving of the launches' steps, and each of its prefixes leads to one moment on the way.
-/

namespace ScriptExec.Launch

variable {σ κ : Type}

/-- Launches under way, with the calls they have made. -/
structure Moment (σ κ : Type) where
  tasks : List (Task σ κ)
  world : σ
  past : List (Nat × Event κ) := []

namespace Moment

variable (m : Moment σ κ) (i j : Nat)

/-- The calls that a launch makes in its next turn. -/
def next : List (Event κ) :=
  match m.tasks[i]? with
  | some t => stepCalls t.collaborators t.launcher t.request t.inFlight m.world
  | none => []

/-- The moment after a turn of one launch. -/
def turn : Moment σ κ where
  tasks := (Launch.turn m.tasks m.world i).1
  world := (Launch.turn m.tasks m.world i).2
  past := m.past ++ (m.next i).map (i, ·)

/-- The moment after some turns. -/
def turns (order : List Nat) : Moment σ κ :=
  order.foldl turn m

/-- The calls of one launch. -/
def calls : List (Event κ) :=
  m.past.filterMap fun call => if call.1 = i then some call.2 else none

/-- All launches have finished. -/
def IsFinished : Prop :=
  ∀ t ∈ m.tasks, t.inFlight.stage.outcome? ≠ none

@[simp] theorem turns_nil : m.turns [] = m := rfl

@[simp] theorem turns_cons (order : List Nat) : m.turns (i :: order) = (m.turn i).turns order := rfl

theorem turns_append (order more : List Nat) :
    m.turns (order ++ more) = (m.turns order).turns more :=
  List.foldl_append

theorem turns_eq (order : List Nat) :
    ((m.turns order).tasks, (m.turns order).world) = Launch.turns m.tasks m.world order := by
  induction order generalizing m with
  | nil => rfl
  | cons i order ih => exact ih (m.turn i)

variable {m i j}

theorem turn_of_none (h : m.tasks[i]? = none) : m.turn i = m := by
  simp [turn, next, Launch.turn, h]

variable {t : Task σ κ}

theorem turn_world (h : m.tasks[i]? = some t) : (m.turn i).world = (t.step m.world).2 := by
  simp [turn, Launch.turn, h]

theorem turn_tasks (h : m.tasks[i]? = some t) :
    (m.turn i).tasks = m.tasks.set i (t.step m.world).1 := by
  simp only [turn, Launch.turn, h]

theorem turn_tasks_self (h : m.tasks[i]? = some t) :
    (m.turn i).tasks[i]? = some (t.step m.world).1 := by
  obtain ⟨hi, -⟩ := List.getElem?_eq_some_iff.mp h
  rw [turn_tasks h]
  exact List.getElem?_set_self hi

theorem turn_tasks_ne (h : j ≠ i) : (m.turn i).tasks[j]? = m.tasks[j]? := by
  unfold turn Launch.turn
  split
  · simp [List.getElem?_set_ne (Ne.symm h)]
  · rfl

/-- A launch after a turn is the one whose turn it was, a step further, or as it was before. -/
theorem of_turn_getElem? (ht : m.tasks[i]? = some t) {t' : Task σ κ}
    (h : (m.turn i).tasks[j]? = some t') :
    (j = i ∧ t' = (t.step m.world).1) ∨ (j ≠ i ∧ m.tasks[j]? = some t') := by
  by_cases hji : j = i
  · subst hji
    exact .inl ⟨rfl, Option.some.inj (h.symm.trans (turn_tasks_self ht))⟩
  · rw [turn_tasks_ne hji] at h
    exact .inr ⟨hji, h⟩

theorem turn_collaborators :
    (m.turn i).tasks.map Task.collaborators = m.tasks.map Task.collaborators := by
  refine List.ext_getElem? fun j => ?_
  rw [List.getElem?_map, List.getElem?_map]
  by_cases hji : j = i
  · subst hji
    cases ht : m.tasks[j]? with
    | none => rw [turn_of_none ht, ht]
    | some t =>
      rw [turn_tasks_self ht]
      rfl
  · rw [turn_tasks_ne hji]

@[simp] theorem turns_collaborators (order : List Nat) :
    (m.turns order).tasks.map Task.collaborators = m.tasks.map Task.collaborators := by
  induction order generalizing m with
  | nil => rfl
  | cons i order ih => rw [turns_cons, ih, turn_collaborators]

/-- Who goes on goes on with its collaborators. -/
theorem of_mem_turn {t' : Task σ κ} (h : t' ∈ (m.turn i).tasks) :
    ∃ t ∈ m.tasks, t.collaborators = t'.collaborators := by
  have hmem := List.mem_map_of_mem (f := Task.collaborators) h
  rw [turn_collaborators] at hmem
  exact List.mem_map.mp hmem

theorem turn_length : (m.turn i).tasks.length = m.tasks.length :=
  Launch.turn_length m.tasks m.world i

@[simp] theorem turns_length (order : List Nat) : (m.turns order).tasks.length = m.tasks.length := by
  induction order generalizing m with
  | nil => rfl
  | cons i order ih => rw [turns_cons, ih, turn_length]

theorem next_eq (h : m.tasks[i]? = some t) :
    m.next i = stepCalls t.collaborators t.launcher t.request t.inFlight m.world := by
  simp [next, h]

theorem calls_turn_self : (m.turn i).calls i = m.calls i ++ m.next i := by
  have hown : (fun call : Nat × Event κ => if call.1 = i then some call.2 else none) ∘ (i, ·) = some :=
    funext fun _ => if_pos rfl
  simp only [calls, turn, List.filterMap_append, List.filterMap_map, hown, List.filterMap_some]

theorem calls_turn_ne (h : j ≠ i) : (m.turn i).calls j = m.calls j := by
  have hother : (fun call : Nat × Event κ => if call.1 = j then some call.2 else none) ∘ (i, ·) = fun _ => none :=
    funext fun _ => if_neg (Ne.symm h)
  have hnone : (m.next i).filterMap (fun _ => (none : Option (Event κ))) = [] :=
    List.filterMap_eq_nil_iff.mpr fun _ _ => rfl
  simp only [calls, turn, List.filterMap_append, List.filterMap_map, hother, hnone, List.append_nil]

/-- What every step of a launch keeps is kept by all turns, whoever's they are. -/
theorem keeps_turns {P : Task σ κ → Prop} (hstep : ∀ t w, P t → P (t.step w).1)
    (h : m.tasks[i]? = some t) (ht : P t) (order : List Nat) :
    ∃ t', (m.turns order).tasks[i]? = some t' ∧ P t' := by
  induction order generalizing m t with
  | nil => exact ⟨t, h, ht⟩
  | cons j order ih =>
    by_cases hj : j = i
    · subst hj
      exact ih (turn_tasks_self h) (hstep t m.world ht)
    · exact ih ((turn_tasks_ne (Ne.symm hj)).trans h) ht

theorem rank_step (t : Task σ κ) (w : σ) :
    (t.step w).1.inFlight.stage.rank ≤ t.inFlight.stage.rank - 1 := by
  by_cases hgoing : t.inFlight.stage.outcome? = none
  · have hlt := step_rank_lt t.collaborators t.launcher t.request t.inFlight w hgoing
    have hstep : (t.step w).1.inFlight =
      (step t.collaborators t.launcher t.request t.inFlight w).1 := rfl
    rw [hstep]
    omega
  · obtain ⟨outcome, hstage⟩ := Stage.eq_finished hgoing
    have hstep : (t.step w).1.inFlight = t.inFlight := by simp [Task.step, step, hstage]
    rw [hstep, hstage]
    exact Nat.le_refl 0

/-- Every turn of a launch brings it nearer to its end, whatever turns the others have in between. -/
theorem rank_turns (order : List Nat) (h : m.tasks[i]? = some t) :
    ∃ t', (m.turns order).tasks[i]? = some t' ∧
      t'.inFlight.stage.rank ≤ t.inFlight.stage.rank - order.count i := by
  induction order generalizing m t with
  | nil => exact ⟨t, h, Nat.le_refl _⟩
  | cons j order ih =>
    rw [turns_cons]
    by_cases hj : j = i
    · subst hj
      obtain ⟨t', ht', hrank⟩ := ih (turn_tasks_self h)
      have hstep := rank_step t m.world
      refine ⟨t', ht', ?_⟩
      rw [List.count_cons_self]
      omega
    · obtain ⟨t', ht', hrank⟩ := ih ((turn_tasks_ne (Ne.symm hj)).trans h)
      refine ⟨t', ht', ?_⟩
      rwa [List.count_cons_of_ne hj]

theorem finished_of_rank {stage : Stage κ} (h : stage.rank = 0) : stage.outcome? ≠ none := by
  cases stage <;> simp_all [Stage.rank, Stage.outcome?]

/-- Sixteen turns are enough for every launch. -/
theorem isFinished_of_count (hfresh : ∀ t ∈ m.tasks, t.inFlight = {}) {order : List Nat}
    (h : ∀ i < m.tasks.length, 16 ≤ order.count i) : (m.turns order).IsFinished := by
  intro t' ht'
  obtain ⟨i, hi'⟩ := List.mem_iff_getElem?.mp ht'
  have hi : i < m.tasks.length := by
    rw [← turns_length order]
    exact (List.getElem?_eq_some_iff.mp hi').1
  obtain ⟨last, hlast, hrank⟩ := rank_turns order (List.getElem?_eq_getElem hi)
  obtain rfl : last = t' := Option.some.inj (hlast.symm.trans hi')
  have hstart : (m.tasks[i]).inFlight.stage.rank = 16 := by
    rw [hfresh _ (List.getElem_mem hi)]
    rfl
  have hcount := h i hi
  exact finished_of_rank (by omega)

end Moment

end ScriptExec.Launch
