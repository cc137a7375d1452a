-- SUMMARY: Two launches of which one runs while the other waits: an order of turns, and a nested one.
import ScriptExec.Proofs.Concurrent.Nesting

/-!
# Pairs of launches

A launch that starts while another one waits for its child ends before that goes on
(`Launch.runPair`). In turns, this is an order in which each of the two has some turns on end. Such
turns are nested whatever the launches do (`Moment.nests_within`), so a pair leaves the guard idle
(`runPair_idle`) and comes back to where it was (`runPair_back`).
-/

namespace ScriptExec.Launch

variable {σ κ δ : Type} {m : Moment σ κ} {i : Nat} {t : Task σ κ}

/-! ## Turns on end -/

/-- In turns on end a launch goes on as it does alone. -/
theorem Moment.turns_alone (ht : m.tasks[i]? = some t) {l : InFlight κ} {w : σ}
    (h : Steps t.collaborators t.launcher t.request t.inFlight m.world l w) :
    ∃ n, (m.turns (List.replicate n i)).tasks = m.tasks.set i { t with inFlight := l } ∧
      (m.turns (List.replicate n i)).world = w := by
  obtain ⟨hi, hget⟩ := List.getElem?_eq_some_iff.mp ht
  induction h with
  | refl =>
    refine ⟨0, ?_, rfl⟩
    rw [← hget]
    exact (List.set_getElem_self hi).symm
  | @tail l w _ _ ih =>
    obtain ⟨n, htasks, hworld⟩ := ih
    refine ⟨n + 1, ?_⟩
    rw [List.replicate_succ', Moment.turns_append, Moment.turns_cons, Moment.turns_nil]
    have hnow : (m.turns (List.replicate n i)).tasks[i]? = some { t with inFlight := l } := by
      rw [htasks]
      exact List.getElem?_set_self hi
    refine ⟨?_, ?_⟩
    · rw [Moment.turn_tasks hnow, htasks, hworld, List.set_set]
      rfl
    · rw [Moment.turn_world hnow, hworld]
      rfl

/-- With enough turns on end a launch completes as it does alone. -/
theorem Moment.completes_alone (ht : m.tasks[i]? = some t) :
    ∃ n last, (m.turns (List.replicate n i)).tasks = m.tasks.set i { t with inFlight := last } ∧
      last.stage = .finished (t.complete m.world).1 ∧
      (m.turns (List.replicate n i)).world = (t.complete m.world).2 := by
  obtain ⟨last, hsteps, hlast⟩ := complete_steps (c := t.collaborators) t.inFlight m.world
  obtain ⟨n, htasks, hworld⟩ := Moment.turns_alone ht hsteps
  exact ⟨n, last, htasks, hlast, hworld⟩

/-- Who is away, if some are for the whole time and one more may be. -/
def Moment.awayWith (m : Moment σ κ) (i : Nat) (outer : List Nat) : List Nat :=
  if m.isAway i then i :: outer else outer

theorem Moment.awayAfter_awayWith (outer : List Nat) :
    m.awayAfter i (m.awayWith i outer) = (m.turn i).awayWith i outer := by
  unfold Moment.awayAfter Moment.awayWith
  cases m.isAway i <;> cases (m.turn i).isAway i <;> rfl

/-- Turns on end are nested. -/
theorem Moment.nests_alone (outer : List Nat) (n : Nat) (rest : List Nat) :
    m.nests (m.awayWith i outer) (List.replicate n i ++ rest) =
      (m.turns (List.replicate n i)).nests ((m.turns (List.replicate n i)).awayWith i outer) rest := by
  induction n generalizing m with
  | zero => rfl
  | succ n ih =>
    have hnow : (!m.usesDir i || (m.awayWith i outer).head? == some i) = true := by
      cases huses : m.usesDir i with
      | false => rfl
      | true => simp [Moment.awayWith, Moment.isAway_of_usesDir huses]
    rw [List.replicate_succ, List.cons_append, Moment.nests, hnow, Bool.true_and,
      Moment.awayAfter_awayWith, ih, Moment.turns_cons]

theorem Moment.isAway_alone_ne {j : Nat} (h : j ≠ i) (n : Nat) :
    (m.turns (List.replicate n i)).isAway j = m.isAway j := by
  induction n generalizing m with
  | zero => rfl
  | succ n ih => rw [List.replicate_succ, Moment.turns_cons, ih, Moment.isAway_turn_ne h]

/-- Turns of one launch with those of another one in between are nested if that is back by then. -/
theorem Moment.nests_within {j : Nat} (hij : i ≠ j) (n₁ n₂ n₃ : Nat) (hi : m.isAway i = false)
    (hj : m.isAway j = false)
    (hback : ((m.turns (List.replicate n₁ i)).turns (List.replicate n₂ j)).isAway j = false) :
    m.nests [] (List.replicate n₁ i ++ (List.replicate n₂ j ++ List.replicate n₃ i)) = true := by
  have hleft : ([] : List Nat) = m.awayWith i [] := by simp [Moment.awayWith, hi]
  rw [hleft, Moment.nests_alone]
  rw [← Moment.isAway_alone_ne hij.symm n₁] at hj
  generalize m.turns (List.replicate n₁ i) = m₁ at hj hback
  have hinner : m₁.awayWith i [] = m₁.awayWith j (m₁.awayWith i []) := by
    simp [Moment.awayWith, hj]
  rw [hinner, Moment.nests_alone]
  have hfar := Moment.isAway_alone_ne (m := m₁) hij n₂
  generalize m₁.turns (List.replicate n₂ j) = m₂ at hback hfar
  have hagain : m₂.awayWith j (m₁.awayWith i []) = m₂.awayWith i [] := by
    simp [Moment.awayWith, hback, hfar]
  rw [hagain, ← List.append_nil (List.replicate n₃ i), Moment.nests_alone]
  rfl

/-! ## Pairs -/

/-- Two launches, before the first turn. -/
def Moment.ofPair (first second : Task σ κ) (w : σ) : Moment σ κ where
  tasks := [first, second]
  world := w

/-- A pair of launches is an order of turns, and a nested one. -/
theorem runPair_nested (first second : Task σ κ) (w : σ) (hfirst : first.inFlight = {})
    (hsecond : second.inFlight = {}) :
    ∃ order, (Moment.ofPair first second w).nests [] order = true ∧
      ((Moment.ofPair first second w).turns order).world = (runPair first second w).2.2 ∧
      ((Moment.ofPair first second w).turns order).tasks.map (·.inFlight.stage) =
        [.finished (runPair first second w).1, .finished (runPair first second w).2.1] := by
  generalize hm₀ : Moment.ofPair first second w = m₀
  have htasks₀ : m₀.tasks = [first, second] := by rw [← hm₀]; rfl
  have hworld₀ : m₀.world = w := by rw [← hm₀]; rfl
  -- the first launch goes on until it waits, then the second one runs, then the first one goes on
  obtain ⟨n₁, htasks₁, hworld₁⟩ := Moment.turns_alone (m := m₀) (i := 0) (t := first)
    (by rw [htasks₀]; rfl) (advance_steps Stage.isDraining first.inFlight m₀.world)
  generalize hm₁ : m₀.turns (List.replicate n₁ 0) = m₁ at htasks₁ hworld₁
  obtain ⟨n₂, last₂, htasks₂, hlast₂, hworld₂⟩ := Moment.completes_alone (m := m₁) (i := 1)
    (t := second) (by rw [htasks₁, htasks₀]; rfl)
  generalize hm₂ : m₁.turns (List.replicate n₂ 1) = m₂ at htasks₂ hworld₂
  obtain ⟨n₃, last₃, htasks₃, hlast₃, hworld₃⟩ := Moment.completes_alone (m := m₂) (i := 0)
    (t := (first.advance Stage.isDraining w).1) (by rw [htasks₂, htasks₁, htasks₀, hworld₀]; rfl)
  have hrun : runPair first second w =
      (((first.advance Stage.isDraining w).1.complete m₂.world).1, (second.complete m₁.world).1,
        ((first.advance Stage.isDraining w).1.complete m₂.world).2) := by
    rw [hworld₂, hworld₁, hworld₀]
    rfl
  refine ⟨List.replicate n₁ 0 ++ (List.replicate n₂ 1 ++ List.replicate n₃ 0), ?_, ?_, ?_⟩
  · refine Moment.nests_within (by decide) n₁ n₂ n₃ ?_ ?_ ?_
    · simp [Moment.isAway, htasks₀, hfirst, InFlight.isAway, Stage.leg]
    · simp [Moment.isAway, htasks₀, hsecond, InFlight.isAway, Stage.leg]
    · rw [hm₁, hm₂]
      simp [Moment.isAway, htasks₂, htasks₁, htasks₀, hlast₂, InFlight.isAway, Stage.leg]
  · rw [Moment.turns_append, Moment.turns_append, hm₁, hm₂, hworld₃, hrun]
  · rw [Moment.turns_append, Moment.turns_append, hm₁, hm₂, htasks₃, htasks₂, htasks₁, htasks₀, hrun]
    simp [hlast₃, hlast₂]

theorem Moment.isFinished_of_stages {a b : Outcome}
    (h : m.tasks.map (·.inFlight.stage) = [.finished a, .finished b]) : m.IsFinished := by
  intro t ht
  have hmem := List.mem_map_of_mem (f := fun t : Task σ κ => t.inFlight.stage) ht
  rw [h] at hmem
  simp only [List.mem_cons, List.not_mem_nil, or_false] at hmem
  rcases hmem with hstage | hstage <;> simp [hstage, Stage.outcome?]

section

variable {first second : Task σ κ} {w : σ} (hfirst : first.inFlight = {}) (hsecond : second.inFlight = {})

include hfirst hsecond

/-- A pair of launches that share a guard leaves it idle. -/
theorem runPair_idle {slot : σ → Slot} {Live : σ → Prop}
    (hshares₁ : SharesGuard slot Live first.collaborators)
    (hshares₂ : SharesGuard slot Live second.collaborators) (hlive : Live w) (hidle : slot w = .idle) :
    slot (runPair first second w).2.2 = .idle := by
  obtain ⟨order, -, hworld, hstages⟩ := runPair_nested first second w hfirst hsecond
  have hstart : Governed slot Live none (Moment.ofPair first second w) :=
    governed_start (by simp [hshares₁, hshares₂]) (by simp [hfirst, hsecond]) hlive hidle
  obtain ⟨holder, hgoverned⟩ := hstart.turns order
  rw [← hworld]
  exact hgoverned.idle_of_isFinished (Moment.isFinished_of_stages hstages)

/-- A pair of launches comes back while the directories stay in place. -/
theorem runPair_back {leads : Path → δ → Option δ} {pathOf : δ → Option Path} {cwd : σ → δ}
    (hkeeps₁ : KeepsDir first.collaborators cwd) (hkeeps₂ : KeepsDir second.collaborators cwd)
    (hplaces : ∀ order, ((Moment.ofPair first second w).turns order).InPlace leads pathOf cwd) :
    cwd (runPair first second w).2.2 = cwd w := by
  obtain ⟨order, hnested, hworld, hstages⟩ := runPair_nested first second w hfirst hsecond
  have hstart : OnNestedWays leads pathOf cwd (cwd w) [] (Moment.ofPair first second w) :=
    onNestedWays_start w (by simp [hkeeps₁, hkeeps₂]) (by simp [hfirst, hsecond])
  rw [← List.append_nil order] at hnested
  obtain ⟨away, h, -⟩ := hstart.turns (fun early _ => hplaces early) hnested
  rw [← hworld]
  exact h.of_isFinished (Moment.isFinished_of_stages hstages)

end

end ScriptExec.Launch
