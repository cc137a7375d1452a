-- SUMMARY: A loop of writes on a whole sequence of answers: where each write starts, and that the loop ends.
import ScriptExec.Proofs.Writing
import Mathlib.Data.Set.Finite.Basic
import Mathlib.Data.Set.Finite.Lattice

/-!
# Loops of writes on sequences of answers

The answers to the writes of a loop are a sequence without end. How much of the data the first of them take
(`takenBy`) tells where the next write starts, and the loop is where they tell it is (`Writing.At`). If only
finitely many writes are interrupted, there is a first write after which the loop is done
(`exists_lastWrite`).
-/

namespace ScriptExec

namespace WriteAnswer

/-- How many of the offered bytes are taken. -/
def taken (offered : Nat) : WriteAnswer → Nat
  | .accepted n => min n offered
  | .failed _ => 0

/-- The write was interrupted before it took anything. -/
def Interrupted : WriteAnswer → Prop
  | .accepted _ => False
  | .failed cause => cause.isInterrupted = true

/-- Why no further write is made after this one, if none is. -/
def stop? : WriteAnswer → Option IoError
  | .accepted 0 => some (.simple .writeZero)
  | .accepted (_ + 1) => none
  | .failed cause => if cause.isInterrupted then none else some cause

/-- How many of so many bytes the first writes take, if each is offered all that is left. -/
def takenBy (answers : Nat → WriteAnswer) (total : Nat) : Nat → Nat
  | 0 => 0
  | k + 1 => takenBy answers total k + (answers k).taken (total - takenBy answers total k)

/-- The answers to the first writes. -/
def first (answers : Nat → WriteAnswer) (k : Nat) : List WriteAnswer :=
  (List.range k).map answers

variable {answer : WriteAnswer} {answers : Nat → WriteAnswer} {offered total k : Nat}

theorem taken_le (offered : Nat) (answer : WriteAnswer) : answer.taken offered ≤ offered := by
  cases answer with
  | accepted n => exact Nat.min_le_right n offered
  | failed cause => exact Nat.zero_le offered

/-- A write that ends the loop takes nothing. -/
theorem taken_of_stop {cause : IoError} (h : answer.stop? = some cause) : answer.taken offered = 0 := by
  cases answer with
  | failed cause => rfl
  | accepted n =>
    cases n with
    | zero => exact Nat.zero_min offered
    | succ n => cases h

/-- A write that lets the loop go on takes something, unless it was interrupted. -/
theorem taken_pos (hgoing : answer.stop? = none) (hnot : ¬answer.Interrupted) (hoffered : 0 < offered) :
    0 < answer.taken offered := by
  cases answer with
  | failed cause =>
    have hfails : cause.isInterrupted = false := Bool.eq_false_iff.mpr hnot
    simp [stop?, hfails] at hgoing
  | accepted n =>
    cases n with
    | zero => cases hgoing
    | succ n => exact Nat.lt_min.mpr ⟨Nat.succ_pos n, hoffered⟩

theorem takenBy_le (answers : Nat → WriteAnswer) (total k : Nat) : takenBy answers total k ≤ total := by
  induction k with
  | zero => exact Nat.zero_le total
  | succ k ih =>
    have hpiece := taken_le (total - takenBy answers total k) (answers k)
    simp only [takenBy]
    omega

theorem takenBy_le_succ : takenBy answers total k ≤ takenBy answers total (k + 1) :=
  Nat.le_add_right _ _

@[simp]
theorem length_first : (first answers k).length = k := by
  simp [first]

theorem first_succ : first answers (k + 1) = first answers k ++ [answers k] := by
  simp [first, List.range_succ]

/-! ## The last write -/

/-- Nothing is left after the first writes, or one of them ended the loop. -/
def Over (answers : Nat → WriteAnswer) (total k : Nat) : Prop :=
  takenBy answers total k = total ∨ ∃ j < k, (answers j).stop? ≠ none

/-- From where on no write is interrupted, each takes something as long as the loop goes on. -/
theorem le_takenBy {from_ : Nat} (hquiet : ∀ i ≥ from_, ¬(answers i).Interrupted)
    (hgoing : ∀ i, (answers i).stop? = none) (k : Nat) : min k total ≤ takenBy answers total (from_ + k) := by
  induction k with
  | zero => exact (Nat.zero_min total).symm ▸ Nat.zero_le _
  | succ k ih =>
    by_cases hleft : 0 < total - takenBy answers total (from_ + k)
    · have hpiece := taken_pos (hgoing (from_ + k)) (hquiet _ (Nat.le_add_right _ _)) hleft
      rw [← Nat.add_assoc]
      simp only [takenBy]
      omega
    · have hmore : takenBy answers total (from_ + k) ≤ takenBy answers total (from_ + (k + 1)) :=
        takenBy_le_succ
      omega

theorem exists_over (hfinite : {i | (answers i).Interrupted}.Finite) (total : Nat) :
    ∃ k, Over answers total k := by
  by_cases hgoing : ∀ i, (answers i).stop? = none
  · obtain ⟨bound, hbound⟩ := hfinite.bddAbove
    have hquiet : ∀ i ≥ bound + 1, ¬(answers i).Interrupted := by
      intro i hi hinterrupted
      have hle : i ≤ bound := hbound hinterrupted
      omega
    refine ⟨bound + 1 + total, .inl (Nat.le_antisymm (takenBy_le _ _ _) ?_)⟩
    have hall := @le_takenBy answers total _ hquiet hgoing total
    rwa [Nat.min_self] at hall
  · rw [not_forall] at hgoing
    obtain ⟨j, hj⟩ := hgoing
    exact ⟨j + 1, .inr ⟨j, Nat.lt_succ_self j, hj⟩⟩

/-- So many writes are made: something is left before each of them, and none but the last ends the loop.
After the last of them nothing is left, or it ended the loop. -/
structure LastWrite (answers : Nat → WriteAnswer) (total k : Nat) : Prop where
  offers : ∀ j < k, takenBy answers total j < total
  goes_on : ∀ j, j + 1 < k → (answers j).stop? = none
  ended : takenBy answers total k = total ∧ (∀ j < k, (answers j).stop? = none) ∨
    takenBy answers total k < total ∧ ∃ j cause, k = j + 1 ∧ (answers j).stop? = some cause

/-- The loop ends if only finitely many writes are interrupted. -/
theorem exists_lastWrite (hfinite : {i | (answers i).Interrupted}.Finite) (total : Nat) :
    ∃ k, LastWrite answers total k := by
  classical
  have hover := exists_over hfinite total
  let k := Nat.find hover
  have hbefore : ∀ j < k, ¬Over answers total j := fun j hj => Nat.find_min hover hj
  have hoffers : ∀ j < k, takenBy answers total j < total := by
    intro j hj
    exact Nat.lt_of_le_of_ne (takenBy_le _ _ _) fun hall => hbefore j hj (.inl hall)
  have hgoes : ∀ j, j + 1 < k → (answers j).stop? = none := by
    intro j hj
    by_contra hstop
    exact hbefore (j + 1) hj (.inr ⟨j, Nat.lt_succ_self j, hstop⟩)
  refine ⟨k, hoffers, hgoes, ?_⟩
  by_cases hstopped : ∃ j < k, (answers j).stop? ≠ none
  · obtain ⟨j, hj, hstop⟩ := hstopped
    have hlast : k = j + 1 := by
      by_contra hne
      exact hstop (hgoes j (by omega))
    obtain ⟨cause, hcause⟩ := Option.ne_none_iff_exists'.mp hstop
    refine .inr ⟨?_, j, cause, hlast, hcause⟩
    rw [hlast]
    simp only [takenBy, taken_of_stop hcause, Nat.add_zero]
    exact hoffers j hj
  · have hnone : ∀ j < k, (answers j).stop? = none := by
      intro j hj
      by_contra hstop
      exact hstopped ⟨j, hj, hstop⟩
    rcases Nat.find_spec hover with hall | hstop
    · exact .inl ⟨hall, hnone⟩
    · exact absurd hstop hstopped

end WriteAnswer

/-! ## The loop -/

namespace Writing

open WriteAnswer

/-- A loop that has made the first writes, and why it has ended, if it has for a failure. -/
structure At (answers : Nat → WriteAnswer) (data : Bytes) (k : Nat) (failure : Option IoError)
    (w : Writing) : Prop where
  rest : w.rest = data.drop (takenBy answers data.length k)
  bytes : w.bytes = data.take (takenBy answers data.length k)
  count : w.count = takenBy answers data.length k
  writes : w.writes = k
  failure : w.failure = failure
  onNothing : w.onNothing = .simple .writeZero

variable {w : Writing} {answers : Nat → WriteAnswer} {data : Bytes} {k : Nat} {failure : Option IoError}

theorem at_start (answers : Nat → WriteAnswer) (data : Bytes) : At answers data 0 none (start data) :=
  ⟨rfl, rfl, rfl, rfl, rfl, rfl⟩

/-- The loop is done once nothing is left, or for a failure. -/
theorem At.isDone (h : At answers data k failure w)
    (hover : takenBy answers data.length k = data.length ∨ failure ≠ none) : w.isDone = true := by
  unfold Writing.isDone
  rw [h.rest, h.failure]
  rcases hover with hall | hfailed
  · rw [hall, List.drop_length]
    rfl
  · rw [Option.isSome_iff_ne_none.mpr hfailed, Bool.or_true]

theorem At.not_isDone (h : At answers data k none w) (hleft : takenBy answers data.length k < data.length) :
    w.isDone = false := by
  unfold Writing.isDone
  rw [h.rest, h.failure, Option.isSome_none, Bool.or_false, List.isEmpty_eq_false_iff]
  intro hempty
  have hlength := congrArg List.length hempty
  rw [List.length_drop, List.length_nil] at hlength
  omega

/-- A write takes a piece from where the ones before it ended. -/
theorem At.accept {n : Nat} (h : At answers data k none w) (hanswer : answers k = .accepted (n + 1))
    (hleft : takenBy answers data.length k < data.length) :
    At answers data (k + 1) none (w.take (.accepted (n + 1))) := by
  have hnext : takenBy answers data.length (k + 1) =
      takenBy answers data.length k + min (n + 1) (data.length - takenBy answers data.length k) := by
    simp only [takenBy, hanswer, taken]
  have hbytes := (w.bytes_take (.accepted (n + 1))).trans (congrArg₂ (· ++ ·) h.bytes h.rest)
  rw [List.take_append_drop] at hbytes
  cases hrest : w.rest with
  | nil =>
    have hlength := congrArg List.length (h.rest.symm.trans hrest)
    rw [List.length_drop, List.length_nil] at hlength
    omega
  | cons byte others =>
    have hlength := congrArg List.length (h.rest.symm.trans hrest)
    rw [List.length_drop, List.length_cons] at hlength
    have htake : w.take (.accepted (n + 1)) =
        { w with
          writes := w.writes + 1
          rest := w.rest.drop ((others.take n).length + 1)
          accepted := (byte :: others.take n) :: w.accepted
          count := w.count + ((others.take n).length + 1) } := by
      simp [take, hrest, Writing.accept]
    have hpiece : (others.take n).length + 1 = min (n + 1) (data.length - takenBy answers data.length k) := by
      rw [List.length_take]
      omega
    have hrest' : (w.take (.accepted (n + 1))).rest = data.drop (takenBy answers data.length (k + 1)) := by
      rw [htake]
      dsimp only
      rw [hpiece, h.rest, List.drop_drop, hnext]
    refine ⟨hrest', ?_, ?_, ?_, ?_, ?_⟩
    · have hends : (w.take (.accepted (n + 1))).bytes ++ data.drop (takenBy answers data.length (k + 1)) =
          data.take (takenBy answers data.length (k + 1)) ++
            data.drop (takenBy answers data.length (k + 1)) := by
        rw [List.take_append_drop, ← hrest']
        exact hbytes
      exact List.append_cancel_right hends
    · rw [htake, hnext, ← hpiece]
      exact congrArg (· + _) h.count
    · rw [htake]
      exact congrArg (· + 1) h.writes
    · rw [htake]
      exact h.failure
    · rw [htake]
      exact h.onNothing

/-- What one write does: it takes a piece and goes on, or it takes nothing and may end the loop. -/
theorem At.take (h : At answers data k none w) (hleft : takenBy answers data.length k < data.length) :
    At answers data (k + 1) (answers k).stop? (w.take (answers k)) := by
  have hstays : (answers k).taken (data.length - takenBy answers data.length k) = 0 →
      takenBy answers data.length (k + 1) = takenBy answers data.length k := by
    intro hnothing
    simp only [takenBy, hnothing, Nat.add_zero]
  cases hanswer : answers k with
  | accepted n =>
    cases n with
    | zero =>
      replace hstays := hstays (by rw [hanswer]; exact Nat.zero_min _)
      have htake : w.take (.accepted 0) =
          { w with writes := w.writes + 1, failure := some w.onNothing } := by
        simp [Writing.take, Writing.accept]
      rw [htake]
      refine ⟨?_, ?_, ?_, congrArg (· + 1) h.writes, congrArg some h.onNothing, h.onNothing⟩
      · rw [hstays]
        exact h.rest
      · rw [hstays]
        exact h.bytes
      · rw [hstays]
        exact h.count
    | succ n => exact h.accept hanswer hleft
  | failed cause =>
    replace hstays := hstays (by rw [hanswer]; rfl)
    have htake : w.take (.failed cause) =
        { w with writes := w.writes + 1, failure := (WriteAnswer.failed cause).stop? } := by
      unfold Writing.take stop?
      dsimp only
      split
      · rw [← h.failure]
      · rfl
    rw [htake]
    refine ⟨?_, ?_, ?_, congrArg (· + 1) h.writes, rfl, h.onNothing⟩
    · rw [hstays]
      exact h.rest
    · rw [hstays]
      exact h.bytes
    · rw [hstays]
      exact h.count

theorem run_cons {answer : WriteAnswer} (h : w.isDone = false) (answers : List WriteAnswer) :
    w.run (answer :: answers) = (w.take answer).run answers := by
  rw [Writing.run, h]
  rfl

theorem run_append (w : Writing) (front back : List WriteAnswer) :
    w.run (front ++ back) = (w.run front).run back := by
  induction front generalizing w with
  | nil => rfl
  | cons answer front ih =>
    rw [List.cons_append]
    cases hdone : w.isDone with
    | true => rw [run_of_done hdone, run_of_done hdone, run_of_done hdone]
    | false => rw [run_cons hdone, run_cons hdone, ih]

/-- Where the loop is after each of its writes. -/
theorem at_run (hoffers : ∀ j < k, takenBy answers data.length j < data.length)
    (hgoes : ∀ j < k, (answers j).stop? = none) :
    At answers data k none ((start data).run (first answers k)) := by
  induction k with
  | zero => exact at_start answers data
  | succ k ih =>
    have hbefore := ih (fun j hj => hoffers j (Nat.lt_succ_of_lt hj)) fun j hj => hgoes j (Nat.lt_succ_of_lt hj)
    have hleft := hoffers k (Nat.lt_succ_self k)
    rw [first_succ, run_append, run_cons (hbefore.not_isDone hleft), ← hgoes k (Nat.lt_succ_self k)]
    exact hbefore.take hleft

/-- Where the loop ends, whatever answers there would have been to further writes. -/
theorem run_of_lastWrite (h : LastWrite answers data.length k) (later : List WriteAnswer) :
    ∃ failure, At answers data k failure ((start data).run (first answers k ++ later)) ∧
      (takenBy answers data.length k = data.length ∧ failure = none ∨
        takenBy answers data.length k < data.length ∧
          ∃ j cause, k = j + 1 ∧ (answers j).stop? = some cause ∧ failure = some cause) := by
  rw [run_append]
  rcases h.ended with ⟨hall, hgoes⟩ | ⟨hless, j, cause, rfl, hcause⟩
  · have hends := at_run h.offers hgoes
    rw [run_of_done (hends.isDone (.inl hall))]
    exact ⟨none, hends, .inl ⟨hall, rfl⟩⟩
  · have hbefore := at_run (fun i hi => h.offers i (Nat.lt_succ_of_lt hi))
      fun i hi => h.goes_on i (Nat.succ_lt_succ hi)
    have hleft := h.offers j (Nat.lt_succ_self j)
    have hends : At answers data (j + 1) (some cause) ((start data).run (first answers (j + 1))) := by
      rw [first_succ, run_append, run_cons (hbefore.not_isDone hleft), ← hcause]
      exact hbefore.take hleft
    rw [run_of_done (hends.isDone (.inr nofun))]
    exact ⟨some cause, hends, .inr ⟨hless, j, cause, rfl, hcause, rfl⟩⟩

end Writing

end ScriptExec
