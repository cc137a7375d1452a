-- SUMMARY: A loop of writes that ends without a failure has written everything, and no other has.
import ScriptExec.Host.System

/-!
# Loops of writes

What a loop has counted and what it still offers make up the data at all times, and it only fails while
something is left (`Writing.Accounts`). So, once it is done, it has counted all of the data just when it has
not failed (`Host.System.writeAll_count`).
-/

namespace ScriptExec

/-- Something was accepted, or the write was only interrupted. -/
def WriteAnswer.Proceeds : WriteAnswer → Prop
  | .accepted n => 0 < n
  | .failed cause => cause.isInterrupted = true

namespace Writing

/-- The loop has counted all that it does not offer any more, and has not failed if nothing is left. -/
structure Accounts (total : Nat) (w : Writing) : Prop where
  count : w.count + w.rest.length = total
  failure : w.failure.isSome = true → w.rest ≠ []

variable {w : Writing} {total : Nat} {answer : WriteAnswer} {answers : List WriteAnswer}

theorem accounts_start (data : Bytes) : Accounts data.length (start data) where
  count := Nat.zero_add _
  failure := nofun

theorem rest_ne_nil (h : w.isDone = false) : w.rest ≠ [] := by
  intro hrest
  simp [isDone, hrest] at h

theorem Accounts.take (h : Accounts total w) (hgoing : w.isDone = false) :
    Accounts total (w.take answer) := by
  have hrest := rest_ne_nil hgoing
  have hnotFailed : w.failure = none := by
    unfold isDone at hgoing
    rw [Bool.or_eq_false_iff] at hgoing
    exact Option.not_isSome_iff_eq_none.mp (by simp [hgoing.2])
  cases answer with
  | accepted n =>
    unfold Writing.take
    dsimp only
    cases hpiece : w.rest.take n with
    | nil => exact ⟨h.count, fun _ => hrest⟩
    | cons first piece =>
      have hlength := congrArg List.length hpiece
      simp only [List.length_take, List.length_cons] at hlength
      refine ⟨?_, fun hfailed => ?_⟩
      · show w.count + (piece.length + 1) + (w.rest.drop (piece.length + 1)).length = total
        have hcount := h.count
        rw [List.length_drop]
        omega
      · replace hfailed : w.failure.isSome = true := hfailed
        rw [hnotFailed] at hfailed
        cases hfailed
  | failed cause =>
    unfold Writing.take
    dsimp only
    split
    · exact ⟨h.count, h.failure⟩
    · exact ⟨h.count, fun _ => hrest⟩

theorem Accounts.run (h : Accounts total w) (answers : List WriteAnswer) :
    Accounts total (w.run answers) := by
  induction answers generalizing w with
  | nil => exact h
  | cons answer answers ih =>
    unfold Writing.run
    split
    · exact h
    · rename_i hgoing
      exact ih (h.take (Bool.eq_false_iff.mpr hgoing))

theorem run_of_done (h : w.isDone = true) : w.run answers = w := by
  cases answers with
  | nil => rfl
  | cons answer answers => exact if_pos h

/-- A loop ends at the latest with a write that accepts all it is offered. -/
theorem isDone_run_append (h : Accounts total w) (answers : List WriteAnswer) :
    (w.run (answers ++ [.accepted total])).isDone = true := by
  induction answers generalizing w with
  | nil =>
    show (if w.isDone then w else w.take (.accepted total)).isDone = true
    split
    · assumption
    · have hall : w.rest.take total = w.rest.take w.rest.length := by
        rw [List.take_length, List.take_of_length_le (h.count ▸ Nat.le_add_left _ _)]
      have hsame : w.take (.accepted total) = w.take (.accepted w.rest.length) := by
        unfold Writing.take
        dsimp only
        rw [hall]
      rw [hsame]
      exact isDone_take_all w
  | cons answer answers ih =>
    rw [List.cons_append]
    unfold Writing.run
    split
    · assumption
    · rename_i hgoing
      exact ih (h.take (Bool.eq_false_iff.mpr hgoing))

/-- A loop that is done has counted everything just when it has not failed. -/
theorem Accounts.count_of_done (h : Accounts total w) (hdone : w.isDone = true) :
    (w.failure = none ∧ w.count = total) ∨ (∃ cause, w.failure = some cause) ∧ w.count < total := by
  have hcount := h.count
  cases hfailure : w.failure with
  | none =>
    have hempty : w.rest = [] := by simpa [isDone, hfailure] using hdone
    refine .inl ⟨rfl, ?_⟩
    rw [← hcount, hempty]
    rfl
  | some cause =>
    have hpos : 0 < w.rest.length := List.length_pos_iff.mpr (h.failure (by rw [hfailure]; rfl))
    exact .inr ⟨⟨cause, rfl⟩, by omega⟩

/-- A loop goes on after an answer that lets it. -/
theorem failure_take (hgoing : w.isDone = false) (hfailure : w.failure = none) (h : answer.Proceeds) :
    (w.take answer).failure = none := by
  have hrest := rest_ne_nil hgoing
  cases answer with
  | accepted n =>
    unfold Writing.take
    dsimp only
    cases hpiece : w.rest.take n with
    | nil =>
      have hpos : n ≠ 0 := Nat.ne_of_gt h
      exact absurd hpiece (by simp [hpos, hrest])
    | cons first piece => exact hfailure
  | failed cause =>
    have hinterrupted : cause.isInterrupted = true := h
    unfold Writing.take
    dsimp only
    rw [if_pos hinterrupted]
    exact hfailure

/-- What has been accepted and what is left make up the data at all times. -/
theorem bytes_take (w : Writing) (answer : WriteAnswer) :
    (w.take answer).bytes ++ (w.take answer).rest = w.bytes ++ w.rest := by
  cases answer with
  | failed cause =>
    unfold Writing.take
    dsimp only
    split <;> rfl
  | accepted n =>
    unfold Writing.take
    dsimp only
    cases hpiece : w.rest.take n with
    | nil => rfl
    | cons first piece =>
      have hall : first :: piece ++ w.rest.drop (piece.length + 1) = w.rest := by
        have hlength := congrArg List.length hpiece
        simp only [List.length_take, List.length_cons] at hlength
        have hfront : first :: piece = w.rest.take (piece.length + 1) := by
          rw [← hlength, ← hpiece, List.take_eq_take_iff]
          omega
        rw [hfront]
        exact List.take_append_drop (piece.length + 1) w.rest
      simp only [accept, bytes, List.reverse_cons, List.flatten_append, List.flatten_singleton,
        List.append_assoc, hall]

theorem bytes_run (w : Writing) (answers : List WriteAnswer) :
    (w.run answers).bytes ++ (w.run answers).rest = w.bytes ++ w.rest := by
  induction answers generalizing w with
  | nil => rfl
  | cons answer answers ih =>
    unfold Writing.run
    split
    · rfl
    · exact (ih (w.take answer)).trans (w.bytes_take answer)

theorem failure_run (hfailure : w.failure = none) (h : ∀ answer ∈ answers, answer.Proceeds) :
    (w.run answers).failure = none := by
  induction answers generalizing w with
  | nil => exact hfailure
  | cons answer answers ih =>
    obtain ⟨hfirst, hrest⟩ := List.forall_mem_cons.mp h
    unfold Writing.run
    split
    · exact hfailure
    · rename_i hgoing
      exact ih (failure_take (Bool.eq_false_iff.mpr hgoing) hfailure hfirst) hrest

/-- A loop that has ended without a failure has had all of the data accepted. -/
theorem bytes_of_done {data : Bytes} (h : w.bytes ++ w.rest = data) (hdone : w.isDone = true)
    (hfailure : w.failure = none) : w.bytes = data := by
  have hrest : w.rest = [] := by simpa [isDone, hfailure] using hdone
  rw [← h, hrest, List.append_nil]

end Writing

namespace Host.System

theorem checkWrite_error {sys : System} {d : Nat} {cause : IoError} (h : sys.checkWrite d = .error cause) :
    cause.isInterrupted = false := by
  unfold checkWrite at h
  split at h
  · cases h
    rfl
  · split at h
    · cases h
      rfl
    · split at h <;> cases h <;> rfl

/-- All of the data is written, or fewer bytes and there is a failure. -/
theorem writeAll_count (sys : System) (d : Nat) (data : Bytes) :
    ((sys.writeAll d data).1.failure = none ∧ (sys.writeAll d data).1.count = data.length) ∨
      (∃ cause, (sys.writeAll d data).1.failure = some cause) ∧
        (sys.writeAll d data).1.count < data.length := by
  have hstart := Writing.accounts_start data
  unfold writeAll
  cases hcheck : sys.checkWrite d with
  | error cause =>
    refine (hstart.run [.failed cause]).count_of_done ?_
    cases hdone : (Writing.start data).isDone with
    | true => rw [Writing.run_of_done hdone, hdone]
    | false =>
      have hrun : (Writing.start data).run [.failed cause] = (Writing.start data).take (.failed cause) := by
        unfold Writing.run
        rw [hdone]
        rfl
      rw [hrun]
      simp [Writing.take, checkWrite_error hcheck, Writing.isDone]
  | ok file =>
    exact (hstart.run _).count_of_done (Writing.isDone_run_append hstart sys.writeAnswers)

/-- Data that is written without a write error is written in full. -/
theorem writeAll_of_proceeds {sys : System} {d : Nat} {file : OpenFile} (hcheck : sys.checkWrite d = .ok file)
    (hwrites : ∀ answer ∈ sys.writeAnswers, answer.Proceeds) (data : Bytes) :
    ∃ left, (∀ answer ∈ left, answer.Proceeds) ∧
      (sys.writeAll d data).2 =
        if data = [] then { sys with writeAnswers := left }
        else { sys with writeAnswers := left }.writeTo d file data := by
  let done := (Writing.start data).run (sys.writeAnswers ++ [.accepted data.length])
  have hbytes : done.bytes = data := by
    by_cases hdata : data = []
    · subst hdata
      exact congrArg Writing.bytes (Writing.run_of_done rfl)
    · have hall : ∀ answer ∈ sys.writeAnswers ++ [.accepted data.length], answer.Proceeds := by
        intro answer hanswer
        rcases List.mem_append.mp hanswer with hanswer | hlast
        · exact hwrites answer hanswer
        · rw [List.mem_singleton.mp hlast]
          exact List.length_pos_iff.mpr hdata
      have hdone : done.isDone = true :=
        Writing.isDone_run_append (Writing.accounts_start data) sys.writeAnswers
      exact Writing.bytes_of_done (Writing.bytes_run _ _) hdone (Writing.failure_run rfl hall)
  refine ⟨sys.writeAnswers.drop done.writes, fun answer h => hwrites answer (List.mem_of_mem_drop h), ?_⟩
  unfold writeAll
  rw [hcheck]
  dsimp only
  rw [show ((Writing.start data).run (sys.writeAnswers ++ [.accepted data.length])).bytes = data from hbytes]
  by_cases hdata : data = []
  · rw [if_pos hdata, if_pos (List.isEmpty_iff.mpr hdata)]
  · rw [if_neg hdata, if_neg (fun hempty => hdata (List.isEmpty_iff.mp hempty))]

end Host.System

end ScriptExec
