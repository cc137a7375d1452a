-- SUMMARY: Writing through a handle gives the file what its writes take, in order, and reports what is missing.
import ScriptExec.Proofs.Builtin.Reports
import ScriptExec.Proofs.Host.Pieces

/-!
# Writing through a handle

The writes of a call may take pieces of any size, be interrupted, or fail. Whatever they do, the call ends, its
value is how much they took, and the file has been given just that much of the data from its start on; that the
rest is missing is reported once (`file_write_follows_answers`).
-/

namespace ScriptExec

open Host WriteAnswer

namespace Host.System

/-- A host that has its next writes answered in a certain way. -/
def answering (sys : System) (answers : List WriteAnswer) : System :=
  { sys with writeAnswers := answers }

/-- The answers that the writes to an open file get. A file that cannot be written turns all of them down. -/
def answersFor (sys : System) (d : Nat) (answers : Nat → WriteAnswer) : Nat → WriteAnswer :=
  match sys.checkWrite d with
  | .ok _ => answers
  | .error cause => fun _ => .failed cause

variable {sys : System} {d : Nat} {file : OpenFile} {answers : Nat → WriteAnswer} {data : Bytes} {k : Nat}

theorem answersFor_of_ok (h : sys.checkWrite d = .ok file) : sys.answersFor d answers = answers := by
  unfold answersFor
  rw [h]

theorem answersFor_of_error {cause : IoError} (h : sys.checkWrite d = .error cause) :
    sys.answersFor d answers = fun _ => .failed cause := by
  unfold answersFor
  rw [h]

theorem answersFor_finite (hfinite : {i | (answers i).Interrupted}.Finite) :
    {i | (sys.answersFor d answers i).Interrupted}.Finite := by
  cases hcheck : sys.checkWrite d with
  | ok file =>
    rw [answersFor_of_ok hcheck]
    exact hfinite
  | error cause =>
    have hnone : {i | (sys.answersFor d answers i).Interrupted} = ∅ := by
      rw [answersFor_of_error hcheck]
      apply Set.eq_empty_of_forall_notMem
      intro i hi
      have hinterrupted : cause.isInterrupted = true := hi
      rw [checkWrite_error hcheck] at hinterrupted
      cases hinterrupted
    rw [hnone]
    exact Set.finite_empty

/-- Nothing is taken by writes that are all turned down. -/
theorem takenBy_turnedDown (cause : IoError) (total k : Nat) : takenBy (fun _ => .failed cause) total k = 0 := by
  induction k with
  | zero => rfl
  | succ k ih => exact ih

/-- A loop whose writes are all turned down is over after the first one, if there is anything to write. -/
theorem run_turnedDown {cause : IoError} (hcause : cause.isInterrupted = false)
    (h : LastWrite (fun _ => .failed cause) data.length k) :
    (Writing.start data).run [.failed cause] =
      (Writing.start data).run (first (fun _ => .failed cause) k) := by
  have hstops : (WriteAnswer.failed cause).stop? = some cause := by
    simp [stop?, hcause]
  cases k with
  | zero =>
    rcases h.ended with ⟨hall, -⟩ | ⟨-, j, -, hj, -⟩
    · have hdone := (Writing.at_start (fun _ => .failed cause) data).isDone (.inl hall)
      rw [Writing.run_of_done hdone]
      rfl
    · cases hj
  | succ k =>
    cases k with
    | zero => rfl
    | succ k =>
      have hgoes := h.goes_on 0 (by omega)
      rw [hstops] at hgoes
      cases hgoes

theorem writeAll_of_error {cause : IoError} (h : sys.checkWrite d = .error cause) :
    sys.writeAll d data = ((Writing.start data).run [.failed cause], sys) := by
  unfold writeAll
  rw [h]

theorem writeAll_of_ok (h : sys.checkWrite d = .ok file) :
    let done := (Writing.start data).run (sys.writeAnswers ++ [.accepted data.length])
    sys.writeAll d data = (done, (sys.answering (sys.writeAnswers.drop done.writes)).put d done.bytes) := by
  intro done
  have hfile : (sys.answering (sys.writeAnswers.drop done.writes)).file? d = some file := checkWrite_ok h
  unfold writeAll put
  rw [h, hfile]
  rfl

/-- What a loop of writes has done when it is over, and what it leaves. -/
theorem writeAll_lastWrite {given : Nat → WriteAnswer} (hgiven : sys.answersFor d answers = given)
    (h : LastWrite given data.length k) (later : List WriteAnswer) :
    let n := takenBy given data.length k
    ∃ failure left,
      Writing.At given data k failure ((sys.answering (first answers k ++ later)).writeAll d data).1 ∧
      (n = data.length ∧ failure = none ∨
        n < data.length ∧ ∃ j cause, k = j + 1 ∧ (given j).stop? = some cause ∧ failure = some cause) ∧
      ((sys.answering (first answers k ++ later)).writeAll d data).2 =
        (sys.answering left).put d (data.take n) := by
  intro n
  cases hcheck : sys.checkWrite d with
  | error cause =>
    have hcheck' : (sys.answering (first answers k ++ later)).checkWrite d = .error cause := hcheck
    obtain rfl : (fun _ => .failed cause) = given := (answersFor_of_error hcheck).symm.trans hgiven
    obtain ⟨failure, hat, hover⟩ := Writing.run_of_lastWrite h []
    refine ⟨failure, first answers k ++ later, ?_, hover, ?_⟩
    · rw [List.append_nil] at hat
      rw [writeAll_of_error hcheck', run_turnedDown (checkWrite_error hcheck) h]
      exact hat
    · have hnothing : n = 0 := takenBy_turnedDown cause data.length k
      rw [writeAll_of_error hcheck', hnothing, List.take_zero, put_nil]
  | ok file =>
    have hcheck' : (sys.answering (first answers k ++ later)).checkWrite d = .ok file := hcheck
    obtain rfl : answers = given := (answersFor_of_ok hcheck).symm.trans hgiven
    obtain ⟨failure, hat, hover⟩ := Writing.run_of_lastWrite h (later ++ [.accepted data.length])
    rw [← List.append_assoc] at hat
    have hleft : (first answers k ++ later).drop k = later := by
      rw [List.drop_append_of_le_length (Nat.le_of_eq length_first.symm),
        List.drop_eq_nil_of_le (Nat.le_of_eq length_first), List.nil_append]
    refine ⟨failure, later, ?_, hover, ?_⟩
    · rw [writeAll_of_ok hcheck']
      exact hat
    · rw [writeAll_of_ok hcheck']
      dsimp only [answering] at hat ⊢
      rw [hat.writes, hat.bytes, hleft]

end Host.System

namespace Builtins

variable {runtime : Runtime} {args : CallArgs} {b : Builtins} {w : World} {d : Nat} {data : Bytes}

/-- A call that writes data through a handle. -/
theorem call_fileWrite (hdata : args.bytesByName? "data" = some data)
    (hfound : b.table.find? (args.intByName "fp" (-1)) = some d) :
    let done := w.sys.writeAll d data
    let called := b.call "file_write" runtime args w
    called.value = some (.int (Int64.ofNat done.1.count)) ∧ called.builtins = b ∧
      called.world.sys = done.2 ∧
      called.world.told b.executor.sink = w.told b.executor.sink ++
        done.1.failure.toList.map fun cause =>
          (.error, b.executor.sink.shown s!"file_write: write() failed - {cause.message}") := by
  intro done called
  have hpositive : decide (args.intByName "fp" (-1) < 0) = false :=
    decide_eq_false (HandleTable.not_neg_of_find? hfound)
  have hrecord : (w.record callRecord).told b.executor.sink = w.told b.executor.sink :=
    World.told_record_of_ne w _ (Log.Record.of_target_ne _ _ _ _)
  have hcalled : called = perform .fileWrite runtime args b (w.record callRecord) := call_of_name rfl
  rw [hcalled]
  simp only [perform, fileWrite, hdata, hpositive, hfound]
  cases hfailure : done.1.failure with
  | none =>
    have hnone : ((w.record callRecord).sys.writeAll d data).1.failure = none := hfailure
    rw [hnone, Option.toList_none, List.map_nil, List.append_nil]
    exact ⟨rfl, rfl, rfl, hrecord⟩
  | some cause =>
    have hsome : ((w.record callRecord).sys.writeAll d data).1.failure = some cause := hfailure
    rw [hsome]
    refine ⟨rfl, rfl, World.tell_sys _ _ _ _ _, (World.told_error _ _ _ _).trans ?_⟩
    exact congrArg (· ++ _) hrecord

/-- What a call leads to that writes data to an open file, if the loop of writes makes `k` of them and they are
answered in a certain way. -/
structure WritesOut (given : Nat → WriteAnswer) (k : Nat) (data : Bytes) (d : Nat) (b : Builtins) (w : World)
    (called : Called) : Prop where
  /-- The value tells how much the writes took. -/
  value : called.value = some (.int (Int64.ofNat (takenBy given data.length k)))
  handles : called.builtins = b
  /-- Each write puts what it takes behind what the writes before it took, and together they put so much of the
  data from its start on. -/
  system : ∃ left, called.world.sys = (w.sys.answering left).afterWrites d given data k ∧
    called.world.sys = (w.sys.answering left).put d (data.take (takenBy given data.length k))
  /-- A regular file has these bytes in it from its position on, or from its end on if it is appended to. -/
  content : ∀ file bytes, w.sys.file? d = some file → w.sys.tree.bytes? file.node = some bytes →
    takenBy given data.length k ≠ 0 → called.world.sys.tree.bytes? file.node =
      some (System.splice bytes (if file.append then bytes.length else file.offset)
        (data.take (takenBy given data.length k)))
  /-- One error is reported just when not all was taken, and it is that of the last write. -/
  told : takenBy given data.length k = data.length ∧
      called.world.told b.executor.sink = w.told b.executor.sink ∨
    takenBy given data.length k < data.length ∧ ∃ j cause, k = j + 1 ∧ (given j).stop? = some cause ∧
      called.world.told b.executor.sink = w.told b.executor.sink ++
        [(.error, b.executor.sink.shown s!"file_write: write() failed - {IoError.message cause}")]

/-- However the writes to an open file are answered, as long as only finitely many of them are interrupted, the
loop of writes ends, and the call tells how much of the data the file was given: the first bytes of it, in order,
and all of them just when nothing is reported. Without data no write is made. -/
theorem file_write_follows_answers (runtime : Runtime) (args : CallArgs) (b : Builtins) (w : World) (d : Nat)
    (data : Bytes) (answers : Nat → WriteAnswer) (hdata : args.bytesByName? "data" = some data)
    (hfound : b.table.find? (args.intByName "fp" (-1)) = some d)
    (hfinite : {i | (answers i).Interrupted}.Finite) :
    let given := w.sys.answersFor d answers
    ∃ k, LastWrite given data.length k ∧
      ((Writing.start data).run (first given k)).isDone = true ∧ (data = [] → k = 0) ∧
      ∀ later,
        let w' := { w with sys := w.sys.answering (first answers k ++ later) }
        WritesOut given k data d b w' (b.call "file_write" runtime args w') := by
  intro given
  obtain ⟨k, hlast⟩ := exists_lastWrite (System.answersFor_finite hfinite) data.length
  refine ⟨k, hlast, ?_, ?_, ?_⟩
  · obtain ⟨failure, hat, hover⟩ := Writing.run_of_lastWrite hlast []
    rw [List.append_nil] at hat
    apply hat.isDone
    rcases hover with ⟨hall, -⟩ | ⟨-, j, cause, -, -, rfl⟩
    · exact .inl hall
    · exact .inr nofun
  · rintro rfl
    apply Nat.eq_zero_of_not_pos
    intro hpos
    exact Nat.not_lt_zero _ (hlast.offers 0 hpos)
  · intro later w'
    obtain ⟨failure, left, hat, hover, hleft⟩ := System.writeAll_lastWrite rfl hlast later
    obtain ⟨hvalue, hhandles, hsys, htold⟩ := @call_fileWrite runtime args b w' d data hdata hfound
    replace hsys := hsys.trans hleft
    refine ⟨hvalue.trans (by rw [hat.count]), hhandles, ⟨left, ?_, hsys⟩, ?_, ?_⟩
    · exact hsys.trans (System.afterWrites_eq _ _ _ _ _).symm
    · intro file bytes hfile hbytes hsome
      have hpiece : data.take (takenBy given data.length k) ≠ [] := by
        intro hnil
        have hlength := congrArg List.length hnil
        rw [List.length_take, List.length_nil, Nat.min_eq_left (takenBy_le _ _ _)] at hlength
        exact hsome hlength
      rw [hsys]
      exact System.bytes?_put hfile hbytes hpiece
    · rw [htold, hat.failure]
      rcases hover with ⟨hall, rfl⟩ | ⟨hless, j, cause, hj, hcause, rfl⟩
      · exact .inl ⟨hall, List.append_nil _⟩
      · exact .inr ⟨hless, j, cause, hj, hcause, rfl⟩

/-- Writes that are cut short and interrupted until the disk is full. -/
def fillingDisk (i : Nat) : WriteAnswer :=
  [.failed (.os 4), .accepted 2, .failed (.simple .interrupted), .accepted 3].getD i (.failed .noSpace)

/-- A file that is open for writing in its middle. -/
def openInMiddle : System :=
  { tree := { nodes := [⟨0o755, .directory 0 [(utf8 "f", 1)] true⟩, ⟨0o644, .regular (utf8 "old text")⟩] }
    cwd := 0, env := [], limit := 1024, nextPid := 2
    descriptors := [(32, { node := 1, readable := false, writable := true, append := false, offset := 4 })] }

/-- Five writes are made, which take five of six bytes. -/
theorem file_write_follows_answers_of_full_disk :
    let args : CallArgs := { named := [("data", .str "lesson"), ("fp", .int 32)] }
    let b : Builtins := { table := { handles := [32] } }
    let w : World := { sys := openInMiddle.answering (first fillingDisk 5) }
    let called := b.call "file_write" .outside args w
    {i | (fillingDisk i).Interrupted}.Finite ∧ called.value = some (.int 5) ∧
      called.world.sys.tree.bytes? 1 = some (utf8 "old lesso") ∧
      called.world.told .log =
        [(.error, "file_write: write() failed - No space left on device (os error 28)")] := by
  intro args b w called
  have hfinite : {i | (fillingDisk i).Interrupted}.Finite := by
    apply (Set.finite_lt_nat 4).subset
    intro i hi
    by_contra hlater
    have hnoSpace : fillingDisk i = .failed .noSpace := by
      apply List.getD_eq_default
      exact Nat.not_lt.mp hlater
    have hinterrupted : (WriteAnswer.failed .noSpace).Interrupted := hnoSpace ▸ hi
    cases hinterrupted
  obtain ⟨k, hlast, -, -, hwrites⟩ := file_write_follows_answers .outside args b { sys := openInMiddle } 32
    (utf8 "lesson") fillingDisk (by cbv) (by decide) hfinite
  have hgiven : openInMiddle.answersFor 32 fillingDisk = fillingDisk := System.answersFor_of_ok rfl
  rw [hgiven] at hlast hwrites
  obtain rfl : k = 5 := by
    rcases Nat.lt_trichotomy k 5 with hless | heq | hmore
    · rcases hlast.ended with ⟨hall, -⟩ | ⟨-, j, cause, rfl, hcause⟩
      · interval_cases k <;> cases hall
      · have hbefore : j < 4 := Nat.succ_lt_succ_iff.mp hless
        interval_cases j <;> cases hcause
    · exact heq
    · cases hlast.goes_on 4 hmore
  have hout := hwrites []
  refine ⟨hfinite, hout.value, ?_, ?_⟩
  · refine (hout.content _ (utf8 "old text") rfl rfl (by decide)).trans ?_
    decide
  · rcases hout.told with ⟨hall, -⟩ | ⟨-, j, cause, hj, hcause, htold⟩
    · cases hall
    · obtain rfl : 4 = j := Nat.succ_inj.mp hj
      cases hcause
      exact htold.trans (by decide)

end Builtins

end ScriptExec
