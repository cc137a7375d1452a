-- SUMMARY: Whether a drain succeeds, and with what it fails, as far as that depends on the readers alone.
import ScriptExec.Proofs.Multiplexer.Delivery

/-!
# The verdict on a drain

What a reader has in prospect is the bytes before its first end or failure, and that failure if there
is one (`Reader.outlook`); interruptions do not count. Every poll takes what it gives from the outlook
of its stream, or meets the failure in it (`Stream.poll_outlook`), and no poll of the other stream
touches it. So a drain fails if and only if a failure is in prospect, whatever the schedule is, and it
has counted what it has read by then (`Multiplexer.drain_verdict`).
-/

namespace ScriptExec

/-! ## One reader -/

namespace Reader

/-- The bytes a reader gives before its first end or failure, and that failure. Interruptions are no
failures. -/
def outlook : Reader → Bytes × Option IoError
  | [] => ([], none)
  | .data [] :: _ => ([], none)
  | .data (b :: bytes) :: rest => (b :: bytes ++ (outlook rest).1, (outlook rest).2)
  | .pending _ :: rest => outlook rest
  | .fail cause :: rest => if cause.isInterrupted then outlook rest else ([], some cause)

/-- The first failure before the first end. -/
def failure? (reader : Reader) : Option IoError :=
  reader.outlook.2

/-- The bytes before the first end or failure. -/
def given (reader : Reader) : Bytes :=
  reader.outlook.1

/-- A reader without its interruptions. -/
def uninterrupted (reader : Reader) : Reader :=
  reader.filter fun
    | .fail cause => !cause.isInterrupted
    | _ => true

/-- How an answer changes what a reader has in prospect. -/
def Foretold (before after : Bytes × Option IoError) : Option (Except IoError Bytes) → Prop
  | none => after = before
  | some (.ok []) => before = ([], none)
  | some (.ok (b :: piece)) => before = (b :: piece ++ after.1, after.2)
  | some (.error cause) =>
    if cause.isInterrupted then after = before else before = ([], some cause)

theorem poll_outlook {chunk : Nat} (hchunk : 0 < chunk) (reader : Reader) :
    Foretold reader.outlook (poll chunk reader).2.outlook (poll chunk reader).1 := by
  induction reader with
  | nil => rfl
  | cons event rest ih =>
    cases event with
    | data bytes =>
      cases bytes with
      | nil => simp [poll, Foretold, outlook]
      | cons b bytes =>
        -- A chunk has at least one byte, so the piece has one.
        obtain ⟨chunk, rfl⟩ := Nat.exists_eq_succ_of_ne_zero (Nat.ne_of_gt hchunk)
        simp only [poll]
        split
        · rfl
        · rename_i c more hdrop
          have hbytes : b :: bytes = b :: bytes.take chunk ++ c :: more := by
            rw [← hdrop, ← List.take_succ_cons, List.take_append_drop]
          rw [List.take_succ_cons]
          simp only [Foretold, outlook]
          rw [hbytes, List.append_assoc]
    | pending polls =>
      cases polls with
      | zero => exact ih
      | succ polls => rfl
    | fail cause =>
      cases hinterrupted : cause.isInterrupted <;> simp [poll, Foretold, outlook, hinterrupted]

theorem outlook_uninterrupted (reader : Reader) : reader.uninterrupted.outlook = reader.outlook := by
  unfold uninterrupted
  fun_induction outlook reader <;> simp_all [outlook]

theorem yielded_uninterrupted (reader : Reader) : reader.uninterrupted.yielded = reader.yielded := by
  unfold uninterrupted
  fun_induction yielded reader with
  | case5 cause rest ih => cases hinterrupted : cause.isInterrupted <;> simp [yielded, hinterrupted, ih]
  | _ => simp_all [yielded]

/-- Where no failure is in prospect, a reader gives all that it yields. -/
theorem given_of_failure_eq_none {reader : Reader} (h : reader.failure? = none) :
    reader.given = reader.yielded := by
  unfold failure? at h
  unfold given
  fun_induction outlook reader <;> simp_all [yielded]

end Reader

/-! ## One stream -/

namespace Stream

/-- What a stream has in prospect; nothing once it is closed. -/
def outlook (s : Stream) : Bytes × Option IoError :=
  if s.isOpen then s.reader.outlook else ([], none)

/-- How many bytes have been read from a stream. -/
def readCount (s : Stream) : Nat :=
  s.reads.foldr (fun read count => count + read.getD 0) 0

@[simp] theorem outlook_of_closed {s : Stream} (h : s.isOpen = false) : s.outlook = ([], none) := by
  simp [outlook, h]

/-- A poll takes what it gives from the front of the outlook, or meets the failure in it. -/
theorem poll_outlook {chunk : Nat} (hchunk : 0 < chunk) {s : Stream} (hopen : s.isOpen = true) :
    match (s.poll chunk).1 with
    | .failed cause => s.outlook = ([], some cause)
    | polled =>
      s.outlook = (polled.given ++ (s.poll chunk).2.outlook.1, (s.poll chunk).2.outlook.2) := by
  have hreader := Reader.poll_outlook hchunk s.reader
  revert hreader
  unfold poll
  generalize s.reader.poll chunk = answer
  obtain ⟨_ | cause | _ | ⟨b, piece⟩, reader⟩ := answer <;> intro hreader
  · simpa [outlook, hopen, Polled.given, Reader.Foretold, eq_comm] using hreader
  · cases hinterrupted : cause.isInterrupted with
    | true =>
      simpa [outlook, hopen, Polled.given, Reader.Foretold, hinterrupted, eq_comm] using hreader
    | false => simpa [outlook, hopen, Reader.Foretold, hinterrupted] using hreader
  · simpa [outlook, hopen, Polled.given, Reader.Foretold] using hreader
  · simpa [outlook, hopen, Polled.given, Reader.Foretold] using hreader

/-- A stream counts what it gives. -/
theorem poll_readCount (chunk : Nat) (s : Stream) :
    (s.poll chunk).2.readCount = s.readCount + (s.poll chunk).1.given.length := by
  unfold poll
  split
  · simp [readCount, Polled.given]
  · simp [readCount, Polled.given]
  · simp [readCount, Polled.given, Nat.add_comm]
  · split <;> simp [readCount, Polled.given]

/-- An interruption leaves a stream open, with the same in prospect. -/
theorem poll_interrupted {chunk : Nat} (hchunk : 0 < chunk) {s : Stream} (hopen : s.isOpen = true)
    (h : (s.poll chunk).1 = .interrupted) :
    (s.poll chunk).2.isOpen = true ∧ (s.poll chunk).2.outlook = s.outlook := by
  have houtlook := poll_outlook hchunk hopen
  simp only [h, Polled.given, List.nil_append] at houtlook
  refine ⟨?_, houtlook.symm⟩
  revert h
  unfold poll
  split <;> simp [hopen]

/-- An end is read at most once, as the last read, and closes the stream. -/
structure EndsOnce (s : Stream) : Prop where
  last : some 0 ∉ s.reads.tail
  closes : s.isOpen = true → some 0 ∉ s.reads

theorem EndsOnce.poll {s : Stream} (h : EndsOnce s) (hopen : s.isOpen = true) (chunk : Nat) :
    EndsOnce (s.poll chunk).2 := by
  have hnone := h.closes hopen
  unfold Stream.poll
  split
  · exact ⟨h.last, h.closes⟩
  · exact ⟨hnone, nofun⟩
  · rename_i piece reader hne hpoll
    cases piece with
    | nil => exact absurd rfl (hne ·)
    | cons b piece => exact ⟨hnone, fun _ => by simp [hnone]⟩
  · exact ⟨hnone, fun _ => by simp [hnone]⟩

end Stream

/-! ## Two streams -/

/-- What is there for a side. -/
def Side.choose {α : Type} (a b : α) : Side → α
  | .a => a
  | .b => b

namespace Drain

/-- What is known of a drain under way: what `all` each stream has in prospect at first is what has been
read from it and what it still has in prospect. -/
structure Tally (all : Side → Bytes × Option IoError) (d : Drain) : Prop where
  given : ∀ side,
    (all side).1.length = (d.stream side).readCount + (d.stream side).outlook.1.length
  failure : ∀ side, (all side).2 = (d.stream side).outlook.2
  counted : ∀ side, d.count = (d.stream side).readCount + (d.stream (other side)).readCount
  ended : ∀ side, (d.stream side).EndsOnce

/-- What is known of a drain that one stream has ended with a failure. -/
structure Failed (all : Side → Bytes × Option IoError) (cause : IoError) (side : Side) (d : Drain) :
    Prop where
  cause : (all side).2 = some cause
  counted : d.count = (all side).1.length + (d.stream (other side)).readCount
  ended : ∀ side, (d.stream side).EndsOnce

theorem tally_start (a b : Reader) :
    Tally (fun side => (side.choose a b).outlook) (start a b) where
  given side := by
    cases side <;> simp [Side.choose, stream, start, Stream.readCount, Stream.outlook]
  failure side := by cases side <;> simp [Side.choose, stream, start, Stream.outlook]
  counted side := by cases side <;> rfl
  ended side := by cases side <;> exact ⟨by simp [stream, start], by simp [stream, start]⟩

@[simp] theorem other_ne (side : Side) : other side ≠ side := by
  cases side <;> nofun

@[simp] theorem other_other (side : Side) : other (other side) = side := by
  cases side <;> rfl

theorem eq_or_eq_other (side side' : Side) : side' = side ∨ side' = other side := by
  cases side <;> cases side' <;> simp [other]

variable {all : Side → Bytes × Option IoError} {d : Drain} {chunk : Nat}

/-- A poll that does not fail is entered in the tally. -/
theorem Tally.enter (h : Tally all d) {side : Side} (hopen : (d.stream side).isOpen = true)
    {d' : Drain} {piece : Bytes} (hended : (d'.stream side).EndsOnce)
    (houtlook : (d.stream side).outlook =
      (piece ++ (d'.stream side).outlook.1, (d'.stream side).outlook.2))
    (hread : (d'.stream side).readCount = (d.stream side).readCount + piece.length)
    (hother : d'.stream (other side) = d.stream (other side))
    (hcount : d'.count = d.count + piece.length) : Tally all d' where
  given side' := by
    rcases eq_or_eq_other side side' with rfl | rfl
    · rw [h.given, houtlook, hread, List.length_append]
      omega
    · rw [hother, h.given]
  failure side' := by
    rcases eq_or_eq_other side side' with rfl | rfl
    · rw [h.failure, houtlook]
    · rw [hother, h.failure]
  counted side' := by
    have hcounted := h.counted side
    rcases eq_or_eq_other side side' with rfl | rfl
    · rw [hcount, hother, hread]
      omega
    · rw [other_other, hcount, hother, hread]
      omega
  ended side' := by
    rcases eq_or_eq_other side side' with rfl | rfl
    · exact hended
    · rw [hother]
      exact h.ended _

/-- What is known after a stream was asked. -/
def Asked.Known (all : Side → Bytes × Option IoError) (side : Side) : Asked → Prop
  | .nothing d | .progress d => Tally all d
  | .failed cause d => Failed all cause side d

theorem Tally.ask (h : Tally all d) (hchunk : 0 < chunk) (side : Side) :
    (d.ask chunk side).Known all side := by
  by_cases hopen : (d.stream side).isOpen = true
  · have houtlook := Stream.poll_outlook hchunk hopen
    have hread := Stream.poll_readCount chunk (d.stream side)
    have hended := (h.ended side).poll hopen chunk
    simp only [Drain.ask, hopen, if_true]
    revert houtlook hread hended
    generalize (d.stream side).poll chunk = answer
    obtain ⟨polled, s⟩ := answer
    intro houtlook hread hended
    cases polled with
    | notReady | finished | interrupted | bytes =>
      exact h.enter hopen (by simpa using hended) (by simpa using houtlook) (by simpa using hread)
        (by simp) (by simp [Polled.given])
    | failed cause =>
      have houtlook : (d.stream side).outlook = ([], some cause) := houtlook
      have hgiven : (all side).1.length = (d.stream side).readCount := by
        rw [h.given, houtlook]
        rfl
      refine ⟨by rw [h.failure, houtlook], ?_, fun side' => ?_⟩
      · rw [count_setStream, stream_setStream_ne _ _ (other_ne side), hgiven, h.counted side]
      · rcases eq_or_eq_other side side' with rfl | rfl
        · simpa using hended
        · simpa using h.ended (other side)
  · rw [ask_of_closed (by simpa using hopen)]
    exact h

theorem Tally.round (h : Tally all d) (hchunk : 0 < chunk) (first : Side) :
    match d.round chunk first with
    | .ok d' => Tally all d'
    | .error (cause, d') => ∃ side, Failed all cause side d' := by
  have hfirst := h.ask hchunk first
  revert hfirst
  unfold Drain.round
  cases d.ask chunk first with
  | progress d₁ => exact id
  | failed cause d₁ => exact fun hfailed => ⟨first, hfailed⟩
  | nothing d₁ =>
    intro h₁
    have hsecond := Tally.ask h₁ hchunk (other first)
    dsimp only
    revert hsecond
    cases d₁.ask chunk (other first) with
    | progress d₂ | nothing d₂ => exact id
    | failed cause d₂ => exact fun hfailed => ⟨other first, hfailed⟩

/-- Both streams are closed. -/
def IsOver (d : Drain) : Prop :=
  ¬(d.a.isOpen = true ∨ d.b.isOpen = true)

instance (d : Drain) : Decidable d.IsOver :=
  inferInstanceAs (Decidable (¬_))

theorem IsOver.closed (h : d.IsOver) (side : Side) : (d.stream side).isOpen = false := by
  unfold IsOver at h
  cases side <;> simp_all [stream]

theorem Tally.run (h : Tally all d) (hchunk : 0 < chunk) (schedule : Schedule) :
    match d.run chunk hchunk schedule with
    | (.ok (), d') => Tally all d' ∧ d'.IsOver
    | (.error cause, d') => ∃ side, Failed all cause side d' := by
  fun_induction Drain.run chunk hchunk schedule d with
  | case1 schedule d hopen d' hround ih =>
    have h' := h.round hchunk (schedule.headD .a)
    rw [hround] at h'
    exact ih h'
  | case2 schedule d hopen cause d' hround =>
    have h' := h.round hchunk (schedule.headD .a)
    rw [hround] at h'
    exact h'
  | case3 schedule d hclosed => exact ⟨h, hclosed⟩

/-! ## Rounds -/

/-- One round for each entry of a schedule, unless both streams are closed before. -/
def rounds (chunk : Nat) : Schedule → Drain → Except (IoError × Drain) Drain
  | [], d => .ok d
  | first :: rest, d =>
    if d.IsOver then .ok d
    else
      match d.round chunk first with
      | .ok d' => rounds chunk rest d'
      | .error failure => .error failure

theorem ask_closed {side : Side} (hclosed : (d.stream side).isOpen = false) (asked : Side) :
    (d.ask chunk asked).drain.stream side = d.stream side := by
  rcases eq_or_eq_other asked side with rfl | rfl
  · rw [ask_of_closed hclosed]
    rfl
  · unfold ask
    split
    · dsimp only
      split <;> simp [Asked.drain]
    · rfl

/-- A round leaves a closed stream alone. -/
theorem round_closed {side : Side} (hclosed : (d.stream side).isOpen = false) (first : Side) :
    (afterRound (d.round chunk first)).stream side = d.stream side := by
  have hfirst : (d.ask chunk first).drain.stream side = d.stream side := ask_closed hclosed first
  revert hfirst
  unfold round
  cases d.ask chunk first with
  | progress d₁ | failed cause d₁ => exact id
  | nothing d₁ =>
    intro h₁
    have h₁ : d₁.stream side = d.stream side := h₁
    have hsecond : (d₁.ask chunk (other first)).drain.stream side = d₁.stream side :=
      ask_closed (h₁ ▸ hclosed) (other first)
    rw [h₁] at hsecond
    dsimp only
    revert hsecond
    cases d₁.ask chunk (other first) <;> exact id

theorem run_of_over {hchunk : 0 < chunk} (h : d.IsOver) (schedule : Schedule) :
    d.run chunk hchunk schedule = (.ok (), d) := by
  rw [run, dif_neg h]

theorem run_of_not_over {hchunk : 0 < chunk} (h : ¬d.IsOver) (schedule : Schedule) :
    d.run chunk hchunk schedule =
      match d.round chunk (schedule.headD .a) with
      | .ok d' => d'.run chunk hchunk schedule.tail
      | .error (cause, d') => (.error cause, d') := by
  rw [run, dif_pos (Decidable.not_not.mp h)]
  split <;> rename_i hround <;> rw [hround]

/-- A drain leaves a closed stream alone. -/
theorem run_closed {hchunk : 0 < chunk} {side : Side} (hclosed : (d.stream side).isOpen = false)
    (schedule : Schedule) : (d.run chunk hchunk schedule).2.stream side = d.stream side := by
  fun_induction run chunk hchunk schedule d with
  | case1 schedule d hopen d' hround ih =>
    have hkept : (afterRound (d.round chunk (schedule.headD .a))).stream side = d.stream side :=
      round_closed hclosed _
    rw [hround] at hkept
    have hkept : d'.stream side = d.stream side := hkept
    rw [ih (hkept ▸ hclosed), hkept]
  | case2 schedule d hopen cause d' hround =>
    have hkept : (afterRound (d.round chunk (schedule.headD .a))).stream side = d.stream side :=
      round_closed hclosed _
    rwa [hround] at hkept
  | case3 => rfl

/-- A schedule is followed entry by entry. -/
theorem run_append (hchunk : 0 < chunk) (schedule more : Schedule) (d : Drain) :
    d.run chunk hchunk (schedule ++ more) =
      match d.rounds chunk schedule with
      | .ok d' => d'.run chunk hchunk more
      | .error (cause, d') => (.error cause, d') := by
  induction schedule generalizing d with
  | nil => rfl
  | cons first rest ih =>
    by_cases hover : d.IsOver
    · simp only [rounds, hover, if_true, run_of_over hover]
    · rw [List.cons_append, run_of_not_over hover, rounds, if_neg hover, List.headD_cons]
      cases d.round chunk first with
      | ok d' => exact ih d'
      | error failure => rfl

theorem isOver_of_weight (h : d.weight = 0) : d.IsOver := by
  rintro (hopen | hopen) <;> simp [weight, Stream.weight, hopen] at h

/-- As many rounds as there is weight are enough. -/
theorem rounds_over (hchunk : 0 < chunk) {schedule : Schedule} {d' : Drain}
    (hlength : d.weight ≤ schedule.length) (h : d.rounds chunk schedule = .ok d') : d'.IsOver := by
  induction schedule generalizing d with
  | nil =>
    obtain rfl : d = d' := Except.ok.inj h
    exact isOver_of_weight (Nat.le_zero.mp hlength)
  | cons first rest ih =>
    rw [rounds] at h
    split at h
    · rename_i hover
      exact Except.ok.inj h ▸ hover
    · rename_i hover
      split at h
      · rename_i d₁ hround
        refine ih ?_ h
        have hlt : d₁.weight < d.weight := by
          refine round_weight_lt hchunk ?_ hround
          have hopen := Decidable.not_not.mp hover
          cases first with
          | a => exact hopen
          | b => exact hopen.symm
        rw [List.length_cons] at hlength
        omega
      · cases h

end Drain

/-! ## The verdict -/

namespace Multiplexer

variable {m : Multiplexer} {a b : Reader}

/-- A drain comes to its end within as many rounds as its readers have weight, and two for their ends. -/
theorem drain_rounds {schedule : Schedule} (hlength : a.weight + b.weight + 2 ≤ schedule.length)
    (more : Schedule) :
    match (Drain.start a b).rounds m.chunkSize schedule with
    | .ok d => d.IsOver ∧ m.drain a b (schedule ++ more) = (.ok d.bytes, d)
    | .error (cause, d) => m.drain a b (schedule ++ more) = (.error (.capture d.count cause), d) := by
  have hweight : (Drain.start a b).weight ≤ schedule.length := by
    simp only [Drain.weight, Drain.start, Stream.weight, if_true]
    omega
  unfold drain
  rw [Drain.run_append]
  split
  · rename_i d hrounds
    have hover := Drain.rounds_over m.chunkSize_pos hweight hrounds
    simp only [Drain.run_of_over hover, and_true]
    exact hover
  · rfl

/-- What a drain can end with. -/
inductive Verdict (a b : Reader) : Except ExecError Bytes × Drain → Prop
  | delivered {d buffer} (hsafe : ∀ side : Side, (side.choose a b).failure? = none)
      (hread : ∀ side : Side, (d.stream side).readCount = (side.choose a b).given.length)
      (hended : ∀ side, (d.stream side).EndsOnce) : Verdict a b (.ok buffer, d)
  | failed {side : Side} {cause d} (hcause : (side.choose a b).failure? = some cause)
      (hended : ∀ side, (d.stream side).EndsOnce) :
      Verdict a b (.error (.capture ((side.choose a b).given.length +
        (d.stream (Drain.other side)).readCount) cause), d)

theorem Verdict.ended {result : Except ExecError Bytes × Drain} (h : Verdict a b result)
    (side : Side) : (result.2.stream side).EndsOnce := by
  cases h <;> rename_i hended <;> exact hended side

/-- A drain that does not fail has read from each stream all that its reader yields. -/
theorem Verdict.read {result : Except ExecError Bytes × Drain} (h : Verdict a b result)
    {buffer : Bytes} (hok : result.1 = .ok buffer) (side : Side) :
    (result.2.stream side).readCount = (side.choose a b).yielded.length := by
  cases h with
  | delivered hsafe hread => rw [hread, Reader.given_of_failure_eq_none (hsafe side)]
  | failed => cases hok

theorem drain_ends (schedule : Schedule) : Verdict a b (m.drain a b schedule) := by
  have hrun := (Drain.tally_start a b).run m.chunkSize_pos schedule
  unfold drain
  revert hrun
  generalize Drain.run m.chunkSize m.chunkSize_pos schedule (.start a b) = result
  obtain ⟨cause | u, d⟩ := result
  · rintro ⟨side, hfailed⟩
    dsimp only
    rw [hfailed.counted]
    exact .failed hfailed.cause hfailed.ended
  · rintro ⟨htally, hover⟩
    -- A closed stream has nothing in prospect, so all of it has been read.
    have hnothing : ∀ side, (d.stream side).outlook = ([], none) :=
      fun side => Stream.outlook_of_closed (hover.closed side)
    refine .delivered (fun side => ?_) (fun side => ?_) htally.ended
    · exact (htally.failure side).trans (by rw [hnothing])
    · exact ((htally.given side).trans (by rw [hnothing]; rfl)).symm

/-- A drain that fails has met a failure of one of the streams. -/
theorem drain_error {schedule : Schedule} {e : ExecError}
    (h : (m.drain a b schedule).1 = .error e) :
    ∃ (side : Side) (cause : IoError), (side.choose a b).failure? = some cause ∧
      e = .capture ((side.choose a b).given.length +
        ((m.drain a b schedule).2.stream (Drain.other side)).readCount) cause := by
  have hends : Verdict a b (m.drain a b schedule) := drain_ends schedule
  revert hends h
  generalize m.drain a b schedule = result
  intro h hends
  cases hends with
  | delivered => cases h
  | @failed side cause d hcause =>
    cases h
    exact ⟨side, cause, hcause, rfl⟩

theorem drain_ok_iff (schedule : Schedule) :
    (∃ buffer, (m.drain a b schedule).1 = .ok buffer) ↔
      ∀ side : Side, (side.choose a b).failure? = none := by
  have hends : Verdict a b (m.drain a b schedule) := drain_ends schedule
  revert hends
  generalize m.drain a b schedule = result
  intro hends
  cases hends with
  | @delivered d buffer hsafe => exact iff_of_true ⟨buffer, rfl⟩ hsafe
  | @failed side cause d hcause =>
    refine iff_of_false nofun fun hsafe => ?_
    rw [hsafe side] at hcause
    cases hcause

/-- Whatever the schedule is, a drain comes to an end, and it succeeds if and only if neither reader has
a failure before its first end, where interruptions do not count. If it fails, then with the first
failure of one of the streams; the bytes that this stream gave before it, and those read from the
other one by then, are counted. A stream that has ended is left alone. -/
theorem drain_verdict (chunk : Nat) (a b : Reader) :
    let m := ofChunkSize chunk
    (∀ schedule more, a.weight + b.weight + 2 ≤ schedule.length →
      match (Drain.start a b).rounds m.chunkSize schedule with
      | .ok d => d.IsOver ∧ m.drain a b (schedule ++ more) = (.ok d.bytes, d)
      | .error (cause, d) =>
        m.drain a b (schedule ++ more) = (.error (.capture d.count cause), d)) ∧
    (∀ schedule, (∃ buffer, (m.drain a b schedule).1 = .ok buffer) ↔
      a.failure? = none ∧ b.failure? = none) ∧
    (∀ schedule e, (m.drain a b schedule).1 = .error e →
      ∃ (side : Side) (cause : IoError), (side.choose a b).failure? = some cause ∧
        e = .capture ((side.choose a b).given.length +
          ((m.drain a b schedule).2.stream (Drain.other side)).readCount) cause) ∧
    (∀ schedule side, ((m.drain a b schedule).2.stream side).EndsOnce ∧
      ∀ d : Drain, (d.stream side).isOpen = false →
        (d.run m.chunkSize m.chunkSize_pos schedule).2.stream side = d.stream side) ∧
    (∀ s : Stream, s.isOpen = true → (s.poll m.chunkSize).1 = .interrupted →
      (s.poll m.chunkSize).2.isOpen = true ∧ (s.poll m.chunkSize).2.outlook = s.outlook) ∧
    (∀ schedule schedule', (∃ buffer, (m.drain a b schedule).1 = .ok buffer) ↔
      ∃ buffer, (m.drain a.uninterrupted b.uninterrupted schedule').1 = .ok buffer) ∧
    (∀ schedule buffer, (m.drain a b schedule).1 = .ok buffer →
      Interleaving a.uninterrupted.yielded b.uninterrupted.yielded buffer ∧
        ∀ side : Side, ((m.drain a b schedule).2.stream side).readCount =
          (side.choose a b).uninterrupted.yielded.length) := by
  intro m
  have hiff (a b : Reader) (schedule : Schedule) :
      (∃ buffer, (m.drain a b schedule).1 = .ok buffer) ↔ a.failure? = none ∧ b.failure? = none := by
    rw [drain_ok_iff]
    exact ⟨fun h => ⟨h .a, h .b⟩, fun h side => by cases side; exacts [h.1, h.2]⟩
  refine ⟨?_, hiff a b, ?_, ?_, ?_, ?_, ?_⟩
  · intro schedule more hlength
    exact drain_rounds hlength more
  · intro schedule e h
    exact drain_error h
  · intro schedule side
    exact ⟨(drain_ends schedule).ended side, fun d hclosed => Drain.run_closed hclosed schedule⟩
  · intro s hopen h
    exact Stream.poll_interrupted m.chunkSize_pos hopen h
  · intro schedule schedule'
    rw [hiff, hiff, Reader.failure?, Reader.failure?, Reader.failure?, Reader.failure?,
      Reader.outlook_uninterrupted, Reader.outlook_uninterrupted]
  · intro schedule buffer h
    simp only [Reader.yielded_uninterrupted]
    exact ⟨drain_interleaving h, fun side => (drain_ends schedule).read h side⟩

/-- A reader that fails once its bytes `abc` are read, with an interruption among them. -/
def failingReader : Reader :=
  [.data (utf8 "ab"), .pending 1, .fail (.os 4), .data (utf8 "c"), .fail (.os 5), .data (utf8 "z")]

/-- How much has been read from the other stream by the time of a failure depends on the schedule, the
failure does not. -/
theorem drain_verdict_of_failing :
    let m := ofChunkSize 0
    let b : Reader := [.data (utf8 "ABC")]
    (m.drain failingReader b [.b, .a, .b]).1 = .error (.capture 6 (.os 5)) ∧
      (m.drain failingReader b []).1 = .error (.capture 4 (.os 5)) ∧
      (∃ (side : Side) (cause : IoError), (side.choose failingReader b).failure? = some cause ∧
        ExecError.capture 4 (.os 5) = .capture ((side.choose failingReader b).given.length +
          ((m.drain failingReader b []).2.stream (Drain.other side)).readCount) cause) ∧
      ∀ schedule, ¬∃ buffer, (m.drain failingReader b schedule).1 = .ok buffer := by
  intro m b
  obtain ⟨-, hok, herror, -⟩ := drain_verdict 0 failingReader b
  have hfails : (m.drain failingReader b []).1 = .error (.capture 4 (.os 5)) := by decide +kernel
  refine ⟨by decide +kernel, hfails, herror [] _ hfails, fun schedule hdelivered => ?_⟩
  have hsafe := ((hok schedule).mp hdelivered).1
  revert hsafe
  decide +kernel

end Multiplexer

end ScriptExec
