-- SUMMARY: Which bytes a drain delivers: an interleaving of what both readers give before their ends.
import ScriptExec.Multiplexer
import ScriptExec.Proofs.Interleaving

/-!
# What a drain delivers

A reader yields bytes until its first end, which is an empty piece or the end of the script
(`Reader.yielded`). Whatever a poll gives is taken from the front of what its stream has left
(`Stream.poll_remaining`), and goes to the end of the buffer. So at every moment the buffer is an
interleaving of what was taken from the two streams (`Drain.Accounts`), and of all they yield once both
are closed (`Multiplexer.drain_interleaving`).
-/

namespace ScriptExec

/-! ## One reader -/

namespace Reader

/-- All bytes a reader gives before its first end. -/
def yielded : Reader → Bytes
  | [] => []
  | .data [] :: _ => []
  | .data (b :: bytes) :: rest => b :: bytes ++ yielded rest
  | .pending _ :: rest => yielded rest
  | .fail _ :: rest => yielded rest

/-- A first end hides whatever comes after it. -/
theorem yielded_append_end (reader rest : Reader) :
    yielded (reader ++ .data [] :: rest) = yielded reader := by
  induction reader with
  | nil => rfl
  | cons event reader ih =>
    cases event with
    | data bytes =>
      cases bytes with
      | nil => rfl
      | cons b bytes => simp [yielded, ih]
    | pending polls => simpa [yielded] using ih
    | fail cause => simpa [yielded] using ih

theorem yielded_of_poll_none {chunk : Nat} {reader rest : Reader}
    (h : poll chunk reader = (none, rest)) : rest.yielded = reader.yielded := by
  induction reader with
  | nil => simp [poll] at h
  | cons event reader ih =>
    cases event with
    | data bytes => simp only [poll] at h; split at h <;> simp at h
    | pending polls =>
      cases polls with
      | zero => exact ih h
      | succ polls =>
        simp only [poll, Prod.mk.injEq, true_and] at h
        subst h
        rfl
    | fail cause => simp [poll] at h

theorem yielded_of_poll_error {chunk : Nat} {reader rest : Reader} {cause : IoError}
    (h : poll chunk reader = (some (.error cause), rest)) : rest.yielded = reader.yielded := by
  induction reader with
  | nil => simp [poll] at h
  | cons event reader ih =>
    cases event with
    | data bytes => simp only [poll] at h; split at h <;> simp at h
    | pending polls =>
      cases polls with
      | zero => exact ih h
      | succ polls => simp [poll] at h
    | fail cause =>
      simp only [poll, Prod.mk.injEq] at h
      rw [← h.2]
      rfl

theorem yielded_of_poll_end {chunk : Nat} (hchunk : 0 < chunk) {reader rest : Reader}
    (h : poll chunk reader = (some (.ok []), rest)) : reader.yielded = [] := by
  induction reader with
  | nil => rfl
  | cons event reader ih =>
    cases event with
    | data bytes =>
      cases bytes with
      | nil => rfl
      | cons b bytes =>
        -- A chunk has at least one byte, so the piece cannot be empty.
        obtain ⟨chunk, rfl⟩ := Nat.exists_eq_succ_of_ne_zero (Nat.ne_of_gt hchunk)
        simp only [poll] at h
        split at h <;> simp at h
    | pending polls =>
      cases polls with
      | zero => exact ih h
      | succ polls => simp [poll] at h
    | fail cause => simp [poll] at h

theorem yielded_of_poll_ok {chunk : Nat} {reader rest : Reader} {b : UInt8} {piece : Bytes}
    (h : poll chunk reader = (some (.ok (b :: piece)), rest)) :
    reader.yielded = b :: piece ++ rest.yielded := by
  induction reader with
  | nil => simp [poll] at h
  | cons event reader ih =>
    cases event with
    | data bytes =>
      simp only [poll] at h
      split at h
      · simp only [Prod.mk.injEq, Option.some.injEq, Except.ok.injEq] at h
        obtain ⟨rfl, rfl⟩ := h
        rfl
      · rename_i c more hdrop
        simp only [Prod.mk.injEq, Option.some.injEq, Except.ok.injEq] at h
        obtain ⟨htake, rfl⟩ := h
        have hbytes : bytes = b :: piece ++ c :: more := by
          rw [← htake, ← hdrop, List.take_append_drop]
        subst hbytes
        simp [yielded]
    | pending polls =>
      cases polls with
      | zero => exact ih h
      | succ polls => simp [poll] at h
    | fail cause => simp [poll] at h

end Reader

/-! ## One stream -/

/-- The bytes that come with an answer. -/
def Polled.given : Polled → Bytes
  | .bytes piece => piece
  | _ => []

namespace Stream

/-- The bytes a stream will still give. -/
def remaining (s : Stream) : Bytes :=
  if s.isOpen then s.reader.yielded else []

@[simp] theorem remaining_of_closed {s : Stream} (h : s.isOpen = false) : s.remaining = [] := by
  simp [remaining, h]

/-- A poll takes what it gives from the front of what is left, whatever its answer is. -/
theorem poll_remaining {chunk : Nat} (hchunk : 0 < chunk) {s : Stream} (hopen : s.isOpen = true) :
    (s.poll chunk).1.given ++ (s.poll chunk).2.remaining = s.remaining := by
  unfold poll
  split
  · rename_i reader hpoll
    simp [Polled.given, remaining, hopen, Reader.yielded_of_poll_none hpoll]
  · rename_i reader hpoll
    simp [Polled.given, remaining, hopen, Reader.yielded_of_poll_end hchunk hpoll]
  · rename_i piece reader hne hpoll
    cases piece with
    | nil => exact absurd rfl (hne ·)
    | cons b piece => simp [Polled.given, remaining, hopen, Reader.yielded_of_poll_ok hpoll]
  · rename_i cause reader hpoll
    have hkeep := Reader.yielded_of_poll_error hpoll
    split <;> simp [Polled.given, remaining, hopen, hkeep]

end Stream

/-! ## Two streams -/

namespace Drain

/-- The books of a drain: the buffer interleaves what was `taken` from the streams, and with what the
streams have left that is `all` they yield. -/
structure Accounts (all taken : Side → Bytes) (d : Drain) : Prop where
  interleaved : Interleaving (taken .a) (taken .b) d.bytes
  balanced : ∀ side, taken side ++ (d.stream side).remaining = all side
  counted : d.count = d.bytes.length

theorem accounts_start (a b : Reader) :
    Accounts (fun side => match side with | .a => a.yielded | .b => b.yielded) (fun _ => [])
      (start a b) where
  interleaved := .nil
  balanced side := by cases side <;> rfl
  counted := rfl

@[simp] theorem stream_setStream (d : Drain) (side : Side) (s : Stream) :
    (d.setStream side s).stream side = s := by
  cases side <;> rfl

@[simp] theorem stream_setStream_ne (d : Drain) {side side' : Side} (s : Stream) (h : side' ≠ side) :
    (d.setStream side s).stream side' = d.stream side' := by
  cases side <;> cases side' <;> first | rfl | exact absurd rfl h

@[simp] theorem stream_pieces (d : Drain) (pieces : List Bytes) (count : Nat) (side : Side) :
    ({ d with pieces, count } : Drain).stream side = d.stream side := by
  cases side <;> rfl

@[simp] theorem pieces_setStream (d : Drain) (side : Side) (s : Stream) :
    (d.setStream side s).pieces = d.pieces := by
  cases side <;> rfl

@[simp] theorem count_setStream (d : Drain) (side : Side) (s : Stream) :
    (d.setStream side s).count = d.count := by
  cases side <;> rfl

/-- What a stream gives is entered on both sides of the books. -/
theorem Accounts.enter {all taken : Side → Bytes} {d d' : Drain} (h : Accounts all taken d)
    (side : Side) (piece : Bytes)
    (hgiven : piece ++ (d'.stream side).remaining = (d.stream side).remaining)
    (hother : ∀ side', side' ≠ side → d'.stream side' = d.stream side')
    (hbytes : d'.bytes = d.bytes ++ piece) (hcount : d'.count = d.count + piece.length) :
    Accounts all (Function.update taken side (taken side ++ piece)) d' where
  interleaved := by
    rw [hbytes]
    cases side with
    | a => simpa using h.interleaved.append_left piece
    | b => simpa using h.interleaved.append_right piece
  balanced side' := by
    by_cases hside : side' = side
    · subst hside
      rw [Function.update_self, List.append_assoc, hgiven]
      exact h.balanced side'
    · rw [Function.update_of_ne hside, hother side' hside]
      exact h.balanced side'
  counted := by rw [hcount, hbytes, h.counted, List.length_append]

/-- The books stay right when a stream is asked, whatever it answers. -/
theorem Accounts.ask {all taken : Side → Bytes} {d : Drain} (h : Accounts all taken d) {chunk : Nat}
    (hchunk : 0 < chunk) (side : Side) : ∃ taken', Accounts all taken' (d.ask chunk side).drain := by
  by_cases hopen : (d.stream side).isOpen = true
  · have hpoll := Stream.poll_remaining hchunk hopen
    simp only [Drain.ask, hopen, if_true]
    revert hpoll
    generalize (d.stream side).poll chunk = answer
    obtain ⟨polled, s⟩ := answer
    intro hpoll
    refine ⟨_, h.enter side polled.given ?_ ?_ ?_ ?_⟩
    · cases polled <;> simpa [Asked.drain] using hpoll
    · intro side' hside
      cases polled <;> simp [Asked.drain, hside]
    · cases polled <;> simp [Asked.drain, Polled.given, bytes]
    · cases polled <;> simp [Asked.drain, Polled.given]
  · rw [ask_of_closed (by simpa using hopen)]
    exact ⟨taken, h⟩

/-- The drain after a round, whether it goes on or not. -/
def afterRound : Except (IoError × Drain) Drain → Drain
  | .ok d | .error (_, d) => d

theorem Accounts.round {all taken : Side → Bytes} {d : Drain} (h : Accounts all taken d)
    {chunk : Nat} (hchunk : 0 < chunk) (first : Side) :
    ∃ taken', Accounts all taken' (afterRound (d.round chunk first)) := by
  have hfirst := h.ask hchunk first
  revert hfirst
  unfold Drain.round
  cases d.ask chunk first with
  | progress d₁ => exact id
  | failed cause d₁ => exact id
  | nothing d₁ =>
    rintro ⟨taken₁, h₁⟩
    have hsecond : ∃ taken', Accounts all taken' (d₁.ask chunk (other first)).drain :=
      Accounts.ask h₁ hchunk (other first)
    dsimp only
    revert hsecond
    cases d₁.ask chunk (other first) <;> exact id

/-- The books are right after any number of rounds, and both streams are closed if none failed. -/
theorem Accounts.run {all taken : Side → Bytes} {d : Drain} (h : Accounts all taken d) {chunk : Nat}
    (hchunk : 0 < chunk) (schedule : Schedule) :
    (∃ taken', Accounts all taken' (d.run chunk hchunk schedule).2) ∧
      ((d.run chunk hchunk schedule).1 = .ok () →
        ∀ side, ((d.run chunk hchunk schedule).2.stream side).isOpen = false) := by
  fun_induction Drain.run chunk hchunk schedule d generalizing taken with
  | case1 schedule d hopen d' hround ih =>
    obtain ⟨taken', h'⟩ := h.round hchunk (schedule.headD .a)
    rw [hround] at h'
    exact ih h'
  | case2 schedule d hopen cause d' hround =>
    have h' := h.round hchunk (schedule.headD .a)
    rw [hround] at h'
    exact ⟨h', fun hok => by cases hok⟩
  | case3 schedule d hclosed =>
    refine ⟨⟨taken, h⟩, fun _ side => ?_⟩
    simp only [not_or, Bool.not_eq_true] at hclosed
    cases side with
    | a => exact hclosed.1
    | b => exact hclosed.2

end Drain

namespace Multiplexer

/-- A drain that does not fail has delivered all that both readers yield. -/
theorem drain_interleaving {m : Multiplexer} {a b : Reader} {schedule : Schedule} {buffer : Bytes}
    (h : (m.drain a b schedule).1 = .ok buffer) : Interleaving a.yielded b.yielded buffer := by
  have hrun := (Drain.accounts_start a b).run m.chunkSize_pos schedule
  unfold drain at h
  revert hrun h
  generalize Drain.run m.chunkSize m.chunkSize_pos schedule (.start a b) = result
  obtain ⟨end_, d⟩ := result
  rintro h ⟨⟨taken, haccounts⟩, hclosed⟩
  cases end_ with
  | error cause => simp at h
  | ok _ =>
    simp only [Except.ok.injEq] at h
    have hall : ∀ side, taken side = match side with | .a => a.yielded | .b => b.yielded := by
      intro side
      have hbalance := haccounts.balanced side
      rwa [Stream.remaining_of_closed (hclosed rfl side), List.append_nil] at hbalance
    have hinterleaved := haccounts.interleaved
    rw [hall .a, hall .b, h] at hinterleaved
    exact hinterleaved

end Multiplexer

end ScriptExec
