-- SUMMARY: Draining two byte streams into one buffer, in the order in which they become ready.
import ScriptExec.Bytes
import ScriptExec.ExecError

/-!
# Stream multiplexer

Two readers are drained together. In each round the readers that are still open are asked in turn,
and the first one that is ready gives up to a chunk of bytes, which go to the end of the common
buffer. A read of nothing ends a stream, an interrupted read is tried again, and any other failure
ends the drain. Which reader is asked first is decided from outside, round by round.

Every poll of an open stream lowers its weight (`Stream.poll_weight_lt`), so a drain of finite readers
ends whatever the order.
-/

namespace ScriptExec

/-- What a reader does next when it is asked for bytes. -/
inductive ReadEvent
  /-- Gives these bytes, in as many reads as they take. -/
  | data (bytes : Bytes)
  /-- Is not ready so many times. -/
  | pending (polls : Nat)
  | fail (cause : IoError)
  deriving DecidableEq, Repr

/-- What a reader does, in order; after that it is at its end. -/
abbrev Reader := List ReadEvent

namespace Reader

/-- How much a reader can still do. -/
def weight : Reader → Nat
  | [] => 0
  | .data bytes :: rest => bytes.length + 1 + weight rest
  | .pending polls :: rest => polls + 1 + weight rest
  | .fail _ :: rest => 1 + weight rest

/-- Asks a reader for up to `chunk` bytes: `none` if it is not ready. -/
def poll (chunk : Nat) : Reader → Option (Except IoError Bytes) × Reader
  | [] => (some (.ok []), [])
  | .data bytes :: rest =>
    match bytes.drop chunk with
    | [] => (some (.ok bytes), rest)
    | b :: more => (some (.ok (bytes.take chunk)), .data (b :: more) :: rest)
  | .pending 0 :: rest => poll chunk rest
  | .pending (polls + 1) :: rest => (none, .pending polls :: rest)
  | .fail cause :: rest => (some (.error cause), rest)

theorem poll_weight_le (chunk : Nat) (reader : Reader) :
    weight (poll chunk reader).2 ≤ weight reader := by
  induction reader with
  | nil => simp [poll]
  | cons event rest ih =>
    cases event with
    | data bytes =>
      simp only [poll]
      split
      · simp [weight]
      · rename_i b more h
        have hlen := congrArg List.length h
        simp at hlen
        simp only [weight, List.length_cons]
        omega
    | pending polls =>
      cases polls with
      | zero => simp only [poll, weight]; omega
      | succ polls => simp only [poll, weight]; omega
    | fail cause => simp [poll, weight]

theorem poll_weight_lt {chunk : Nat} (hchunk : 0 < chunk) {reader : Reader} (h : reader ≠ []) :
    weight (poll chunk reader).2 < weight reader := by
  cases reader with
  | nil => exact absurd rfl h
  | cons event rest =>
    cases event with
    | data bytes =>
      simp only [poll]
      split
      · simp only [weight]; omega
      · rename_i b more h
        have hlen := congrArg List.length h
        simp at hlen
        simp only [weight, List.length_cons]
        omega
    | pending polls =>
      have hle := poll_weight_le chunk rest
      cases polls with
      | zero => simp only [poll, weight]; omega
      | succ polls => simp only [poll, weight]; omega
    | fail cause => simp only [poll, weight]; omega

end Reader

/-! ## One stream -/

/-- A reader, whether it may still give bytes, and the sizes of its completed reads, newest first;
`none` stands for a read that failed. -/
structure Stream where
  reader : Reader
  isOpen : Bool := true
  reads : List (Option Nat) := []
  deriving Repr, Inhabited

/-- The answer of a stream to one poll. -/
inductive Polled
  | notReady
  | bytes (piece : Bytes)
  | finished
  | interrupted
  | failed (cause : IoError)
  deriving Repr

namespace Stream

/-- How much a stream can still do. -/
def weight (s : Stream) : Nat :=
  if s.isOpen then s.reader.weight + 1 else 0

/-- Asks an open stream for up to `chunk` bytes. -/
def poll (chunk : Nat) (s : Stream) : Polled × Stream :=
  match s.reader.poll chunk with
  | (none, reader) => (.notReady, { s with reader })
  | (some (.ok []), reader) =>
    (.finished, { reader, isOpen := false, reads := some 0 :: s.reads })
  | (some (.ok piece), reader) => (.bytes piece, { s with reader, reads := some piece.length :: s.reads })
  | (some (.error cause), reader) =>
    (if cause.isInterrupted then .interrupted else .failed cause,
      { s with reader, reads := none :: s.reads })

theorem poll_weight_lt {chunk : Nat} (hchunk : 0 < chunk) {s : Stream} (hopen : s.isOpen = true) :
    (s.poll chunk).2.weight < s.weight := by
  by_cases hr : s.reader = []
  · simp [poll, weight, hr, Reader.poll, hopen]
  · have hlt := Reader.poll_weight_lt hchunk hr
    simp only [poll]
    split <;> simp_all [weight]

end Stream

/-! ## Two streams -/

/-- The two streams of a drain. -/
inductive Side
  | a
  | b
  deriving DecidableEq, Repr, Inhabited

/-- Which stream is asked first, round by round; after the list it is always the first. -/
abbrev Schedule := List Side

/-- A drain under way. -/
structure Drain where
  a : Stream
  b : Stream
  /-- The pieces read so far, newest first. -/
  pieces : List Bytes := []
  /-- The number of bytes in `pieces`. -/
  count : Nat := 0
  deriving Repr, Inhabited

namespace Drain

/-- A drain of two readers that has not started. -/
def start (a b : Reader) : Drain :=
  { a := { reader := a }, b := { reader := b } }

def weight (d : Drain) : Nat :=
  d.a.weight + d.b.weight

def stream (d : Drain) : Side → Stream
  | .a => d.a
  | .b => d.b

def setStream (d : Drain) (side : Side) (s : Stream) : Drain :=
  match side with
  | .a => { d with a := s }
  | .b => { d with b := s }

/-- What asking one stream leads to. -/
inductive Asked
  /-- The stream is closed or not ready. -/
  | nothing (d : Drain)
  /-- A read was completed. -/
  | progress (d : Drain)
  | failed (cause : IoError) (d : Drain)

/-- Asks one stream, if it is open, and takes what it gives. -/
def ask (chunk : Nat) (side : Side) (d : Drain) : Asked :=
  if (d.stream side).isOpen then
    let (polled, s) := (d.stream side).poll chunk
    let d := d.setStream side s
    match polled with
    | .notReady => .nothing d
    | .bytes piece =>
      .progress { d with pieces := piece :: d.pieces, count := d.count + piece.length }
    | .finished | .interrupted => .progress d
    | .failed cause => .failed cause d
  else
    .nothing d

/-- The drain after asking. -/
def Asked.drain : Asked → Drain
  | .nothing d | .progress d | .failed _ d => d

def other : Side → Side
  | .a => .b
  | .b => .a

/-- One round: the stream that comes first is asked, and the other one if that gave nothing. -/
def round (chunk : Nat) (first : Side) (d : Drain) : Except (IoError × Drain) Drain :=
  match d.ask chunk first with
  | .progress d => .ok d
  | .failed cause d => .error (cause, d)
  | .nothing d =>
    match d.ask chunk (other first) with
    | .progress d | .nothing d => .ok d
    | .failed cause d => .error (cause, d)

theorem weight_setStream (d : Drain) (side : Side) (s : Stream) :
    (d.setStream side s).weight + (d.stream side).weight = d.weight + s.weight := by
  cases side <;> simp [setStream, stream, weight] <;> omega

theorem ask_drain_weight_le {chunk : Nat} (hchunk : 0 < chunk) (side : Side) (d : Drain) :
    (d.ask chunk side).drain.weight ≤ d.weight := by
  unfold ask
  split
  · rename_i hopen
    have hlt := Stream.poll_weight_lt hchunk hopen
    have hset := weight_setStream d side ((d.stream side).poll chunk).2
    simp only
    split <;> simp only [Asked.drain, weight] at * <;> omega
  · simp [Asked.drain]

theorem ask_drain_weight_lt {chunk : Nat} (hchunk : 0 < chunk) (side : Side) (d : Drain)
    (hopen : (d.stream side).isOpen = true) : (d.ask chunk side).drain.weight < d.weight := by
  have hlt := Stream.poll_weight_lt hchunk hopen
  have hset := weight_setStream d side ((d.stream side).poll chunk).2
  simp only [ask, hopen, if_true]
  split <;> simp only [Asked.drain, weight] at * <;> omega

theorem ask_of_closed {chunk : Nat} {side : Side} {d : Drain}
    (hclosed : (d.stream side).isOpen = false) : d.ask chunk side = .nothing d := by
  simp [ask, hclosed]

theorem round_weight_lt {chunk : Nat} (hchunk : 0 < chunk) {first : Side} {d d' : Drain}
    (hopen : (d.stream first).isOpen = true ∨ (d.stream (other first)).isOpen = true)
    (h : d.round chunk first = .ok d') : d'.weight < d.weight := by
  by_cases hfirst : (d.stream first).isOpen = true
  · have hlt := ask_drain_weight_lt hchunk first d hfirst
    revert h hlt
    unfold round
    cases d.ask chunk first with
    | progress d₁ => intro h hlt; cases h; exact hlt
    | failed cause d₁ => intro h; cases h
    | nothing d₁ =>
      intro h hlt
      have hle := ask_drain_weight_le hchunk (other first) d₁
      dsimp only at h
      revert h hle
      cases d₁.ask chunk (other first) <;> intro h hle <;> cases h <;>
        simp only [Asked.drain] at * <;> omega
  · have hother : (d.stream (other first)).isOpen = true := by
      rcases hopen with h | h
      · exact absurd h hfirst
      · exact h
    have hlt := ask_drain_weight_lt hchunk (other first) d hother
    have hfirst' : (d.stream first).isOpen = false := by simpa using hfirst
    revert h hlt
    simp only [round, ask_of_closed hfirst']
    cases d.ask chunk (other first) <;> intro h hlt <;> cases h <;>
      simp only [Asked.drain] at * <;> omega

/-- Rounds until both streams are closed or one of them fails. -/
def run (chunk : Nat) (hchunk : 0 < chunk) (schedule : Schedule) (d : Drain) :
    Except IoError Unit × Drain :=
  if _hopen : d.a.isOpen = true ∨ d.b.isOpen = true then
    match _h : d.round chunk (schedule.headD .a) with
    | .ok d' => run chunk hchunk schedule.tail d'
    | .error (cause, d') => (.error cause, d')
  else
    (.ok (), d)
termination_by d.weight
decreasing_by
  refine round_weight_lt hchunk ?_ _h
  cases schedule.headD .a
  · exact _hopen
  · exact _hopen.symm

/-- The bytes read so far, in the order of the reads. -/
def bytes (d : Drain) : Bytes :=
  d.pieces.reverse.flatten

end Drain

/-- Drains two readers with reads of bounded size. -/
structure Multiplexer where
  chunkSize : Nat
  chunkSize_pos : 0 < chunkSize := by decide
  deriving Repr

namespace Multiplexer

/-- The chunk size when none is asked for. -/
def defaultChunkSize : Nat := 8192

/-- A read of no bytes would look like the end of a stream, so a chunk has at least one. -/
def ofChunkSize (chunk : Nat) : Multiplexer :=
  { chunkSize := max chunk 1, chunkSize_pos := Nat.lt_of_lt_of_le Nat.one_pos (Nat.le_max_right ..) }

instance : Inhabited Multiplexer := ⟨ofChunkSize defaultChunkSize⟩

/-- Drains both readers to their ends: the bytes of both, or the failure and how many bytes had been
read. The finished drain tells the sizes of the reads. -/
def drain (m : Multiplexer) (a b : Reader) (schedule : Schedule) :
    Except ExecError Bytes × Drain :=
  match Drain.run m.chunkSize m.chunkSize_pos schedule (.start a b) with
  | (.ok (), d) => (.ok d.bytes, d)
  | (.error cause, d) => (.error (.capture d.count cause), d)

end Multiplexer

end ScriptExec
