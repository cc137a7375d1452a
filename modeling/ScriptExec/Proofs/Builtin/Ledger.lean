-- SUMMARY: What calls and their answers tell of a file that is written through handles.
import ScriptExec.Proofs.Builtin.Contexts
import ScriptExec.Proofs.Strokes

/-!
# The ledger of a file

From the calls of a session and what came of them one can tell the content of the file they are about: which
handles there are, where each of them writes, and what has been written since the file was last emptied
(`Ledger.note`).
-/

namespace ScriptExec

/-- How a handle writes. -/
inductive Manner
  /-- At a position of its own, which moves along with what it writes. -/
  | cursor
  | atEnd
  | never
  deriving DecidableEq, Repr

/-- How a handle writes that was opened in a mode. -/
def Manner.ofMode (mode : String) : Manner :=
  match mode with
  | "w" | "w+" => .cursor
  | "a" | "a+" => .atEnd
  | _ => .never

/-- A handle to the file: who has it, the mode in which it was opened, and where it writes next if it has a position
of its own. -/
structure Pen where
  context : Nat
  handle : Nat
  mode : String
  position : Nat := 0
  deriving DecidableEq, Repr

/-- Whether a call is given a handle by the one who has it. -/
def Pen.isHeld (builtin : Builtin) (call : Invocation) (pen : Pen) : Bool :=
  pen.context == call.context && (pen.handle : Int) == (builtin.handle call.args).toInt

/-- What is known of a file: whether there is one, what has been in it since it was last emptied, what was written
since then, the newest first, and the handles to it. -/
structure Ledger where
  made : Bool
  base : Bytes
  strokes : List Stroke := []
  pens : List Pen := []
  deriving Repr

/-- A call, whether the host has opened a file for it, and its answer. -/
structure Entry where
  call : Invocation
  opens : Bool
  answer : Option Value

namespace Ledger

/-- A file without handles, or no file. -/
def start (content : Option Bytes) : Ledger :=
  { made := content.isSome, base := content.getD [] }

/-- The content of the file: each byte is that of the last write that covers it. -/
def content? (l : Ledger) : Option Bytes :=
  if l.made then some (Stroke.drawn l.base l.strokes) else none

/-- Opening makes the file in the modes that can write, and empties it in one of them. -/
def opened (l : Ledger) (mode : String) : Ledger :=
  match mode with
  | "w+" => { l with made := true, base := [], strokes := [] }
  | "w" | "a" | "a+" => if l.made then l else { l with made := true, base := [], strokes := [] }
  | _ => l

/-- Writing puts data where the handle writes. -/
def written (l : Ledger) (pen : Pen) (data : Bytes) : Ledger :=
  if data.isEmpty then l
  else
    match Manner.ofMode pen.mode with
    | .cursor => { l with strokes := ⟨pen.position, data⟩ :: l.strokes }
    | .atEnd => { l with strokes := ⟨Stroke.reach l.base l.strokes, data⟩ :: l.strokes }
    | .never => l

/-- Moves the positions of some handles. -/
def moved (l : Ledger) (isMoved : Pen → Bool) (move : Nat → Nat) : Ledger :=
  { l with
    pens := l.pens.map fun pen => if isMoved pen then { pen with position := move pen.position } else pen }

/-- What is noted of a call. A file that the host has opened may have been closed again without a handle. -/
def note (l : Ledger) (entry : Entry) : Ledger :=
  match Builtin.ofName? entry.call.name, entry.answer with
  | some .fileOpen, answer =>
    if entry.opens then
      let mode := (entry.call.args.textByName? "mode").getD ""
      match answer with
      | some (.int n) => { l.opened mode with pens := ⟨entry.call.context, n.toInt.toNat, mode, 0⟩ :: l.pens }
      | _ => l.opened mode
    else l
  | some .fileClose, some _ => { l with pens := l.pens.filter fun pen => !pen.isHeld .fileClose entry.call }
  | some .fileSeek, some _ =>
    l.moved (Pen.isHeld .fileSeek entry.call) fun _ => (entry.call.args.intByName "offset" 0).toInt.toNat
  | some .fileWrite, some _ =>
    match entry.call.args.bytesByName? "data", l.pens.find? (Pen.isHeld .fileWrite entry.call) with
    | some data, some pen =>
      (l.written pen data).moved (Pen.isHeld .fileWrite entry.call) fun position => position + data.length
    | _, _ => l
  | _, _ => l

/-- The data of a call that has written through a handle. -/
def dataOf (entry : Entry) : Bytes :=
  match Builtin.ofName? entry.call.name, entry.answer with
  | some .fileWrite, some _ => (entry.call.args.bytesByName? "data").getD []
  | _, _ => []

/-- What is noted of calls, one after the other. -/
def noteAll (l : Ledger) (transcript : List Entry) : Ledger :=
  transcript.foldl note l

/-- The files that are open under the handles, if the file has a number. -/
def openings (l : Ledger) (node : Host.NodeId) : List Opening :=
  l.pens.map fun pen => ⟨pen.context, pen.handle, (openOptions pen.mode).file node⟩

variable {l : Ledger} {call : Invocation} {entry : Entry} {builtin : Builtin} {pen : Pen} {data : Bytes}
variable {mode : String} {node : Host.NodeId}

/-! ## Modes -/

/-- A mode is one of the four that can write, or lets one read only. -/
theorem mode_cases (mode : String) : mode = "w" ∨ mode = "w+" ∨ mode = "a" ∨ mode = "a+" ∨
    openOptions mode = { read := true } ∧ Manner.ofMode mode = .never ∧ ∀ l, opened l mode = l := by
  by_cases hw : mode = "w"
  · exact .inl hw
  by_cases hempty : mode = "w+"
  · exact .inr (.inl hempty)
  by_cases ha : mode = "a"
  · exact .inr (.inr (.inl ha))
  by_cases hread : mode = "a+"
  · exact .inr (.inr (.inr (.inl hread)))
  · refine .inr (.inr (.inr (.inr ⟨?_, ?_, fun l => ?_⟩)))
    · simp [openOptions]
    · simp [Manner.ofMode]
    · simp [opened]

theorem file_of_cursor (h : Manner.ofMode mode = .cursor) (node : Host.NodeId) :
    (openOptions mode).file node =
      { node, readable := false, writable := true, append := false, offset := 0 } := by
  rcases mode_cases mode with rfl | rfl | rfl | rfl | ⟨-, hnever, -⟩
  · rfl
  · rfl
  · cases h
  · cases h
  · cases hnever.symm.trans h

theorem file_of_atEnd (h : Manner.ofMode mode = .atEnd) (node : Host.NodeId) :
    ((openOptions mode).file node).writable = true ∧ ((openOptions mode).file node).append = true := by
  rcases mode_cases mode with rfl | rfl | rfl | rfl | ⟨-, hnever, -⟩
  · cases h
  · cases h
  · exact ⟨rfl, rfl⟩
  · exact ⟨rfl, rfl⟩
  · cases hnever.symm.trans h

theorem file_of_never (h : Manner.ofMode mode = .never) (node : Host.NodeId) :
    ((openOptions mode).file node).writable = false := by
  rcases mode_cases mode with rfl | rfl | rfl | rfl | ⟨hread, -, -⟩
  · cases h
  · cases h
  · cases h
  · cases h
  · rw [hread]
    rfl

/-! ## What is noted -/

@[simp]
theorem pens_written (l : Ledger) (pen : Pen) (data : Bytes) : (l.written pen data).pens = l.pens := by
  unfold written
  split
  · rfl
  · split <;> rfl

@[simp]
theorem content?_start (content : Option Bytes) : (start content).content? = content := by
  cases content with
  | none => rfl
  | some text => exact congrArg some Stroke.drawn_nil

@[simp]
theorem pens_opened (l : Ledger) (mode : String) : (l.opened mode).pens = l.pens := by
  have hmade : (if l.made then l else { l with made := true, base := [], strokes := [] }).pens = l.pens := by
    split <;> rfl
  rcases mode_cases mode with rfl | rfl | rfl | rfl | ⟨-, -, hsame⟩
  · exact hmade
  · rfl
  · exact hmade
  · exact hmade
  · rw [hsame]

/-- What opening does to the content, by what the mode asks for. -/
theorem content?_opened (l : Ledger) (mode : String) : (l.opened mode).content? =
    if (openOptions mode).truncate then some []
    else if (openOptions mode).create then some (l.content?.getD []) else l.content? := by
  have hmade : (if l.made then l else { l with made := true, base := [], strokes := [] }).content? =
      some (l.content?.getD []) := by
    unfold content?
    cases hmade : l.made with
    | false => exact congrArg some Stroke.drawn_nil
    | true => exact if_pos hmade
  rcases mode_cases mode with rfl | rfl | rfl | rfl | ⟨hread, -, hsame⟩
  · exact hmade
  · exact congrArg some Stroke.drawn_nil
  · exact hmade
  · exact hmade
  · rw [hsame, hread]
    rfl

variable {text : Bytes}

theorem content?_eq_some : l.content? = some text ↔ l.made = true ∧ Stroke.drawn l.base l.strokes = text := by
  unfold content?
  cases l.made <;> simp

/-- What writing through a handle does to the content. -/
theorem content?_written (h : l.content? = some text) (pen : Pen) (data : Bytes) :
    (l.written pen data).content? = some (match Manner.ofMode pen.mode with
      | .cursor => if data = [] then text else Host.System.splice text pen.position data
      | .atEnd => text ++ data
      | .never => text) := by
  have hcontent := h
  obtain ⟨hmade, rfl⟩ := content?_eq_some.mp h
  unfold written
  by_cases hdata : data = []
  · subst hdata
    rw [if_pos List.isEmpty_nil, hcontent]
    cases Manner.ofMode pen.mode with
    | cursor => rfl
    | atEnd => exact congrArg some (List.append_nil _).symm
    | never => rfl
  · rw [if_neg (by simpa using hdata)]
    cases Manner.ofMode pen.mode with
    | cursor =>
      refine content?_eq_some.mpr ⟨hmade, ?_⟩
      rw [Stroke.drawn_cons hdata, if_neg hdata]
    | atEnd =>
      refine content?_eq_some.mpr ⟨hmade, ?_⟩
      rw [Stroke.drawn_cons hdata, ← Stroke.length_drawn, Stroke.splice_end]
    | never => exact h

theorem openings_opened (l : Ledger) (mode : String) : (l.opened mode).openings node = l.openings node := by
  unfold openings
  rw [pens_opened]

theorem openings_moved (l : Ledger) (isMoved : Pen → Bool) (move : Nat → Nat) :
    (l.moved isMoved move).openings node = l.openings node := by
  unfold openings moved
  rw [List.map_map]
  refine List.map_congr_left fun pen _ => ?_
  dsimp only [Function.comp]
  split <;> rfl

/-- A call for which no file was opened leaves the ledger alone if it has no answer. -/
theorem note_none (l : Ledger) (call : Invocation) : l.note ⟨call, false, none⟩ = l := by
  unfold note
  dsimp only
  split <;> first | rfl | cases ‹none = some _›

theorem dataOf_none (call : Invocation) (opens : Bool) : dataOf ⟨call, opens, none⟩ = [] := by
  unfold dataOf
  dsimp only
  split
  · cases ‹(none : Option Value) = some _›
  · rfl

theorem note_opens {d : Nat} (l : Ledger) (hname : Builtin.ofName? call.name = some .fileOpen) (hd : d < 2 ^ 31)
    (hmode : call.args.textByName? "mode" = some mode) :
    l.note ⟨call, true, some (.int (Int64.ofNat d))⟩ =
      { l.opened mode with pens := ⟨call.context, d, mode, 0⟩ :: l.pens } := by
  unfold note
  simp only [hname, Contexts.toNat_handle hd, hmode, Option.getD_some, if_true]

theorem note_opens_none (l : Ledger) (hname : Builtin.ofName? call.name = some .fileOpen)
    (hmode : call.args.textByName? "mode" = some mode) :
    l.note ⟨call, true, none⟩ = l.opened mode := by
  unfold note
  simp only [hname, hmode, Option.getD_some, if_true]

theorem pens_moved_written (l : Ledger) (pen : Pen) (data : Bytes) (isMoved : Pen → Bool) (move : Nat → Nat) :
    ((l.written pen data).moved isMoved move).pens = (l.moved isMoved move).pens := by
  unfold moved
  rw [pens_written]

theorem mem_pens_moved {isMoved : Pen → Bool} {move : Nat → Nat} (h : pen ∈ (l.moved isMoved move).pens) :
    ∃ old ∈ l.pens, pen = if isMoved old then { old with position := move old.position } else old := by
  obtain ⟨old, hold, rfl⟩ := List.mem_map.mp h
  exact ⟨old, hold, rfl⟩

/-- Only opening adds to the open files that are noted. -/
theorem openings_note {after : Contexts} (hopen : Builtin.ofName? entry.call.name ≠ some .fileOpen) :
    (l.note entry).openings node = Contexts.noted entry.call entry.answer after (l.openings node) := by
  unfold note Contexts.noted
  generalize Builtin.ofName? entry.call.name = name at hopen
  generalize entry.answer = answer
  rcases name with _ | builtin
  · rfl
  · cases answer with
    | none =>
      cases builtin with
      | fileOpen => exact absurd rfl hopen
      | _ => rfl
    | some v =>
      cases builtin with
      | fileOpen => exact absurd rfl hopen
      | fileClose =>
        unfold openings
        dsimp only
        rw [List.filter_map]
        rfl
      | fileSeek => exact openings_moved ..
      | fileWrite =>
        dsimp only
        split
        · rw [openings_moved]
          unfold openings
          rw [pens_written]
        · rfl
      | _ => rfl

theorem content?_opened_of_append (l : Ledger) (hmode : mode = "a" ∨ mode = "a+") :
    (l.opened mode).content?.getD [] = l.content?.getD [] := by
  rw [content?_opened]
  rcases hmode with rfl | rfl <;> rfl

theorem content?_written_of_atEnd (hmade : l.made = true) (hpen : Manner.ofMode pen.mode = .atEnd) (data : Bytes) :
    (l.written pen data).content?.getD [] = l.content?.getD [] ++ data := by
  have htext : l.content? = some (Stroke.drawn l.base l.strokes) := content?_eq_some.mpr ⟨hmade, rfl⟩
  have hcontent := content?_written htext pen data
  rw [hpen] at hcontent
  rw [hcontent, htext]
  rfl

/-- As long as all handles write at the end, what is written is put behind the content. -/
theorem note_of_atEnd (hpens : ∀ pen ∈ l.pens, Manner.ofMode pen.mode = .atEnd)
    (hmade : l.pens ≠ [] → l.made = true)
    (hopens : entry.call.name = "file_open" → entry.opens = true →
      ∃ mode, entry.call.args.textByName? "mode" = some mode ∧ (mode = "a" ∨ mode = "a+"))
    (hheld : entry.call.name = "file_write" → entry.answer ≠ none →
      ∃ pen ∈ l.pens, pen.isHeld .fileWrite entry.call = true) :
    (l.note entry).content?.getD [] = l.content?.getD [] ++ dataOf entry ∧
      ∀ pen ∈ (l.note entry).pens, Manner.ofMode pen.mode = .atEnd := by
  have hkeeps {l' : Ledger} (hcontent : l'.content?.getD [] = l.content?.getD [])
      (hpens' : ∀ pen ∈ l'.pens, Manner.ofMode pen.mode = .atEnd) :
      l'.content?.getD [] = l.content?.getD [] ++ [] ∧ ∀ pen ∈ l'.pens, Manner.ofMode pen.mode = .atEnd := by
    rw [hcontent, List.append_nil]
    exact ⟨rfl, hpens'⟩
  have hmoved (isMoved : Pen → Bool) (move : Nat → Nat) :
      ∀ pen ∈ (l.moved isMoved move).pens, Manner.ofMode pen.mode = .atEnd := by
    intro pen hpen
    obtain ⟨old, hold, rfl⟩ := mem_pens_moved hpen
    split <;> exact hpens old hold
  obtain ⟨call, opens, answer⟩ := entry
  unfold note dataOf
  dsimp only at hopens hheld ⊢
  cases hname : Builtin.ofName? call.name with
  | none => exact hkeeps rfl hpens
  | some builtin =>
    have hbuiltin := Builtins.eq_name_of_ofName? hname
    cases builtin with
    | fileOpen =>
      dsimp only
      cases opens with
      | false => exact hkeeps rfl hpens
      | true =>
        obtain ⟨mode, hmode, hends⟩ := hopens hbuiltin rfl
        have hcontent := content?_opened_of_append l hends
        have hpens' : ∀ pen ∈ (l.opened mode).pens, Manner.ofMode pen.mode = .atEnd := by
          rw [pens_opened]
          exact hpens
        rw [hmode, Option.getD_some, if_pos rfl]
        split
        · refine hkeeps hcontent fun pen hpen => ?_
          rcases List.mem_cons.mp hpen with rfl | hpen
          · rcases hends with rfl | rfl <;> rfl
          · exact hpens pen hpen
        · exact hkeeps hcontent hpens'
    | fileWrite =>
      cases answer with
      | none => exact hkeeps rfl hpens
      | some v =>
        cases hdata : call.args.bytesByName? "data" with
        | none => exact hkeeps rfl hpens
        | some data =>
          obtain ⟨pen, hpen, hthis⟩ := hheld hbuiltin (Option.some_ne_none v)
          obtain ⟨found, hfound⟩ := Option.isSome_iff_exists.mp (List.find?_isSome.mpr ⟨pen, hpen, hthis⟩)
          have hends := hpens found (List.mem_of_find?_eq_some hfound)
          dsimp only
          rw [hfound]
          refine ⟨content?_written_of_atEnd (hmade (List.ne_nil_of_mem hpen)) hends data, fun pen hpen => ?_⟩
          rw [pens_moved_written] at hpen
          exact hmoved _ _ pen hpen
    | fileClose =>
      cases answer with
      | none => exact hkeeps rfl hpens
      | some v => exact hkeeps rfl fun pen hpen => hpens pen (List.mem_of_mem_filter hpen)
    | fileSeek =>
      cases answer with
      | none => exact hkeeps rfl hpens
      | some v => exact hkeeps rfl (hmoved _ _)
    | _ => exact hkeeps rfl hpens

end Ledger

end ScriptExec
