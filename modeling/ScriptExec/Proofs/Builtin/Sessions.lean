-- SUMMARY: What calls through handles leave in the one file they are about.
import ScriptExec.Proofs.Builtin.Ledger
import ScriptExec.Proofs.Host.Contents

/-!
# Sessions on a file

Calls open a file, read, write and seek in it, and close it, through any number of handles of any contexts. What is
noted of the calls and of what came of them (`Ledger.note`) tells the content of the file at all times
(`Contexts.Keeps.invoke`), so at the end of a session as well (`Contexts.session_leaves_noted_content`).
-/

namespace ScriptExec

open Host

namespace Builtins

variable {args : CallArgs} {b : Builtins} {w : World}

/-- Whether the host opens a file for a call with some arguments. -/
def opensFile (args : CallArgs) (sys : System) : Bool :=
  match args.textByName? "name", args.textByName? "mode" with
  | some name, some mode => (sys.openFile (utf8 name) (openOptions mode) newFileMode).isOk
  | _, _ => false

/-- What comes of a call to open a file: nothing, or a file that is open; it is closed again if its status cannot be
had. -/
inductive Opens (args : CallArgs) (b : Builtins) (w : World) : Prop
  | nothing (hopens : opensFile args w.sys = false) (hvalue : (b.fileOpen args w).value = none)
      (hsys : (b.fileOpen args w).world.sys = w.sys)
  | closed {name mode d node tree} (hopens : opensFile args w.sys = true)
      (hname : args.textByName? "name" = some name) (hmode : args.textByName? "mode" = some mode)
      (hnode : w.sys.openNode (utf8 name) (openOptions mode) newFileMode = .ok (node, tree))
      (hfree : w.sys.file? d = none) (hvalue : (b.fileOpen args w).value = none)
      (hsys : (b.fileOpen args w).world.sys =
        { { w.sys with tree }.setFile d ((openOptions mode).file node) with
          statAnswers := w.sys.statAnswers.tail }.close d)
  | opened {name mode d node tree} (hopens : opensFile args w.sys = true)
      (hname : args.textByName? "name" = some name) (hmode : args.textByName? "mode" = some mode)
      (hnode : w.sys.openNode (utf8 name) (openOptions mode) newFileMode = .ok (node, tree))
      (hfree : w.sys.file? d = none) (hd : d < 2 ^ 31)
      (hvalue : (b.fileOpen args w).value = some (.int (Int64.ofNat d)))
      (hsys : (b.fileOpen args w).world.sys =
        { { w.sys with tree }.setFile d ((openOptions mode).file node) with
          statAnswers := w.sys.statAnswers.tail })

theorem fileOpen_opens (args : CallArgs) (b : Builtins) (hsys : w.sys.WellNumbered) : Opens args b w := by
  cases hname : args.textByName? "name" with
  | none =>
    refine .nothing ?_ ?_ ?_ <;> simp only [opensFile, fileOpen, hname]
    · rfl
    · exact fail_sys _
  | some name =>
    cases hmode : args.textByName? "mode" with
    | none =>
      refine .nothing ?_ ?_ ?_ <;> simp only [opensFile, fileOpen, hname, hmode]
      · rfl
      · exact fail_sys _
    | some mode =>
      cases hopen : w.sys.openFile (utf8 name) (openOptions mode) newFileMode with
      | error cause =>
        refine .nothing ?_ ?_ ?_ <;> simp only [opensFile, fileOpen, hname, hmode, hopen]
        · rfl
        · rfl
        · exact fail_sys _
      | ok opened =>
        obtain ⟨d, sys⟩ := opened
        obtain ⟨-, hlimit, hfree, node, tree, hnode, rfl⟩ := System.openFile_ok hsys hopen
        have hopens : opensFile args w.sys = true := by
          simp only [opensFile, hname, hmode, hopen]
          rfl
        cases hstat : w.sys.statAnswers.headD none with
        | some cause =>
          refine .closed hopens hname hmode hnode hfree ?_ ?_ <;>
            simp only [fileOpen, hname, hmode, hopen, System.statOpen, System.setFile, hstat]
          · rfl
          · exact fail_sys _
        | none =>
          refine .opened hopens hname hmode hnode hfree (Nat.lt_of_lt_of_le hlimit hsys.limit) ?_ ?_ <;>
            simp only [fileOpen, hname, hmode, hopen, System.statOpen, System.setFile, hstat] <;> rfl

end Builtins

namespace Contexts

variable {p p₀ : Contexts} {at_ : Place} {l : Ledger} {call : Invocation} {answer : Option Value}
variable {sys sys' : System} {b : Builtins} {builtin : Builtin} {d : Nat}

/-- A call, and what comes of it. -/
def entry (p : Contexts) (call : Invocation) : Entry where
  call := call
  opens := (p.all[call.context]?).isSome && decide (Builtin.ofName? call.name = some .fileOpen) &&
    Builtins.opensFile call.args p.world.sys
  answer := (p.invoke call).1

/-- The calls of a session, and what comes of each. -/
def transcript (p : Contexts) : List Invocation → List Entry
  | [] => []
  | call :: calls => p.entry call :: transcript (p.invoke call).2 calls

/-- The contexts after the calls of a session. -/
def after (p : Contexts) : List Invocation → Contexts
  | [] => p
  | call :: calls => after (p.invoke call).2 calls

/-- A session on the file at a place can start: nobody has a handle, there is a regular file or none, and no write will
fail. -/
structure Starts (p : Contexts) (at_ : Place) : Prop where
  fresh : p.Fresh
  closed : p.world.sys.tree.Closed
  cwd : p.world.sys.cwd < p.world.sys.tree.nodes.length
  ends : p.world.sys.tree.Ends at_
  regular : ∀ id, at_.node = some id →
    ∃ mode bytes, p.world.sys.tree.node? id = some ⟨mode, .regular bytes⟩
  writes : ∀ answer ∈ p.world.sys.writeAnswers, answer.Proceeds

/-- A call of a session: it opens the file, or it is given a handle. -/
structure OnFile (p : Contexts) (at_ : Place) (call : Invocation) : Prop where
  handles : ∃ builtin : Builtin, call.name = builtin.name ∧ (builtin = .fileOpen ∨ builtin.takesHandle = true)
  path : call.name = "file_open" → ∀ name, call.args.textByName? "name" = some name →
    p.world.sys.tree.LeadsTo p.world.sys.cwd at_ (utf8 name)

/-- The content of the file is as noted, and so is where each handle writes next. -/
structure Tracks (p₀ : Contexts) (at_ : Place) (l : Ledger) (sys : System) : Prop where
  cwd : sys.cwd = p₀.world.sys.cwd
  stores : p₀.world.sys.tree.Stores at_ l.content? sys.tree
  positions : ∀ pen ∈ l.pens, Manner.ofMode pen.mode = .cursor →
    ∃ file, sys.file? pen.handle = some file ∧ file.offset = pen.position
  made : l.pens ≠ [] → l.made = true
  writes : ∀ answer ∈ sys.writeAnswers, answer.Proceeds

/-- The state of a session: the handles are as noted, and so is the file. -/
structure Keeps (p₀ : Contexts) (at_ : Place) (p : Contexts) (l : Ledger) : Prop where
  accounts : p.Accounts (l.openings (p₀.world.sys.tree.fileNode at_))
  tracks : Tracks p₀ at_ l p.world.sys

/-! ## Handles -/

section

variable {node : NodeId} (h : p.Accounts (l.openings node)) (hb : p.all[call.context]? = some b)
  (hfound : b.table.find? (builtin.handle call.args) = some d)
include h hb hfound

theorem exists_pen : ∃ pen ∈ l.pens, pen.context = call.context ∧ pen.handle = d := by
  obtain ⟨-, hmem⟩ := HandleTable.find?_eq_some.mp hfound
  obtain ⟨e, he, hcontext, hhandle⟩ := (h.tables _ b hb d).mp hmem
  obtain ⟨pen, hpen, rfl⟩ := List.mem_map.mp he
  exact ⟨pen, hpen, hcontext, hhandle⟩

theorem isHeld_iff {pen : Pen} (hpen : pen ∈ l.pens) : pen.isHeld builtin call = true ↔ pen.handle = d := by
  obtain ⟨hhandle, -⟩ := HandleTable.find?_eq_some.mp hfound
  unfold Pen.isHeld
  rw [Bool.and_eq_true, beq_iff_eq, beq_iff_eq, hhandle, Int.natCast_inj]
  refine ⟨And.right, fun heq => ⟨?_, heq⟩⟩
  obtain ⟨own, hown, hcontext, howned⟩ := exists_pen h hb hfound
  have hsame := h.context_of_handle (List.mem_map_of_mem hpen) (List.mem_map_of_mem hown) (heq.trans howned.symm)
  exact (congrArg Opening.context hsame).trans hcontext

end

/-! ## Single calls -/

theorem Tracks.of_sys_eq (h : Tracks p₀ at_ l sys) (hsys : sys' = sys) : Tracks p₀ at_ l sys' :=
  hsys ▸ h

/-- Changing the position of an open file has to do with its own handle only. -/
theorem Tracks.setFile (h : Tracks p₀ at_ l sys) {file : OpenFile} {offset : Nat} {l' : Ledger}
    (hcontent : l'.content? = l.content?) (hmade : l'.pens ≠ [] → l'.made = true)
    (hpens : ∀ pen ∈ l'.pens, Manner.ofMode pen.mode = .cursor →
      if pen.handle = d then pen.position = offset else pen ∈ l.pens) :
    Tracks p₀ at_ l' (sys.setFile d { file with offset }) where
  cwd := h.cwd
  stores := by
    rw [hcontent]
    exact h.stores
  positions pen hpen hcursor := by
    have hposition := hpens pen hpen hcursor
    rw [System.file?_setFile]
    split at hposition
    · rename_i heq
      rw [if_pos heq]
      exact ⟨_, rfl, hposition.symm⟩
    · rename_i hne
      rw [if_neg hne]
      exact h.positions pen hposition hcursor
  made := hmade
  writes := h.writes

/-- Closing an open file only has to do with the handles to it. -/
theorem Tracks.close (h : Tracks p₀ at_ l sys) {l' : Ledger} (hcontent : l'.content? = l.content?)
    (hmade : l.made = true → l'.made = true) (hpens : ∀ pen ∈ l'.pens, pen ∈ l.pens ∧ pen.handle ≠ d) :
    Tracks p₀ at_ l' (sys.close d) where
  cwd := h.cwd
  stores := by
    rw [hcontent]
    exact h.stores
  positions pen hpen hcursor := by
    obtain ⟨hold, hne⟩ := hpens pen hpen
    rw [System.file?_close, if_neg hne]
    exact h.positions pen hold hcursor
  made hleft := by
    obtain ⟨pen, hpen⟩ := List.exists_mem_of_ne_nil _ hleft
    exact hmade (h.made (List.ne_nil_of_mem (hpens pen hpen).1))
  writes := h.writes

/-- A file that is opened is made or emptied as its mode says, and the new handle writes at its start. -/
theorem Tracks.opens (h : Tracks p₀ at_ l sys) (hstarts : Starts p₀ at_) {path : Path} {mode : String}
    {node : NodeId} {tree : FileTree} (hleads : p₀.world.sys.tree.LeadsTo p₀.world.sys.cwd at_ path)
    (hnode : sys.openNode path (openOptions mode) newFileMode = .ok (node, tree)) (hfree : sys.file? d = none)
    (context : Nat) :
    node = p₀.world.sys.tree.fileNode at_ ∧
      Tracks p₀ at_ { l.opened mode with pens := ⟨context, d, mode, 0⟩ :: l.pens }
        { { sys with tree }.setFile d ((openOptions mode).file node) with
          statAnswers := sys.statAnswers.tail } := by
  have hcwd := h.cwd
  obtain ⟨hid, hcreate, hstores⟩ := h.stores.openNode hstarts.closed (hcwd ▸ hstarts.cwd) hstarts.ends
    (hcwd ▸ hleads) hnode
  have hcontent : (l.opened mode).content? =
      some (if (openOptions mode).truncate then [] else l.content?.getD []) := by
    rw [Ledger.content?_opened]
    split
    · rfl
    · split
      · rfl
      · rename_i hnot
        cases hold : l.content? with
        | none => exact absurd (hcreate hold) hnot
        | some text => rfl
  refine ⟨hid, ⟨hcwd, ?_, ?_, fun _ => (Ledger.content?_eq_some.mp hcontent).1, h.writes⟩⟩
  · show p₀.world.sys.tree.Stores at_ (l.opened mode).content? tree
    rw [hcontent]
    exact hstores
  · intro pen hpen hcursor
    show ∃ file, ({ sys with tree }.setFile d ((openOptions mode).file node)).file? pen.handle = some file ∧ _
    rw [System.file?_setFile]
    rcases List.mem_cons.mp hpen with rfl | hpen
    · rw [if_pos rfl]
      exact ⟨_, rfl, rfl⟩
    · obtain ⟨file, hfile, hposition⟩ := h.positions pen hpen hcursor
      have hne : pen.handle ≠ d := by
        rintro heq
        rw [heq, hfree] at hfile
        cases hfile
      rw [if_neg hne]
      exact ⟨file, hfile, hposition⟩

section

variable (h : Tracks p₀ at_ l sys)
  (hfiles : ∀ pen ∈ l.pens, ∃ offset, sys.file? pen.handle =
    some { (openOptions pen.mode).file (p₀.world.sys.tree.fileNode at_) with offset })
include h hfiles

theorem Tracks.file_of_cursor {pen : Pen} (hpen : pen ∈ l.pens) (hcursor : Manner.ofMode pen.mode = .cursor) :
    sys.file? pen.handle =
      some { node := p₀.world.sys.tree.fileNode at_, readable := false, writable := true, append := false
             offset := pen.position } := by
  obtain ⟨offset, hfile⟩ := hfiles pen hpen
  obtain ⟨file, hfile', hposition⟩ := h.positions pen hpen hcursor
  rw [Ledger.file_of_cursor hcursor] at hfile
  rw [hfile] at hfile' ⊢
  cases hfile'
  rw [← hposition]

omit hfiles in
/-- Positions move along with the open file under a descriptor. -/
theorem Tracks.positions_moved {isHeld : Pen → Bool} (hheld : ∀ pen ∈ l.pens, isHeld pen = true ↔ pen.handle = d)
    {by_ : Nat} (hother : ∀ e, e ≠ d → sys'.file? e = sys.file? e)
    (hthis : ∀ pen ∈ l.pens, Manner.ofMode pen.mode = .cursor → pen.handle = d →
      ∃ file, sys'.file? d = some file ∧ file.offset = pen.position + by_)
    {pen : Pen} (hpen : pen ∈ (l.moved isHeld (· + by_)).pens) (hcursor : Manner.ofMode pen.mode = .cursor) :
    ∃ file, sys'.file? pen.handle = some file ∧ file.offset = pen.position := by
  obtain ⟨old, hold, rfl⟩ := Ledger.mem_pens_moved hpen
  by_cases hmoved : isHeld old = true
  · rw [if_pos hmoved] at hcursor ⊢
    have heq := (hheld old hold).mp hmoved
    rw [heq]
    exact hthis old hold hcursor heq
  · rw [if_neg hmoved] at hcursor ⊢
    rw [hother old.handle fun heq => hmoved ((hheld old hold).mpr heq)]
    exact h.positions old hold hcursor

/-- Nothing is written through a handle that is only for reading. -/
theorem Tracks.writeAll_of_never {pen : Pen} (hpen : pen ∈ l.pens) {isHeld : Pen → Bool}
    (hheld : ∀ other ∈ l.pens, isHeld other = true ↔ other.handle = pen.handle)
    (hnever : Manner.ofMode pen.mode = .never) (data : Bytes) :
    Tracks p₀ at_ ((l.written pen data).moved isHeld (· + data.length)) (sys.writeAll pen.handle data).2 := by
  obtain ⟨offset, hfile⟩ := hfiles pen hpen
  have hnot := Ledger.file_of_never hnever (p₀.world.sys.tree.fileNode at_)
  obtain ⟨text, htext⟩ : ∃ text, l.content? = some text :=
    ⟨_, Ledger.content?_eq_some.mpr ⟨h.made (List.ne_nil_of_mem hpen), rfl⟩⟩
  have hcontent := Ledger.content?_written htext pen data
  rw [hnever] at hcontent
  rw [System.writeAll_of_not_writable hfile hnot]
  refine ⟨h.cwd, ?_, fun other hother hcursor => ?_, fun _ => (Ledger.content?_eq_some.mp hcontent).1,
    h.writes⟩
  · show p₀.world.sys.tree.Stores at_ (l.written pen data).content? sys.tree
    rw [hcontent, ← htext]
    exact h.stores
  · rw [Ledger.pens_moved_written] at hother
    refine h.positions_moved hheld (fun _ _ => rfl) (fun other hother hcursor heq => ?_) hother hcursor
    -- no handle to the same open file has a position
    have hsame := h.file_of_cursor hfiles hother hcursor
    rw [heq, hfile] at hsame
    have hwritable : ((openOptions pen.mode).file (p₀.world.sys.tree.fileNode at_)).writable = true := by
      have hopen := Option.some.inj hsame
      exact congrArg OpenFile.writable hopen
    rw [hnot] at hwritable
    cases hwritable

/-- Where an open file writes is where its handle does. -/
theorem Tracks.content?_written {pen : Pen} {offset : Nat} (hpen : pen ∈ l.pens)
    (hfile : sys.file? pen.handle =
      some { (openOptions pen.mode).file (p₀.world.sys.tree.fileNode at_) with offset })
    (hmanner : Manner.ofMode pen.mode ≠ .never) {text : Bytes} (htext : l.content? = some text) (data : Bytes) :
    ((openOptions pen.mode).file (p₀.world.sys.tree.fileNode at_)).writable = true ∧
      (l.written pen data).content? = some (if data = [] then text else System.splice text
        (if ((openOptions pen.mode).file (p₀.world.sys.tree.fileNode at_)).append then text.length else offset)
        data) := by
  rw [Ledger.content?_written htext]
  cases hmode : Manner.ofMode pen.mode with
  | cursor =>
    have hcursor := h.file_of_cursor hfiles hpen hmode
    rw [Ledger.file_of_cursor hmode] at hfile ⊢
    rw [hfile] at hcursor
    cases hcursor
    exact ⟨rfl, rfl⟩
  | atEnd =>
    obtain ⟨hwritable, happend⟩ := Ledger.file_of_atEnd hmode (p₀.world.sys.tree.fileNode at_)
    refine ⟨hwritable, ?_⟩
    show some (text ++ data) = _
    rw [happend, if_pos rfl, Stroke.splice_end]
    split
    · rename_i hdata
      rw [hdata, List.append_nil]
    · rfl
  | never => exact absurd hmode hmanner

/-- Writing through any other handle puts data where the handle writes. -/
theorem Tracks.writeAll_of_writable {pen : Pen} (hpen : pen ∈ l.pens) {isHeld : Pen → Bool}
    (hheld : ∀ other ∈ l.pens, isHeld other = true ↔ other.handle = pen.handle)
    (hmanner : Manner.ofMode pen.mode ≠ .never) (data : Bytes) :
    Tracks p₀ at_ ((l.written pen data).moved isHeld (· + data.length)) (sys.writeAll pen.handle data).2 := by
  obtain ⟨offset, hfile⟩ := hfiles pen hpen
  obtain ⟨text, htext⟩ : ∃ text, l.content? = some text :=
    ⟨_, Ledger.content?_eq_some.mpr ⟨h.made (List.ne_nil_of_mem hpen), rfl⟩⟩
  have hstores := h.stores
  rw [htext] at hstores
  obtain ⟨perm, hnode⟩ := hstores.regular
  obtain ⟨hwritable, hcontent⟩ := h.content?_written hfiles hpen hfile hmanner htext data
  have hmade : (l.written pen data).made = true := (Ledger.content?_eq_some.mp hcontent).1
  obtain ⟨left, hleft, hsys⟩ := System.writeAll_of_proceeds
    (System.checkWrite_of_regular hfile hwritable hnode) h.writes data
  rw [hsys]
  by_cases hdata : data = []
  · subst hdata
    rw [if_pos rfl] at hcontent ⊢
    refine ⟨h.cwd, ?_, fun other hother hcursor => ?_, fun _ => hmade, hleft⟩
    · show p₀.world.sys.tree.Stores at_ (l.written pen []).content? sys.tree
      rw [hcontent]
      exact hstores
    · rw [Ledger.pens_moved_written] at hother
      refine h.positions_moved hheld (fun _ _ => rfl) (fun other hother hcursor heq => ?_) hother hcursor
      rw [← heq]
      exact h.positions other hother hcursor
  · rw [if_neg hdata] at hcontent ⊢
    rw [System.writeTo_eq hnode]
    refine ⟨h.cwd, ?_, fun other hother hcursor => ?_, fun _ => hmade, hleft⟩
    · show p₀.world.sys.tree.Stores at_ (l.written pen data).content? _
      rw [hcontent]
      exact hstores.setContent _
    · rw [Ledger.pens_moved_written] at hother
      refine h.positions_moved hheld (fun e hne => ?_) (fun other hother hcursor heq => ?_) hother hcursor
      · exact System.file?_setFile.trans (if_neg hne)
      · refine ⟨_, System.file?_setFile.trans (if_pos rfl), ?_⟩
        have hsame := h.file_of_cursor hfiles hother hcursor
        rw [heq, hfile] at hsame
        have hopen := Option.some.inj hsame
        have happend := congrArg OpenFile.append hopen
        have hoffset := congrArg OpenFile.offset hopen
        dsimp only at happend hoffset ⊢
        rw [happend, hoffset]
        rfl

theorem Tracks.serves (hheld : ∀ pen ∈ l.pens, pen.isHeld builtin call = true ↔ pen.handle = d)
    (hpen : ∃ pen ∈ l.pens, pen.handle = d) (hname : Builtin.ofName? call.name = some builtin)
    (hserves : Builtins.Serves call.args sys d builtin answer sys') :
    Tracks p₀ at_ (l.note ⟨call, false, answer⟩) sys' := by
  cases hserves with
  | close =>
    unfold Ledger.note
    rw [hname]
    refine h.close rfl id fun pen hpen => ?_
    obtain ⟨hpen, hnot⟩ := List.mem_filter.mp hpen
    exact ⟨hpen, fun heq => by simp [(hheld pen hpen).mpr heq] at hnot⟩
  | read hread =>
    obtain ⟨file, offset, hfile, hreadable, rfl⟩ := System.read_ok hread
    unfold Ledger.note
    rw [hname]
    refine h.setFile rfl h.made fun pen hpen hcursor => ?_
    split
    · rename_i heq
      rw [← heq, h.file_of_cursor hfiles hpen hcursor] at hfile
      cases hfile
      cases hreadable
    · exact hpen
  | unreadable =>
    unfold Ledger.note
    rw [hname]
    exact h
  | noData | unsought | badOffset =>
    rw [Ledger.note_none]
    exact h
  | @write data hdata =>
    obtain ⟨pen, hfound⟩ : ∃ pen, l.pens.find? (Pen.isHeld .fileWrite call) = some pen := by
      obtain ⟨pen, hpen, heq⟩ := hpen
      exact Option.isSome_iff_exists.mp (List.find?_isSome.mpr ⟨pen, hpen, (hheld pen hpen).mpr heq⟩)
    have hmem := List.mem_of_find?_eq_some hfound
    obtain rfl := (hheld pen hmem).mp (List.find?_some hfound)
    unfold Ledger.note
    rw [hname, hdata, hfound]
    by_cases hmanner : Manner.ofMode pen.mode = .never
    · exact h.writeAll_of_never hfiles hmem hheld hmanner data
    · exact h.writeAll_of_writable hfiles hmem hheld hmanner data
  | seek hoffset hseek =>
    obtain ⟨file, hfile, rfl⟩ := System.seek_ok hseek
    unfold Ledger.note
    rw [hname]
    refine h.setFile rfl (fun hleft => h.made fun hnil => hleft ?_) fun pen hpen hcursor => ?_
    · simp [Ledger.moved, hnil]
    · obtain ⟨old, hold, rfl⟩ := Ledger.mem_pens_moved hpen
      by_cases hthis : old.isHeld .fileSeek call = true
      · rw [if_pos hthis, if_pos ((hheld old hold).mp hthis)]
      · have hne : old.handle ≠ d := fun heq => hthis ((hheld old hold).mpr heq)
        rw [if_neg hthis, if_neg hne]
        exact hold

end

/-- No file is opened for a call that is not about opening one. -/
theorem entry_of_ne (h : Builtin.ofName? call.name ≠ some .fileOpen) :
    p.entry call = ⟨call, false, (p.invoke call).1⟩ := by
  unfold entry
  rw [decide_eq_false h, Bool.and_false, Bool.false_and]

theorem entry_of_fileOpen (hb : p.all[call.context]? = some b)
    (h : Builtin.ofName? call.name = some .fileOpen) :
    p.entry call = ⟨call, Builtins.opensFile call.args p.world.sys, (p.invoke call).1⟩ := by
  unfold entry
  rw [hb, decide_eq_true h]
  rfl

theorem exists_mode_of_opens (h : (p.entry call).opens = true) :
    ∃ mode, call.args.textByName? "mode" = some mode := by
  have hopens : Builtins.opensFile call.args p.world.sys = true := (Bool.and_eq_true_iff.mp h).2
  unfold Builtins.opensFile at hopens
  split at hopens
  · rename_i mode _ hmode
    exact ⟨mode, hmode⟩
  · cases hopens

theorem entry_of_no_context (h : p.all[call.context]? = none) : p.entry call = ⟨call, false, none⟩ := by
  unfold entry invoke
  rw [h]
  rfl

/-- A call to open the file is noted. -/
theorem Keeps.opens (h : Keeps p₀ at_ p l) (hstarts : Starts p₀ at_) (hb : p.all[call.context]? = some b)
    (hname : Builtin.ofName? call.name = some .fileOpen)
    (hpath : ∀ name, call.args.textByName? "name" = some name →
      p₀.world.sys.tree.LeadsTo p₀.world.sys.cwd at_ (utf8 name)) :
    Keeps p₀ at_ (p.invoke call).2 (l.note (p.entry call)) := by
  have haccounts := h.accounts.invoke call
  have hinvoke := invoke_of_context hb
  rw [Builtins.call_of_name hname] at hinvoke
  rw [entry_of_fileOpen hb hname]
  rw [hinvoke] at haccounts ⊢
  dsimp only at haccounts ⊢
  have hnumbered : (p.world.record Builtins.callRecord).sys.WellNumbered := h.accounts.numbered
  cases Builtins.fileOpen_opens call.args b hnumbered with
  | nothing hopens hvalue hsys =>
    have hnone : (Builtins.perform .fileOpen call.runtime call.args b
        (p.world.record Builtins.callRecord)).value = none := hvalue
    have hflag : Builtins.opensFile call.args p.world.sys = false := hopens
    rw [hnone] at haccounts ⊢
    rw [noted_eq_self fun _ _ _ => rfl] at haccounts
    rw [hflag, Ledger.note_none]
    exact ⟨haccounts, h.tracks.of_sys_eq hsys⟩
  | @closed name mode d node tree hopens hfile hmode hnode hfree hvalue hsys =>
    have hnone : (Builtins.perform .fileOpen call.runtime call.args b
        (p.world.record Builtins.callRecord)).value = none := hvalue
    have hflag : Builtins.opensFile call.args p.world.sys = true := hopens
    obtain ⟨rfl, htracks⟩ := h.tracks.opens hstarts (hpath name hfile) hnode hfree call.context
    rw [hnone] at haccounts ⊢
    rw [noted_eq_self fun _ _ _ => rfl] at haccounts
    rw [hflag, Ledger.note_opens_none l hname hmode]
    -- it has been opened, and closed again
    refine ⟨(Ledger.openings_opened l mode).symm ▸ haccounts, .of_sys_eq (htracks.close rfl id ?_) hsys⟩
    intro pen hpen
    rw [Ledger.pens_opened] at hpen
    refine ⟨List.mem_cons_of_mem _ hpen, ?_⟩
    rintro rfl
    obtain ⟨offset, hthere⟩ := h.accounts.files _ (List.mem_map_of_mem hpen)
    exact nomatch hfree.symm.trans hthere
  | @opened name mode d node tree hopens hfile hmode hnode hfree hd hvalue hsys =>
    have hsome : (Builtins.perform .fileOpen call.runtime call.args b
        (p.world.record Builtins.callRecord)).value = some (.int (Int64.ofNat d)) := hvalue
    have hflag : Builtins.opensFile call.args p.world.sys = true := hopens
    obtain ⟨rfl, htracks⟩ := h.tracks.opens hstarts (hpath name hfile) hnode hfree call.context
    rw [hsome] at haccounts ⊢
    have hthere : (Builtins.perform .fileOpen call.runtime call.args b
        (p.world.record Builtins.callRecord)).world.sys.file? d =
          some ((openOptions mode).file (p₀.world.sys.tree.fileNode at_)) := by
      have hopened := congrArg (fun sys => sys.file? d) hsys
      exact hopened.trans (System.file?_setFile.trans (if_pos rfl))
    rw [noted_opens hname hd rfl hthere] at haccounts
    rw [hflag, Ledger.note_opens l hname hd hmode]
    exact ⟨haccounts, htracks.of_sys_eq hsys⟩

/-- A call that is given a handle is noted. -/
theorem Keeps.serves (h : Keeps p₀ at_ p l) (hb : p.all[call.context]? = some b)
    (hname : Builtin.ofName? call.name = some builtin) (htakes : builtin.takesHandle = true) :
    Keeps p₀ at_ (p.invoke call).2 (l.note (p.entry call)) := by
  have hopen : Builtin.ofName? call.name ≠ some .fileOpen := by
    rw [hname]
    rintro ⟨⟩
    cases htakes
  have haccounts := h.accounts.invoke call
  have hinvoke := invoke_of_context hb
  rw [Builtins.call_of_name hname] at hinvoke
  rw [← @Ledger.openings_note l ⟨call, false, (p.invoke call).1⟩ _ _ hopen] at haccounts
  rw [entry_of_ne hopen]
  rw [hinvoke] at haccounts ⊢
  refine ⟨haccounts, ?_⟩
  cases hfound : b.table.find? (builtin.handle call.args) with
  | none =>
    obtain ⟨text, htext⟩ := @Builtins.perform_unknown _ call.runtime _ _
      (p.world.record Builtins.callRecord) htakes hfound
    rw [htext]
    show Tracks p₀ at_ (l.note ⟨call, false, none⟩) _
    rw [Ledger.note_none]
    exact h.tracks.of_sys_eq (Builtins.fail_sys text)
  | some d =>
    have hserves := @Builtins.perform_serves _ call.runtime _ _
      (p.world.record Builtins.callRecord) _ htakes hfound
    have hfiles : ∀ pen ∈ l.pens, ∃ offset, p.world.sys.file? pen.handle =
        some { (openOptions pen.mode).file (p₀.world.sys.tree.fileNode at_) with offset } :=
      fun pen hpen => h.accounts.files _ (List.mem_map_of_mem hpen)
    obtain ⟨pen, hpen, -, hhandle⟩ := exists_pen h.accounts hb hfound
    exact h.tracks.serves hfiles (fun pen hpen => isHeld_iff h.accounts hb hfound hpen)
      ⟨pen, hpen, hhandle⟩ hname hserves

/-- Every call of a session is noted. -/
theorem Keeps.invoke (h : Keeps p₀ at_ p l) (hstarts : Starts p₀ at_) (hcall : OnFile p₀ at_ call) :
    Keeps p₀ at_ (p.invoke call).2 (l.note (p.entry call)) := by
  obtain ⟨builtin, hname, hbuiltin⟩ := hcall.handles
  have hofName : Builtin.ofName? call.name = some builtin := hname ▸ Builtins.ofName?_name builtin
  cases hb : p.all[call.context]? with
  | none =>
    rw [entry_of_no_context hb, invoke_of_no_context hb, Ledger.note_none]
    exact h
  | some b =>
    rcases hbuiltin with rfl | htakes
    · exact h.opens hstarts hb hofName (hcall.path hname)
    · exact h.serves hb hofName htakes

/-- What is written through handles that all write at the end is put behind the content. -/
theorem Keeps.appends (h : Keeps p₀ at_ p l) (hpens : ∀ pen ∈ l.pens, Manner.ofMode pen.mode = .atEnd)
    (hmodes : call.name = "file_open" → ∀ mode, call.args.textByName? "mode" = some mode →
      mode = "a" ∨ mode = "a+") :
    (l.note (p.entry call)).content?.getD [] = l.content?.getD [] ++ Ledger.dataOf (p.entry call) ∧
      ∀ pen ∈ (l.note (p.entry call)).pens, Manner.ofMode pen.mode = .atEnd := by
  cases hb : p.all[call.context]? with
  | none =>
    rw [entry_of_no_context hb, Ledger.note_none, Ledger.dataOf_none, List.append_nil]
    exact ⟨rfl, hpens⟩
  | some b =>
    have hobeys := h.accounts.obeys hb
    refine Ledger.note_of_atEnd hpens h.tracks.made (fun hname hopens => ?_) fun hname hanswer => ?_
    · obtain ⟨mode, hmode⟩ := exists_mode_of_opens hopens
      exact ⟨mode, hmode, hmodes hname mode hmode⟩
    · by_contra hnone
      refine hanswer (hobeys.refuses .fileWrite rfl hname ?_).1
      rintro e he hcontext hhandle
      obtain ⟨pen, hpen, rfl⟩ := List.mem_map.mp he
      refine hnone ⟨pen, hpen, ?_⟩
      unfold Pen.isHeld
      rw [Bool.and_eq_true, beq_iff_eq, beq_iff_eq]
      exact ⟨hcontext, hhandle⟩

/-! ## Sessions -/

theorem Starts.keeps (h : Starts p at_) : Keeps p at_ p (.start (p.world.sys.tree.contentAt at_)) where
  accounts := h.fresh.accounts
  tracks := by
    refine ⟨rfl, ?_, nofun, fun hnone => absurd rfl hnone, h.writes⟩
    rw [Ledger.content?_start]
    cases hnode : at_.node with
    | none =>
      have hnone : p.world.sys.tree.contentAt at_ = none := by rw [FileTree.contentAt, hnode, Option.bind_none]
      rw [hnone]
      exact .missing hnode
    | some id =>
      obtain ⟨mode, bytes, hregular⟩ := h.regular id hnode
      have hcontent : p.world.sys.tree.contentAt at_ = some bytes := by
        rw [FileTree.contentAt, hnode, Option.bind_some, FileTree.bytes?, hregular]
        rfl
      have hnumber : p.world.sys.tree.fileNode at_ = id := by rw [FileTree.fileNode, hnode, Option.getD_some]
      rw [hcontent]
      refine .there ⟨fun _ _ => rfl, fun _ _ _ => rfl⟩ ?_ (hnumber ▸ hregular)
      rw [hnumber, ← h.ends.node, hnode]

theorem Keeps.after (h : Keeps p₀ at_ p l) (hstarts : Starts p₀ at_) {calls : List Invocation}
    (hcalls : ∀ call ∈ calls, OnFile p₀ at_ call) :
    Keeps p₀ at_ (p.after calls) (l.noteAll (p.transcript calls)) := by
  induction calls generalizing p l with
  | nil => exact h
  | cons call calls ih =>
    obtain ⟨hcall, hcalls⟩ := List.forall_mem_cons.mp hcalls
    exact ih (h.invoke hstarts hcall) hcalls

theorem Keeps.appends_after (h : Keeps p₀ at_ p l) (hstarts : Starts p₀ at_) {calls : List Invocation}
    (hcalls : ∀ call ∈ calls, OnFile p₀ at_ call) (hpens : ∀ pen ∈ l.pens, Manner.ofMode pen.mode = .atEnd)
    (hmodes : ∀ call ∈ calls, call.name = "file_open" → ∀ mode, call.args.textByName? "mode" = some mode →
      mode = "a" ∨ mode = "a+") :
    (l.noteAll (p.transcript calls)).content?.getD [] =
      l.content?.getD [] ++ (p.transcript calls).flatMap Ledger.dataOf := by
  induction calls generalizing p l with
  | nil => exact (List.append_nil _).symm
  | cons call calls ih =>
    obtain ⟨hcall, hcalls⟩ := List.forall_mem_cons.mp hcalls
    obtain ⟨hmode, hmodes⟩ := List.forall_mem_cons.mp hmodes
    obtain ⟨hcontent, hpens'⟩ := h.appends hpens hmode
    have hrest := ih (h.invoke hstarts hcall) hcalls hpens' hmodes
    calc ((l.note (p.entry call)).noteAll ((p.invoke call).2.transcript calls)).content?.getD []
      _ = (l.note (p.entry call)).content?.getD [] ++
            ((p.invoke call).2.transcript calls).flatMap Ledger.dataOf := hrest
      _ = l.content?.getD [] ++ (Ledger.dataOf (p.entry call) ++
            ((p.invoke call).2.transcript calls).flatMap Ledger.dataOf) := by
        rw [hcontent, List.append_assoc]

/-- The content of a file after a session is what its calls and what came of them tell: w+ empties the file, w and w+
write at the position of the handle, a and a+ at the end, other modes not at all, and each byte is that of the
last write that covers it. All paths still lead to the file. In append modes alone, what is written is put
behind the old content in the order of the calls. -/
theorem session_leaves_noted_content (p : Contexts) (at_ : Place) (calls : List Invocation)
    (hstarts : Starts p at_) (hcalls : ∀ call ∈ calls, OnFile p at_ call) :
    let old := p.world.sys.tree.contentAt at_
    let noted := (Ledger.start old).noteAll (p.transcript calls)
    let sys := (p.after calls).world.sys
    (sys.tree.child? at_.dir at_.name).bind sys.tree.bytes? = noted.content? ∧
      (∀ path, p.world.sys.tree.LeadsTo p.world.sys.cwd at_ path → ∃ place,
        sys.tree.locate sys.cwd true path = .ok place ∧ sys.tree.contentAt place = noted.content?) ∧
      ((∀ call ∈ calls, call.name = "file_open" → ∀ mode, call.args.textByName? "mode" = some mode →
          mode = "a" ∨ mode = "a+") →
        noted.content?.getD [] = old.getD [] ++ (p.transcript calls).flatMap Ledger.dataOf) := by
  intro old noted sys
  have hkeeps : Keeps p at_ (p.after calls) noted := hstarts.keeps.after hstarts hcalls
  have hstores := hkeeps.tracks.stores
  refine ⟨hstores.bytes_child hstarts.ends, fun path hleads => ?_, fun hmodes => ?_⟩
  · obtain ⟨place, hplace, hcontent⟩ := hstores.contentAt hstarts.closed hstarts.cwd hstarts.ends hleads
    refine ⟨place, ?_, hcontent⟩
    rw [show sys.cwd = p.world.sys.cwd from hkeeps.tracks.cwd]
    exact hplace
  · have happended := hstarts.keeps.appends_after hstarts hcalls nofun hmodes
    rw [Ledger.content?_start] at happended
    exact happended

/-! ## A session with two handles -/

/-- The contexts after one of them has opened a file. -/
def opened (p : Contexts) (context : Nat) (b : Builtins) (d : Nat) (sys : System) : Contexts :=
  { all := p.all.set context { b with table := b.table.insert d }
    world := { p.world.record Builtins.callRecord with sys }.record
      (.of .debug "builtins::handles" ["file", "mode", "handle"] "opened file") }

theorem invoke_opens (hb : p.all[call.context]? = some b) (hcall : call.name = "file_open") {name mode : String}
    (hname : call.args.textByName? "name" = some name) (hmode : call.args.textByName? "mode" = some mode)
    (hopen : p.world.sys.openFile (utf8 name) (openOptions mode) newFileMode = .ok (d, sys))
    (hstat : sys.statAnswers = []) :
    p.entry call = ⟨call, true, some (.int (Int64.ofNat d))⟩ ∧
      (p.invoke call).2 = p.opened call.context b d sys := by
  have hofName : Builtin.ofName? call.name = some .fileOpen := hcall ▸ Builtins.ofName?_name .fileOpen
  have hstatOpen : sys.statOpen = (none, sys) := by
    unfold System.statOpen
    rw [hstat]
    exact congrArg (fun answers => (none, { sys with statAnswers := answers })) hstat.symm
  have hopens : Builtins.opensFile call.args p.world.sys = true := by
    simp only [Builtins.opensFile, hname, hmode, hopen]
    rfl
  rw [entry_of_fileOpen hb hofName, hopens, invoke_of_context hb, Builtins.call_of_name hofName]
  simp only [Builtins.perform, Builtins.fileOpen, hname, hmode, World.record_sys, hopen, hstatOpen]
  exact ⟨rfl, rfl⟩

/-- A context in a directory with one file. -/
def withFile (text : Bytes) : Contexts :=
  { all := [{}]
    world :=
      { sys :=
          { tree := { nodes := [⟨0o755, .directory 0 [(utf8 "f", 1)] true⟩, ⟨0o644, .regular text⟩] }
            cwd := 0, env := [], descriptors := [], limit := 1024, nextPid := 2 } } }

/-- The calls of a context that opens the file, moves a position in it, and writes text to it. -/
def opens (mode : String) : Invocation :=
  { context := 0, name := "file_open", args := { named := [("mode", .str mode), ("name", .str "f")] } }

def seeks (handle offset : Int64) : Invocation :=
  { context := 0, name := "file_seek", args := { named := [("fp", .int handle), ("offset", .int offset)] } }

def writes (handle : Int64) (text : String) : Invocation :=
  { context := 0, name := "file_write", args := { named := [("data", .str text), ("fp", .int handle)] } }

/-- The system with the file open for writing, and then for appending too. -/
def openOnce (sys : System) : System :=
  { sys with descriptors := [(32, (openOptions "w").file 1)] }

def openTwice (sys : System) : System :=
  { sys with descriptors := [(32, (openOptions "w").file 1), (33, (openOptions "a").file 1)] }

/-- A write beyond the end leaves a gap of zeros, and a handle in append mode writes behind what the other one wrote. -/
theorem session_leaves_noted_content_of_two_handles :
    let p := withFile (utf8 "old!")
    let at_ : Place := ⟨0, utf8 "f", some 1⟩
    let calls := [opens "w", opens "a", seeks 32 6, writes 32 "Z", writes 33 "!"]
    let sys := (p.after calls).world.sys
    p.Starts at_ ∧ (∀ call ∈ calls, p.OnFile at_ call) ∧
      (sys.tree.child? at_.dir at_.name).bind sys.tree.bytes? = some (utf8 "old!" ++ [0, 0] ++ utf8 "Z!") := by
  intro p at_ calls sys
  have hstarts : p.Starts at_ := by
    refine ⟨⟨⟨.nil, nofun, by decide⟩, ?_⟩, FileTree.closed_of_nodes (by decide) (by decide), by decide,
      ⟨⟨⟨_, rfl⟩, by decide, by decide, by decide⟩, rfl⟩, ?_, nofun⟩
    · rintro b hb
      rw [List.mem_singleton.mp hb]
    · rintro id ⟨⟩
      exact ⟨_, _, rfl⟩
  have hleads : p.world.sys.tree.LeadsTo p.world.sys.cwd at_ (utf8 "f") :=
    ⟨⟨0, utf8 "f", some 1⟩, by cbv, rfl, fun hnone => absurd hnone (Option.some_ne_none 1)⟩
  have hopens (mode : String) : p.OnFile at_ (opens mode) := by
    refine ⟨⟨.fileOpen, rfl, .inl rfl⟩, fun _ name hname => ?_⟩
    cases hname
    exact hleads
  have hcalls : ∀ call ∈ calls, p.OnFile at_ call := by
    refine List.forall_mem_cons.mpr ⟨hopens "w", List.forall_mem_cons.mpr ⟨hopens "a", ?_⟩⟩
    refine List.forall_mem_cons.mpr ⟨⟨⟨.fileSeek, rfl, .inr rfl⟩, fun h => absurd h (by decide)⟩, ?_⟩
    refine List.forall_mem_cons.mpr ⟨⟨⟨.fileWrite, rfl, .inr rfl⟩, fun h => absurd h (by decide)⟩, ?_⟩
    exact List.forall_mem_singleton.mpr ⟨⟨.fileWrite, rfl, .inr rfl⟩, fun h => absurd h (by decide)⟩
  obtain ⟨hcontent, -, -⟩ := session_leaves_noted_content p at_ calls hstarts hcalls
  refine ⟨hstarts, hcalls, hcontent.trans ?_⟩
  -- opening follows a path, so it is carried out by hand; the rest of the ledger is computed
  obtain ⟨hfirst, hafterFirst⟩ : p.entry (opens "w") = ⟨opens "w", true, some (.int 32)⟩ ∧
      (p.invoke (opens "w")).2 = p.opened 0 {} 32 (openOnce p.world.sys) := by
    have hopen : p.world.sys.openFile (utf8 "f") (openOptions "w") newFileMode =
        .ok (32, openOnce p.world.sys) := by cbv
    exact invoke_opens rfl rfl rfl rfl hopen rfl
  obtain ⟨hsecond, hafterSecond⟩ :
      (p.opened 0 {} 32 (openOnce p.world.sys)).entry (opens "a") = ⟨opens "a", true, some (.int 33)⟩ ∧
      ((p.opened 0 {} 32 (openOnce p.world.sys)).invoke (opens "a")).2 =
        (p.opened 0 {} 32 (openOnce p.world.sys)).opened 0 { table := { handles := [32] } } 33
          (openTwice p.world.sys) := by
    have hopen : (openOnce p.world.sys).openFile (utf8 "f") (openOptions "a") newFileMode =
        .ok (33, openTwice p.world.sys) := by cbv
    exact invoke_opens rfl rfl rfl rfl hopen rfl
  have htranscript : p.transcript calls = ⟨opens "w", true, some (.int 32)⟩ ::
      ⟨opens "a", true, some (.int 33)⟩ ::
      ((p.opened 0 {} 32 (openOnce p.world.sys)).opened 0 { table := { handles := [32] } } 33
        (openTwice p.world.sys)).transcript [seeks 32 6, writes 32 "Z", writes 33 "!"] := by
    rw [transcript, hfirst, hafterFirst, transcript, hsecond, hafterSecond]
  rw [htranscript]
  decide +kernel

end Contexts

end ScriptExec
