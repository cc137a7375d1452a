-- SUMMARY: Reading through a handle goes on where it ended last, whatever happens through other handles.
import ScriptExec.Proofs.Builtin.Sessions
import ScriptExec.Proofs.Host.Keeping

/-!
# Cursors

A handle has a position of its own, which only calls that are given this handle by its context can move
(`Contexts.Sound.keeps_handle`). A read gives what the file has from there on and moves the position by as much
(`Contexts.Sound.reads`), so what consecutive reads give lies next to each other in the file
(`Contexts.reads_go_on_from_cursor`).
-/

namespace ScriptExec

open Host

namespace Host

/-- What a read of up to so many bytes gives of a file with some content. -/
def OpenFile.ahead (file : OpenFile) (bytes : Bytes) (n : Nat) : Bytes :=
  if file.readable then (bytes.drop file.offset).take n else []

/-- An open file that has been read some bytes further. -/
def OpenFile.advance (file : OpenFile) (n : Nat) : OpenFile :=
  { file with offset := file.offset + n }

variable {file : OpenFile} {bytes : Bytes} {m n : Nat}

@[simp]
theorem OpenFile.ahead_zero : file.ahead bytes 0 = [] := by
  simp [ahead]

/-- What one read gives and what the next one gives is what one read would have given. -/
theorem OpenFile.ahead_add (file : OpenFile) (bytes : Bytes) (m n : Nat) :
    file.ahead bytes (m + n) =
      file.ahead bytes m ++ (file.advance (file.ahead bytes m).length).ahead bytes n := by
  unfold ahead advance
  cases file.readable with
  | false => rfl
  | true =>
    simp only [if_true, List.length_take, List.length_drop]
    rw [List.take_add, List.drop_drop]
    by_cases hends : bytes.length ≤ file.offset + m
    · -- the first read has come to the end, so there is nothing more
      have hlast : bytes.drop (file.offset + min m (bytes.length - file.offset)) = [] :=
        List.drop_eq_nil_of_le (by omega)
      rw [List.drop_eq_nil_of_le hends, hlast]
    · rw [Nat.min_eq_left (by omega)]

namespace System

variable {sys : System} {d : Nat}

theorem read_regular (hfile : sys.file? d = some file) (hbytes : sys.tree.bytes? file.node = some bytes) (n : Nat) :
    sys.read d n =
      if file.readable then
        .ok (file.ahead bytes n, sys.setFile d (file.advance (file.ahead bytes n).length))
      else .error .badDescriptor := by
  obtain ⟨mode, hnode⟩ := FileTree.exists_regular hbytes
  have hread : readNode sys.tree file.node file.offset n = .ok ((bytes.drop file.offset).take n) := by
    unfold readNode
    rw [hnode]
    rfl
  unfold System.read OpenFile.ahead OpenFile.advance
  cases hreadable : file.readable with
  | false => simp [hfile, hreadable]
  | true => simp [hfile, hreadable, hread, bind, Except.bind, pure, Except.pure]

theorem bytes?_writeNode {tree : FileTree} {id node : NodeId} (hne : node ≠ id) (offset : Nat) (append : Bool)
    (data : Bytes) : (writeNode tree node offset append data).2.bytes? id = tree.bytes? id := by
  unfold writeNode
  split
  · show FileTree.bytes? (FileTree.setContent _ _ _) _ = _
    rw [FileTree.bytes?, FileTree.node?_setContent, if_neg hne]
    rfl
  · rfl

/-- A loop of writes changes no file but the one that it writes to. -/
theorem bytes?_writeAll {id : NodeId} (hother : ∀ file, sys.file? d = some file → file.node ≠ id) (data : Bytes) :
    (sys.writeAll d data).2.tree.bytes? id = sys.tree.bytes? id := by
  cases hcheck : sys.checkWrite d with
  | error cause => rw [writeAll, hcheck]
  | ok file =>
    rw [writeAll, hcheck]
    dsimp only
    split
    · rfl
    · exact bytes?_writeNode (hother file (checkWrite_ok hcheck)) _ _ _

end System

end Host

/-! ## Calls and handles -/

namespace Invocation

/-- The call is one by a context that is given a handle. -/
def Takes (call : Invocation) (i d : Nat) : Prop :=
  call.context = i ∧ ∃ builtin : Builtin, builtin.takesHandle = true ∧ call.name = builtin.name ∧
    (builtin.handle call.args).toInt = d

/-- The call is one by a context that reads through a handle. -/
def Reads (call : Invocation) (i d : Nat) : Prop :=
  call.context = i ∧ call.name = "file_read" ∧ (Builtin.fileRead.handle call.args).toInt = d

instance (call : Invocation) (i d : Nat) : Decidable (call.Reads i d) :=
  inferInstanceAs (Decidable (_ ∧ _ ∧ _))

/-- The call is one by a context that moves the position of a handle. -/
def Seeks (call : Invocation) (i d : Nat) : Prop :=
  call.context = i ∧ call.name = "file_seek" ∧ (Builtin.fileSeek.handle call.args).toInt = d

/-- How many bytes a call asks for at most. -/
def length (call : Invocation) : Nat :=
  Builtins.lengthOf (call.args.intByName "length" 0)

end Invocation

namespace Contexts

/-- The context of a number has a handle. -/
def Has (p : Contexts) (i d : Nat) : Prop :=
  ∃ b, p.all[i]? = some b ∧ d ∈ b.table.handles

/-- The tables and the open files are as it can be noted of calls. -/
def Sound (p : Contexts) : Prop :=
  ∃ opened, p.Accounts opened

variable {p : Contexts} {call : Invocation} {i j d : Nat} {file : OpenFile} {bytes : Bytes} {node : NodeId}

theorem Fresh.sound (h : p.Fresh) : p.Sound :=
  ⟨[], h.accounts⟩

theorem Sound.invoke (h : p.Sound) (call : Invocation) : (p.invoke call).2.Sound := by
  obtain ⟨opened, h⟩ := h
  exact ⟨_, h.invoke call⟩

theorem Sound.after (h : p.Sound) (calls : List Invocation) : (p.after calls).Sound := by
  induction calls generalizing p with
  | nil => exact h
  | cons call calls ih => exact ih (h.invoke call)

theorem Sound.numbered (h : p.Sound) : p.world.sys.WellNumbered := by
  obtain ⟨opened, h⟩ := h
  exact h.numbered

/-- No two contexts have the same handle. -/
theorem Sound.unique (h : p.Sound) (hi : p.Has i d) (hj : p.Has j d) : i = j := by
  obtain ⟨opened, h⟩ := h
  obtain ⟨b, hb, hd⟩ := hi
  obtain ⟨b', hb', hd'⟩ := hj
  obtain ⟨e, he, rfl, hhandle⟩ := (h.tables i b hb d).mp hd
  obtain ⟨e', he', rfl, hhandle'⟩ := (h.tables j b' hb' d).mp hd'
  rw [h.context_of_handle he he' (hhandle.trans hhandle'.symm)]

theorem has_set {b b' : Builtins} {w : World} (hb : p.all[j]? = some b)
    (hkept : d ∈ b.table.handles → d ∈ b'.table.handles) (h : p.Has i d) :
    Has { all := p.all.set j b', world := w } i d := by
  obtain ⟨own, hown, hd⟩ := h
  by_cases heq : j = i
  · subst heq
    obtain rfl := Option.some.inj (hb.symm.trans hown)
    exact ⟨b', List.getElem?_set_self (List.getElem?_eq_some_iff.mp hb).1, hkept hd⟩
  · exact ⟨own, (List.getElem?_set_ne heq).trans hown, hd⟩

/-- A call that is not given the handle by its context leaves it, and its position. -/
theorem Sound.keeps_handle (h : p.Sound) (hhas : p.Has i d) (hfile : p.world.sys.file? d = some file)
    (hnot : ¬call.Takes i d) :
    (p.invoke call).2.Has i d ∧ (p.invoke call).2.world.sys.file? d = some file := by
  cases hb : p.all[call.context]? with
  | none =>
    rw [invoke_of_no_context hb]
    exact ⟨hhas, hfile⟩
  | some b =>
    rw [invoke_of_context hb]
    dsimp only
    cases hname : Builtin.ofName? call.name with
    | none =>
      rw [Builtins.call_of_unknown hname]
      exact ⟨has_set hb id hhas, by rw [Builtins.fail_sys]; exact hfile⟩
    | some builtin =>
      have hnotOwn (d' : Nat) (htakes : builtin.takesHandle = true)
          (hfound : b.table.find? (builtin.handle call.args) = some d') : d ≠ d' := by
        rintro rfl
        obtain ⟨hhandle, hmem⟩ := HandleTable.find?_eq_some.mp hfound
        have hown : call.context = i := h.unique ⟨b, hb, hmem⟩ hhas
        exact hnot ⟨hown, builtin, htakes, Builtins.eq_name_of_ofName? hname, hhandle⟩
      rw [Builtins.call_of_name hname]
      have hnumbered : (p.world.record Builtins.callRecord).sys.WellNumbered := h.numbered
      cases @Builtins.perform_handling builtin call.runtime call.args b _ hnumbered with
      | keeps _ htable hfiles =>
        exact ⟨has_set hb (fun hd => htable ▸ hd) hhas, (System.file?_congr hfiles).trans hfile⟩
      | opens _ _ _ _ _ _ hfree _ htable hfiles =>
        refine ⟨has_set hb (fun hd => ?_) hhas, ?_⟩
        · rw [htable]
          exact HandleTable.mem_insert.mpr (.inr hd)
        · rw [System.file?_congr hfiles, System.file?_setFile, if_neg]
          · exact hfile
          · rintro rfl
            exact nomatch hfile.symm.trans hfree
      | @closes d' hbuiltin hfound _ htable hsys =>
        subst hbuiltin
        have hne := hnotOwn d' rfl hfound
        refine ⟨has_set hb (fun hd => ?_) hhas, ?_⟩
        · rw [htable]
          exact HandleTable.mem_erase.mpr ⟨hd, hne⟩
        · rw [hsys, System.file?_close, if_neg hne]
          exact hfile
      | @moves d' hopen hclose hfound htable hmoves =>
        refine ⟨has_set hb (fun hd => htable ▸ hd) hhas, ?_⟩
        cases htakes : builtin.takesHandle with
        | true => exact (hmoves.file?_of_ne (hnotOwn d' htakes hfound)).trans hfile
        | false =>
          have hfiles := @Builtins.perform_openFiles builtin call.runtime call.args b
            (p.world.record Builtins.callRecord) htakes hopen
          exact (System.file?_congr hfiles).trans hfile

/-- A call that is given a handle that its context has. -/
theorem Has.serves {builtin : Builtin} (hhas : p.Has i d) (hcontext : call.context = i)
    (htakes : builtin.takesHandle = true) (hname : call.name = builtin.name)
    (hhandle : (builtin.handle call.args).toInt = d) :
    Builtins.Serves call.args p.world.sys d builtin (p.invoke call).1 (p.invoke call).2.world.sys ∧
      (builtin ≠ .fileClose → (p.invoke call).2.Has i d) := by
  obtain ⟨b, hb, hd⟩ := hhas
  subst hcontext
  have hfound : b.table.find? (builtin.handle call.args) = some d :=
    HandleTable.find?_eq_some.mpr ⟨hhandle, hd⟩
  rw [invoke_of_context hb]
  dsimp only
  rw [Builtins.call_of_name (hname ▸ Builtins.ofName?_name builtin)]
  refine ⟨@Builtins.perform_serves _ _ _ b (p.world.record Builtins.callRecord) d htakes hfound, fun hclose => ?_⟩
  have hopen : builtin ≠ .fileOpen := by
    rintro rfl
    cases htakes
  rw [Builtins.perform_builtins hopen hclose]
  exact has_set hb id ⟨b, hb, hd⟩

/-- A read gives what the file has from its position on, and moves the position by as much. -/
theorem Has.reads (hhas : p.Has i d) (hfile : p.world.sys.file? d = some file)
    (hbytes : p.world.sys.tree.bytes? file.node = some bytes) (hreads : call.Reads i d) :
    (p.invoke call).1 = some (.data (file.ahead bytes call.length)) ∧ (p.invoke call).2.Has i d ∧
      (p.invoke call).2.world.sys.tree = p.world.sys.tree ∧
      ∀ e, (p.invoke call).2.world.sys.file? e =
        if e = d then some (file.advance (file.ahead bytes call.length).length) else p.world.sys.file? e := by
  obtain ⟨hcontext, hname, hhandle⟩ := hreads
  obtain ⟨hserves, hkept⟩ := hhas.serves hcontext (rfl : Builtin.fileRead.takesHandle = true) hname hhandle
  have hread := System.read_regular hfile hbytes call.length
  have hkept := hkept nofun
  generalize (p.invoke call).1 = answer at *
  generalize (p.invoke call).2 = q at *
  generalize hsys : q.world.sys = sys at *
  cases hserves with
  | @read given sys' hok =>
    have hgiven := hok.symm.trans hread
    split at hgiven
    · cases hgiven
      exact ⟨rfl, hkept, rfl, fun e => System.file?_setFile⟩
    · cases hgiven
  | unreadable herror =>
    have hgiven := herror.symm.trans hread
    split at hgiven
    · cases hgiven
    · rename_i hunreadable
      have hnothing : file.ahead bytes call.length = [] := if_neg hunreadable
      rw [hnothing]
      refine ⟨rfl, hkept, rfl, fun e => ?_⟩
      split
      · rename_i heq
        rw [heq]
        exact hfile
      · rfl

/-- Moving the position of a handle moves nothing else. -/
theorem Has.seeks (hhas : p.Has i d) (hfile : p.world.sys.file? d = some file) (hseeks : call.Seeks i d)
    (hvalue : (p.invoke call).1 ≠ none) :
    ∃ k : Nat, (call.args.intByName "offset" 0).toInt = k ∧ (p.invoke call).2.Has i d ∧
      (p.invoke call).2.world.sys.tree = p.world.sys.tree ∧
      ∀ e, (p.invoke call).2.world.sys.file? e =
        if e = d then some { file with offset := k } else p.world.sys.file? e := by
  obtain ⟨hcontext, hname, hhandle⟩ := hseeks
  obtain ⟨hserves, hkept⟩ := hhas.serves hcontext (rfl : Builtin.fileSeek.takesHandle = true) hname hhandle
  have hkept := hkept nofun
  generalize (p.invoke call).1 = answer at *
  generalize (p.invoke call).2 = q at *
  generalize hsys : q.world.sys = sys at *
  cases hserves with
  | seek hoffset hok =>
    obtain ⟨file', hfile', rfl⟩ := System.seek_ok hok
    obtain rfl := Option.some.inj (hfile.symm.trans hfile')
    exact ⟨_, (Int.toNat_of_nonneg hoffset).symm, hkept, rfl, fun e => System.file?_setFile⟩
  | unsought | badOffset => exact absurd rfl hvalue

end Contexts

/-! ## What changes a file -/

namespace Builtins

variable {builtin : Builtin} {runtime : Runtime} {args : CallArgs} {b : Builtins} {w : World}

/-- All files keep their content but in launches, in opening a file, and in writing to one. -/
theorem perform_keepsFiles (hpread : builtin ≠ .pread) (hopen : builtin ≠ .fileOpen)
    (hwrite : builtin ≠ .fileWrite) :
    w.sys.tree.KeepsFiles (perform builtin runtime args b w).world.sys.tree := by
  have hsame {called : Called} (h : called.world.sys = w.sys) :
      w.sys.tree.KeepsFiles called.world.sys.tree :=
    h ▸ .refl _
  cases htakes : builtin.takesHandle with
  | true =>
    cases hfound : b.table.find? (builtin.handle args) with
    | none =>
      obtain ⟨text, htext⟩ := @perform_unknown builtin runtime args b w htakes hfound
      rw [htext]
      exact hsame (fail_sys text)
    | some d =>
      have hserves := @perform_serves builtin runtime args b w d htakes hfound
      generalize (perform builtin runtime args b w).value = answer at hserves
      generalize (perform builtin runtime args b w).world.sys = sys at hserves ⊢
      cases hserves with
      | close | unreadable | unsought | badOffset => exact .refl _
      | read hread =>
        obtain ⟨file, offset, -, -, rfl⟩ := System.read_ok hread
        exact .refl _
      | seek _ hseek =>
        obtain ⟨file, -, rfl⟩ := System.seek_ok hseek
        exact .refl _
      | write | noData => exact absurd rfl hwrite
  | false =>
    cases builtin with
    | pread => exact absurd rfl hpread
    | fileOpen => exact absurd rfl hopen
    | fileClose | fileRead | fileWrite | fileSeek => cases htakes
    | findInPath =>
      simp only [perform, findInPath]
      split
      · exact hsame (fail_sys _)
      · exact hsame (b.executor.find_sys w _)
    | fread =>
      simp only [perform, fread]
      split
      · exact hsame (fail_sys _)
      · split
        · exact .refl _
        · exact hsame (fail_sys _)
    | fwrite =>
      simp only [perform, fwrite]
      split
      · rename_i data name _ _
        have hkept := (Replacement.replace_leaves w.sys (utf8 name) data).1
        split <;> rename_i heq <;> rw [heq] at hkept
        · exact hkept
        · rw [fail_sys]
          exact hkept
      · exact hsame (fail_sys _)
    | unlink =>
      simp only [perform, unlink]
      split
      · exact hsame (fail_sys _)
      · split
        · rename_i hremove
          exact System.removeFile_keepsFiles hremove
        · exact hsame (fail_sys _)
    | getTmpDir =>
      simp only [perform, getTmpDir]
      split
      · exact .refl _
      · exact hsame (fail_sys _)
    | fileStat =>
      simp only [perform, fileStat]
      split
      · exact hsame (fail_sys _)
      · split <;> exact .refl _

end Builtins

namespace Contexts

variable {p : Contexts} {call : Invocation} {i d : Nat} {file : OpenFile} {bytes : Bytes} {node : NodeId}

/-- A call that may change the content of a file: it launches a program, opens the file to empty it, or writes
through a handle to it. -/
inductive Alters (p : Contexts) (call : Invocation) (node : NodeId) : Prop
  | launches (hname : call.name = "pread")
  | empties {name mode tree} (hname : call.name = "file_open") (hpath : call.args.textByName? "name" = some name)
      (hmode : call.args.textByName? "mode" = some mode) (htruncate : (openOptions mode).truncate = true)
      (hnode : p.world.sys.openNode (utf8 name) (openOptions mode) newFileMode = .ok (node, tree))
  | writes {d : Nat} {file : OpenFile} (hname : call.name = "file_write") (hhas : p.Has call.context d)
      (hhandle : (Builtin.fileWrite.handle call.args).toInt = d) (hfile : p.world.sys.file? d = some file)
      (hnode : file.node = node)

/-- No other call changes the content of a file. -/
theorem Sound.keeps_bytes (h : p.Sound) (hbytes : p.world.sys.tree.bytes? node = some bytes)
    (hnot : ¬p.Alters call node) : (p.invoke call).2.world.sys.tree.bytes? node = some bytes := by
  cases hb : p.all[call.context]? with
  | none =>
    rw [invoke_of_no_context hb]
    exact hbytes
  | some b =>
    rw [invoke_of_context hb]
    dsimp only
    cases hofName : Builtin.ofName? call.name with
    | none =>
      rw [Builtins.call_of_unknown hofName, Builtins.fail_sys]
      exact hbytes
    | some builtin =>
      have hname := Builtins.eq_name_of_ofName? hofName
      rw [Builtins.call_of_name hofName]
      by_cases hpread : builtin = .pread
      · subst hpread
        exact absurd (.launches hname) hnot
      by_cases hopen : builtin = .fileOpen
      · subst hopen
        have hnumbered : (p.world.record Builtins.callRecord).sys.WellNumbered := h.numbered
        have hkept {name mode : String} {id : NodeId} {tree : FileTree}
            (hpath : call.args.textByName? "name" = some name)
            (hmode : call.args.textByName? "mode" = some mode)
            (hopened : p.world.sys.openNode (utf8 name) (openOptions mode) newFileMode = .ok (id, tree)) :
            tree.bytes? node = some bytes := by
          rcases System.openNode_keeps hopened with hkeeps | ⟨htruncate, rfl⟩
          · exact hkeeps.bytes? hbytes
          · by_cases heq : id = node
            · subst heq
              exact absurd (.empties hname hpath hmode htruncate hopened) hnot
            · rw [FileTree.bytes?, FileTree.node?_setContent, if_neg heq]
              exact hbytes
        show (Builtins.fileOpen call.args b _).world.sys.tree.bytes? node = some bytes
        cases Builtins.fileOpen_opens call.args b hnumbered with
        | nothing _ _ hsys =>
          rw [hsys]
          exact hbytes
        | closed _ hpath hmode hopened _ _ hsys =>
          rw [hsys]
          exact hkept hpath hmode hopened
        | opened _ hpath hmode hopened _ _ _ hsys =>
          rw [hsys]
          exact hkept hpath hmode hopened
      by_cases hwrite : builtin = .fileWrite
      · subst hwrite
        cases hfound : b.table.find? (Builtin.fileWrite.handle call.args) with
        | none =>
          obtain ⟨text, htext⟩ := @Builtins.perform_unknown .fileWrite call.runtime call.args b
            (p.world.record Builtins.callRecord) rfl hfound
          rw [htext, Builtins.fail_sys]
          exact hbytes
        | some d =>
          obtain ⟨hhandle, hmem⟩ := HandleTable.find?_eq_some.mp hfound
          have hother : ∀ file, p.world.sys.file? d = some file → file.node ≠ node :=
            fun file hfile hnode => hnot (.writes hname ⟨b, hb, hmem⟩ hhandle hfile hnode)
          have hserves := @Builtins.perform_serves .fileWrite call.runtime call.args b
            (p.world.record Builtins.callRecord) d rfl hfound
          generalize (Builtins.perform .fileWrite call.runtime call.args b _).value = answer at hserves
          generalize (Builtins.perform .fileWrite call.runtime call.args b _).world.sys = sys at hserves ⊢
          cases hserves with
          | write => exact (System.bytes?_writeAll hother _).trans hbytes
          | noData => exact hbytes
      exact (Builtins.perform_keepsFiles hpread hopen hwrite).bytes? hbytes

/-! ## Runs of calls -/

/-- What the reads of a handle give, one after the other. -/
def readThrough (i d : Nat) (p : Contexts) : List Invocation → Bytes
  | [] => []
  | call :: calls =>
    (match (p.invoke call).1 with
      | some (.data bytes) => if call.Reads i d then bytes else []
      | _ => []) ++ readThrough i d (p.invoke call).2 calls

/-- How many bytes the reads of a handle ask for at most. -/
def asked (i d : Nat) (calls : List Invocation) : Nat :=
  ((calls.filter fun call => call.Reads i d).map Invocation.length).sum

/-- All that calls do with a handle is to read through it, and those that do not read leave the content of the file
as it is. -/
def OnlyRead (i d : Nat) (node : NodeId) (p : Contexts) : List Invocation → Prop
  | [] => True
  | call :: calls =>
    (call.Reads i d ∨
      ¬call.Takes i d ∧ (p.invoke call).2.world.sys.tree.bytes? node = p.world.sys.tree.bytes? node) ∧
    OnlyRead i d node (p.invoke call).2 calls

theorem takes_of_reads (h : call.Reads i d) : call.Takes i d :=
  ⟨h.1, .fileRead, rfl, h.2.1, h.2.2⟩

/-- The reads of a handle go on from each other, whatever else happens between them. -/
theorem Sound.readThrough_eq (h : p.Sound) (hhas : p.Has i d) (hfile : p.world.sys.file? d = some file)
    (hbytes : p.world.sys.tree.bytes? file.node = some bytes) {calls : List Invocation}
    (hcalls : OnlyRead i d file.node p calls) :
    readThrough i d p calls = file.ahead bytes (asked i d calls) ∧
      (p.after calls).world.sys.file? d = some (file.advance (readThrough i d p calls).length) ∧
      (p.after calls).world.sys.tree.bytes? file.node = some bytes := by
  induction calls generalizing p file with
  | nil => exact ⟨OpenFile.ahead_zero.symm, hfile, hbytes⟩
  | cons call calls ih =>
    obtain ⟨hfirst, hrest⟩ := hcalls
    unfold readThrough Contexts.after asked
    rcases hfirst with hreads | ⟨hnot, hsame⟩
    · obtain ⟨hanswer, hhas', htree, hfiles⟩ := hhas.reads hfile hbytes hreads
      have hfile' := (hfiles d).trans (if_pos rfl)
      obtain ⟨hall, hend, hcontent⟩ := ih (h.invoke call) hhas' hfile' (by rw [htree]; exact hbytes) hrest
      rw [List.filter_cons_of_pos (by simpa using hreads), List.map_cons, List.sum_cons, OpenFile.ahead_add,
        hanswer]
      dsimp only
      rw [if_pos hreads]
      refine ⟨congrArg (_ ++ ·) hall, ?_, hcontent⟩
      rw [hend, List.length_append]
      simp only [OpenFile.advance, Nat.add_assoc]
    · have hother : ¬call.Reads i d := fun hreads => hnot (takes_of_reads hreads)
      obtain ⟨hhas', hfile'⟩ := h.keeps_handle hhas hfile hnot
      have hnothing : (match (p.invoke call).1 with
          | some (.data bytes) => if call.Reads i d then bytes else []
          | _ => []) = [] := by
        split
        · exact if_neg hother
        · rfl
      rw [List.filter_cons_of_neg (by simpa using hother), hnothing, List.nil_append]
      exact ih (h.invoke call) hhas' hfile' (hsame.trans hbytes) hrest

/-- Calls that are not given a handle leave it, and its position. -/
theorem Sound.keeps_handle_after (h : p.Sound) (hhas : p.Has i d) (hfile : p.world.sys.file? d = some file)
    {calls : List Invocation} (hcalls : ∀ call ∈ calls, ¬call.Takes i d) :
    (p.after calls).Has i d ∧ (p.after calls).world.sys.file? d = some file := by
  induction calls generalizing p with
  | nil => exact ⟨hhas, hfile⟩
  | cons call calls ih =>
    obtain ⟨hfirst, hrest⟩ := List.forall_mem_cons.mp hcalls
    obtain ⟨hhas', hfile'⟩ := h.keeps_handle hhas hfile hfirst
    exact ih (h.invoke call) hhas' hfile' hrest

/-- Whatever has been called before, a read through a handle to a regular file gives what the file has from the
position of the handle on, and moves that position by as much and nothing else. Calls that are not given the handle
do not move it, and few of them can change the file. So consecutive reads give what one read would give, and after
the position was moved the next read starts there. -/
theorem reads_go_on_from_cursor {p₀ : Contexts} (hp : p₀.Fresh) (before : List Invocation) (i d : Nat)
    (file : OpenFile) (bytes : Bytes) (hhas : (p₀.after before).Has i d)
    (hfile : (p₀.after before).world.sys.file? d = some file)
    (hbytes : (p₀.after before).world.sys.tree.bytes? file.node = some bytes) :
    let p := p₀.after before
    (∀ call : Invocation, call.Reads i d →
      (p.invoke call).1 = some (.data (file.ahead bytes call.length)) ∧
      (p.invoke call).2.world.sys.tree = p.world.sys.tree ∧
      ∀ e, (p.invoke call).2.world.sys.file? e =
        if e = d then some (file.advance (file.ahead bytes call.length).length) else p.world.sys.file? e) ∧
    (∀ call : Invocation, ¬call.Takes i d →
      (p.invoke call).2.Has i d ∧ (p.invoke call).2.world.sys.file? d = some file ∧
      (¬p.Alters call file.node → (p.invoke call).2.world.sys.tree.bytes? file.node = some bytes)) ∧
    (∀ calls, OnlyRead i d file.node p calls →
      readThrough i d p calls = file.ahead bytes (asked i d calls) ∧
      (p.after calls).world.sys.file? d = some (file.advance (readThrough i d p calls).length) ∧
      ∀ whole : Invocation, whole.Reads i d → whole.length = asked i d calls →
        (p.invoke whole).1 = some (.data (readThrough i d p calls))) ∧
    ∀ seek : Invocation, seek.Seeks i d → (p.invoke seek).1 ≠ none → ∃ k : Nat,
      (seek.args.intByName "offset" 0).toInt = k ∧ ∀ between, (∀ call ∈ between, ¬call.Takes i d) →
        let q := (p.invoke seek).2.after between
        ∀ bytes', q.world.sys.tree.bytes? file.node = some bytes' → ∀ read : Invocation, read.Reads i d →
          (q.invoke read).1 =
            some (.data (if file.readable then (bytes'.drop k).take read.length else [])) := by
  intro p
  have hsound : p.Sound := hp.sound.after before
  refine ⟨?_, ?_, ?_, ?_⟩
  · intro call hreads
    obtain ⟨hanswer, -, htree, hfiles⟩ := hhas.reads hfile hbytes hreads
    exact ⟨hanswer, htree, hfiles⟩
  · intro call hnot
    obtain ⟨hhas', hfile'⟩ := hsound.keeps_handle hhas hfile hnot
    exact ⟨hhas', hfile', hsound.keeps_bytes hbytes⟩
  · intro calls hcalls
    obtain ⟨hall, hend, -⟩ := hsound.readThrough_eq hhas hfile hbytes hcalls
    refine ⟨hall, hend, ?_⟩
    intro whole hreads hlength
    rw [(hhas.reads hfile hbytes hreads).1, hlength, hall]
  · intro seek hseeks hvalue
    obtain ⟨k, hk, hhas', -, hfiles⟩ := hhas.seeks hfile hseeks hvalue
    refine ⟨k, hk, ?_⟩
    intro between hbetween q bytes' hbytes' read hreads
    have hfile' := (hfiles d).trans (if_pos rfl)
    obtain ⟨hhas'', hfile''⟩ := (hsound.invoke seek).keeps_handle_after hhas' hfile' hbetween
    exact (hhas''.reads hfile'' hbytes' hreads).1

/-! ## A file that is read through one handle while another one is moved -/

/-- The call of a context that reads through a handle. -/
def reads (handle length : Int64) : Invocation :=
  { context := 0, name := "file_read", args := { named := [("fp", .int handle), ("length", .int length)] } }

/-- The system with the file open for reading, and then for writing too. -/
def openToRead (sys : System) : System :=
  { sys with descriptors := [(32, (openOptions "r").file 1)] }

def openToReadAndWrite (sys : System) : System :=
  { sys with descriptors := [(32, (openOptions "r").file 1), (33, (openOptions "w").file 1)] }

/-- Three reads, between which another handle is moved, give the file from its start to its end. -/
theorem reads_go_on_from_cursor_of_three_reads :
    let p₀ := withFile (utf8 "abcdef")
    let p := p₀.after [opens "r", opens "w"]
    let calls := [reads 32 2, seeks 33 4, reads 32 (-1), reads 32 100]
    p₀.Fresh ∧ p.Has 0 32 ∧ p.world.sys.file? 32 = some ((openOptions "r").file 1) ∧
      p.world.sys.tree.bytes? 1 = some (utf8 "abcdef") ∧ OnlyRead 0 32 1 p calls ∧
      readThrough 0 32 p calls = utf8 "abcdef" ∧
      (p.after calls).world.sys.file? 32 = some (((openOptions "r").file 1).advance 6) := by
  intro p₀ p calls
  have hfresh : p₀.Fresh := by
    refine ⟨⟨.nil, nofun, by decide⟩, ?_⟩
    intro b hb
    rw [List.mem_singleton.mp hb]
  have hp : p = (p₀.opened 0 {} 32 (openToRead p₀.world.sys)).opened 0 { table := { handles := [32] } } 33
      (openToReadAndWrite p₀.world.sys) := by
    have hread : p₀.world.sys.openFile (utf8 "f") (openOptions "r") newFileMode =
        .ok (32, openToRead p₀.world.sys) := by cbv
    have hwrite : (openToRead p₀.world.sys).openFile (utf8 "f") (openOptions "w") newFileMode =
        .ok (33, openToReadAndWrite p₀.world.sys) := by cbv
    have hfirst : (p₀.invoke (opens "r")).2 = p₀.opened 0 {} 32 (openToRead p₀.world.sys) :=
      (invoke_opens rfl rfl rfl rfl hread rfl).2
    show ((p₀.invoke (opens "r")).2.invoke (opens "w")).2 = _
    rw [hfirst]
    exact (invoke_opens rfl rfl rfl rfl hwrite rfl).2
  have hhas : p.Has 0 32 := by
    rw [hp]
    exact ⟨_, rfl, by decide⟩
  have hfile : p.world.sys.file? 32 = some ((openOptions "r").file 1) := by
    rw [hp]
    rfl
  have hbytes : p.world.sys.tree.bytes? 1 = some (utf8 "abcdef") := by
    rw [hp]
    rfl
  have hcalls : OnlyRead 0 32 1 p calls := by
    have hmoves : ¬(seeks 33 4).Takes 0 32 := by
      rintro ⟨-, builtin, htakes, hname, hhandle⟩
      obtain rfl : Builtin.fileSeek = builtin := Builtins.name_injective hname
      cases hhandle
    rw [hp]
    refine ⟨.inl ⟨rfl, rfl, rfl⟩, .inr ⟨hmoves, ?_⟩, .inl ⟨rfl, rfl, rfl⟩, .inl ⟨rfl, rfl, rfl⟩, trivial⟩
    decide +kernel
  obtain ⟨-, -, hreads, -⟩ :=
    reads_go_on_from_cursor hfresh [opens "r", opens "w"] 0 32 _ _ hhas hfile hbytes
  obtain ⟨hall, hend, -⟩ := hreads calls hcalls
  have hread : readThrough 0 32 p calls = utf8 "abcdef" := hall.trans (by decide)
  refine ⟨hfresh, hhas, hfile, hbytes, hcalls, hread, ?_⟩
  rw [hread] at hend
  unfold p
  exact hend

end Contexts

end ScriptExec
