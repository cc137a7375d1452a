-- SUMMARY: Contexts of one process: each has the handles of the files it has opened and not closed since.
import Mathlib
import ScriptExec.Proofs.Builtin.Handles
import ScriptExec.Proofs.Executor.Spawning

/-!
# Contexts of one process

Several contexts call builtins in one world, in any order (`Contexts.run`). From the calls and their
answers alone one can tell which context has opened which file under which handle and not closed it
since (`noted`). Every table holds exactly those handles, every handle is still the descriptor of its
file, and no two contexts have the same (`Accounts`); so no context reaches a file of another
(`contexts_account_for_files`).
-/

namespace ScriptExec

open Host

/-- The builtins of all contexts of a process, and the world they share. -/
structure Contexts where
  all : List Builtins
  world : World

/-- A call of a builtin by the context of a number. -/
structure Invocation where
  context : Nat
  name : String
  runtime : Runtime := .outside
  args : CallArgs

/-- A file that a context has opened, as it was right after that, and the handle it got for it. -/
structure Opening where
  context : Nat
  handle : Nat
  file : OpenFile
  deriving DecidableEq, Repr

namespace Contexts

/-- Carries out a call. No context, no call. -/
def invoke (p : Contexts) (call : Invocation) : Option Value × Contexts :=
  match p.all[call.context]? with
  | none => (none, p)
  | some b =>
    let called := b.call call.name call.runtime call.args p.world
    (called.value, { all := p.all.set call.context called.builtins, world := called.world })

/-- What is noted of a call with its answer: opening gives the context a handle, closing takes it. -/
def noted (call : Invocation) (answer : Option Value) (after : Contexts) (opened : List Opening) :
    List Opening :=
  match Builtin.ofName? call.name, answer with
  | some .fileOpen, some (.int n) =>
    match after.world.sys.file? n.toInt.toNat with
    | some file => ⟨call.context, n.toInt.toNat, file⟩ :: opened
    | none => opened
  | some .fileClose, some _ =>
    opened.filter fun e =>
      !(e.context == call.context && (e.handle : Int) == (Builtin.fileClose.handle call.args).toInt)
  | _, _ => opened

/-- Carries out calls one after the other, and notes what is opened and closed. -/
def run (p : Contexts) (opened : List Opening) : List Invocation → Contexts × List Opening
  | [] => (p, opened)
  | call :: calls =>
    let (answer, after) := p.invoke call
    run after (noted call answer after opened) calls

/-- No context has opened anything yet. -/
structure Fresh (p : Contexts) : Prop where
  numbered : p.world.sys.WellNumbered
  empty : ∀ b ∈ p.all, b.table.handles = []

/-- The tables and the open files are as noted. -/
structure Accounts (p : Contexts) (opened : List Opening) : Prop where
  numbered : p.world.sys.WellNumbered
  tables : ∀ i b, p.all[i]? = some b →
    ∀ d, d ∈ b.table.handles ↔ ∃ e ∈ opened, e.context = i ∧ e.handle = d
  files : ∀ e ∈ opened, ∃ offset, p.world.sys.file? e.handle = some { e.file with offset }
  apart : opened.Pairwise fun e e' => e.handle ≠ e'.handle

variable {p : Contexts} {opened : List Opening} {call : Invocation} {b b' : Builtins} {w : World}
  {i d : Nat} {file : OpenFile}

theorem getElem?_set_eq {all : List Builtins} {j : Nat} {b'' : Builtins} (hb : all[i]? = some b)
    (h : (all.set i b')[j]? = some b'') : (j = i ∧ b'' = b') ∨ (j ≠ i ∧ all[j]? = some b'') := by
  by_cases hj : j = i
  · subst hj
    rw [List.getElem?_set_self (List.getElem?_eq_some_iff.mp hb).1] at h
    exact .inl ⟨rfl, (Option.some.inj h).symm⟩
  · rw [List.getElem?_set_ne (Ne.symm hj)] at h
    exact .inr ⟨hj, h⟩

/-- A handle that a context has is its own. -/
theorem Accounts.context_of_handle (h : Accounts p opened) {e e' : Opening} (he : e ∈ opened)
    (he' : e' ∈ opened) (hhandle : e.handle = e'.handle) : e = e' := by
  have hsymm : Std.Symm fun e e' : Opening => e.handle ≠ e'.handle := ⟨fun _ _ hne => Ne.symm hne⟩
  by_contra hne
  exact h.apart.forall he he' hne hhandle

theorem Fresh.accounts (h : p.Fresh) : Accounts p [] where
  numbered := h.numbered
  tables := by
    intro i b hb d
    rw [h.empty b (List.mem_of_getElem? hb)]
    constructor
    · nofun
    · rintro ⟨e, he, -⟩
      cases he
  files := nofun
  apart := .nil

/-! ## One call -/

/-- A call that opens and closes nothing. -/
theorem Accounts.keeps (h : Accounts p opened) (hb : p.all[i]? = some b) (htable : b'.table = b.table)
    (hmoves : System.Moves d p.world.sys w.sys) :
    Accounts { all := p.all.set i b', world := w } opened where
  numbered := hmoves.wellNumbered h.numbered
  tables := by
    intro j b'' hj
    rcases getElem?_set_eq hb hj with ⟨rfl, rfl⟩ | ⟨-, hj⟩
    · rw [htable]
      exact h.tables j b hb
    · exact h.tables j b'' hj
  files := by
    intro e he
    obtain ⟨offset, hfile⟩ := h.files e he
    obtain ⟨offset', hfile'⟩ := hmoves.file? hfile
    exact ⟨offset', hfile'⟩
  apart := h.apart

/-- A call that opens a file, under a descriptor that had none. -/
theorem Accounts.opens (h : Accounts p opened) (hb : p.all[i]? = some b)
    (hfirst : System.firstDescriptor ≤ d) (hfree : p.world.sys.file? d = none)
    (htable : b'.table = b.table.insert d)
    (hfiles : w.sys.openFiles = (p.world.sys.setFile d file).openFiles) :
    Accounts { all := p.all.set i b', world := w } (⟨i, d, file⟩ :: opened) := by
  have hnew : ∀ e ∈ opened, e.handle ≠ d := by
    rintro e he rfl
    obtain ⟨offset, hfile⟩ := h.files e he
    exact nomatch hfree.symm.trans hfile
  have hafter : ∀ e, w.sys.file? e = if e = d then some file else p.world.sys.file? e :=
    fun e => (System.file?_congr hfiles).trans System.file?_setFile
  constructor
  case numbered => exact (h.numbered.setFile hfirst).congr hfiles
  case tables =>
    intro j b'' hj d'
    simp only [List.mem_cons, exists_eq_or_imp]
    rcases getElem?_set_eq hb hj with ⟨rfl, rfl⟩ | ⟨hne, hj⟩
    · rw [htable, HandleTable.mem_insert, h.tables j b hb]
      exact or_congr ⟨fun hd => ⟨rfl, hd.symm⟩, fun hd => hd.2.symm⟩ Iff.rfl
    · rw [h.tables j b'' hj]
      exact ⟨.inr, fun heither => heither.resolve_left fun hnew => hne hnew.1.symm⟩
  case files =>
    intro e he
    rcases List.mem_cons.mp he with rfl | he
    · exact ⟨file.offset, (hafter d).trans (if_pos rfl)⟩
    · obtain ⟨offset, hfile⟩ := h.files e he
      exact ⟨offset, (hafter _).trans ((if_neg (hnew e he)).trans hfile)⟩
  case apart => exact .cons (fun e he => Ne.symm (hnew e he)) h.apart

/-- A call that closes a file of its context. -/
theorem Accounts.closes (h : Accounts p opened) (hb : p.all[i]? = some b)
    (hmem : d ∈ b.table.handles) (htable : b'.table = b.table.erase d) (hsys : w.sys = p.world.sys.close d) :
    Accounts { all := p.all.set i b', world := w }
      (opened.filter fun e => !(e.context == i && e.handle == d)) := by
  -- nobody else has the handle, so all that is left has others
  obtain ⟨closed, hclosed, hcontext, hhandle⟩ := (h.tables i b hb d).mp hmem
  have hleft : ∀ e, e ∈ opened.filter (fun e => !(e.context == i && e.handle == d)) ↔
      e ∈ opened ∧ e.handle ≠ d := by
    intro e
    simp only [List.mem_filter, Bool.not_and, Bool.or_eq_true, Bool.not_eq_true', beq_eq_false_iff_ne]
    refine and_congr_right fun he => ⟨?_, .inr⟩
    rintro (hne | hne) heq
    · obtain rfl := h.context_of_handle he hclosed (heq.trans hhandle.symm)
      exact hne hcontext
    · exact hne heq
  constructor
  case numbered =>
    rw [hsys]
    exact h.numbered.close
  case tables =>
    intro j b'' hj d'
    simp only [hleft]
    rcases getElem?_set_eq hb hj with ⟨rfl, rfl⟩ | ⟨hne, hj⟩
    · rw [htable, HandleTable.mem_erase, h.tables j b hb]
      constructor
      · rintro ⟨⟨e, he, hj, rfl⟩, hd⟩
        exact ⟨e, ⟨he, hd⟩, hj, rfl⟩
      · rintro ⟨e, ⟨he, hd⟩, hj, rfl⟩
        exact ⟨⟨e, he, hj, rfl⟩, hd⟩
    · rw [h.tables j b'' hj]
      constructor
      · rintro ⟨e, he, rfl, rfl⟩
        refine ⟨e, ⟨he, fun heq => hne ?_⟩, rfl, rfl⟩
        rw [h.context_of_handle he hclosed (heq.trans hhandle.symm), hcontext]
      · rintro ⟨e, ⟨he, -⟩, hj, hd⟩
        exact ⟨e, he, hj, hd⟩
  case files =>
    intro e he
    obtain ⟨he, hne⟩ := (hleft e).mp he
    obtain ⟨offset, hfile⟩ := h.files e he
    refine ⟨offset, ?_⟩
    show w.sys.file? e.handle = _
    rw [hsys, System.file?_close, if_neg hne]
    exact hfile
  case apart => exact h.apart.filter _

theorem noted_eq_self {answer : Option Value} {after : Contexts}
    (h : ∀ builtin, Builtin.ofName? call.name = some builtin →
      builtin = .fileOpen ∨ builtin = .fileClose → answer = none) :
    noted call answer after opened = opened := by
  unfold noted
  split
  · rename_i hname
    exact nomatch h _ hname (.inl rfl)
  · rename_i hname
    exact nomatch h _ hname (.inr rfl)
  · rfl

/-- A handle is the integer that is given for it. -/
theorem toNat_handle (hd : d < 2 ^ 31) : (Int64.ofNat d).toInt.toNat = d := by
  rw [Int64.toInt_ofNat_of_lt (by omega), Int.toNat_natCast]

theorem noted_opens {answer : Option Value} {after : Contexts}
    (hname : Builtin.ofName? call.name = some .fileOpen) (hd : d < 2 ^ 31)
    (hanswer : answer = some (.int (Int64.ofNat d))) (hfile : after.world.sys.file? d = some file) :
    noted call answer after opened = ⟨call.context, d, file⟩ :: opened := by
  unfold noted
  rw [hname, hanswer]
  simp only [toNat_handle hd, hfile]

theorem noted_closes {answer : Option Value} {after : Contexts} {v : Value}
    (hname : Builtin.ofName? call.name = some .fileClose) (hanswer : answer = some v)
    (hhandle : (Builtin.fileClose.handle call.args).toInt = d) :
    noted call answer after opened =
      opened.filter fun e => !(e.context == call.context && e.handle == d) := by
  unfold noted
  rw [hname, hanswer]
  simp only [hhandle]
  apply List.filter_congr
  intro e _
  simp only [beq_eq_decide, Int.natCast_inj]

/-- Whatever a call does, the tables and the open files stay as noted. -/
theorem Accounts.invoke (h : Accounts p opened) (call : Invocation) :
    Accounts (p.invoke call).2 (noted call (p.invoke call).1 (p.invoke call).2 opened) := by
  unfold Contexts.invoke
  cases hb : p.all[call.context]? with
  | none =>
    rw [noted_eq_self fun _ _ _ => rfl]
    exact h
  | some b =>
    dsimp only
    cases hname : Builtin.ofName? call.name with
    | none =>
      rw [Builtins.call_of_unknown hname, noted_eq_self fun _ hsome => nomatch hname.symm.trans hsome]
      exact h.keeps (d := 0) hb rfl (.stays (congrArg System.openFiles (Builtins.fail_sys _)))
    | some builtin =>
      rw [Builtins.call_of_name hname]
      have hnumbered : (p.world.record Builtins.callRecord).sys.WellNumbered := h.numbered
      have hhandling := @Builtins.perform_handling builtin call.runtime call.args b _ hnumbered
      cases hhandling with
      | keeps hfailed htable hfiles =>
        rw [noted_eq_self fun builtin' hname' heither => hfailed
          (Option.some.inj (hname.symm.trans hname') ▸ heither)]
        exact h.keeps (d := 0) hb htable (.stays hfiles)
      | opens hbuiltin _ _ _ hfirst hlimit hfree hvalue htable hfiles =>
        subst hbuiltin
        have hbound := Nat.lt_of_lt_of_le hlimit hnumbered.limit
        rw [noted_opens hname hbound hvalue]
        · exact h.opens hb hfirst hfree htable hfiles
        · exact (System.file?_congr hfiles).trans (System.file?_setFile.trans (if_pos rfl))
      | closes hbuiltin hfound hvalue htable hsys =>
        subst hbuiltin
        obtain ⟨hhandle, hmem⟩ := HandleTable.find?_eq_some.mp hfound
        rw [noted_closes hname hvalue hhandle]
        exact h.closes hb hmem htable hsys
      | moves hopen hclose _ htable hmoves =>
        rw [noted_eq_self fun builtin' hname' heither =>
          absurd (Option.some.inj (hname.symm.trans hname') ▸ heither) (not_or.mpr ⟨hopen, hclose⟩)]
        exact h.keeps hb htable hmoves

/-! ## All calls -/

theorem Accounts.run (h : Accounts p opened) (calls : List Invocation) :
    Accounts (p.run opened calls).1 (p.run opened calls).2 := by
  induction calls generalizing p opened with
  | nil => exact h
  | cons call calls ih => exact ih (h.invoke call)

/-- What a call by a context `b` does in the light of what has been opened and not closed. -/
structure Obeys (p : Contexts) (opened : List Opening) (call : Invocation) (b : Builtins)
    (answer : Option Value) (after : Contexts) : Prop where
  /-- A file that is opened gets a handle that nobody has, and that had no file. -/
  opens : call.name = "file_open" → ∀ v, answer = some v → ∃ d name mode node tree,
    v = .int (Int64.ofNat d) ∧ p.world.sys.file? d = none ∧ (∀ b' ∈ p.all, d ∉ b'.table.handles) ∧
    call.args.textByName? "name" = some name ∧ call.args.textByName? "mode" = some mode ∧
    p.world.sys.openNode (utf8 name) (openOptions mode) newFileMode = .ok (node, tree) ∧
    after.world.sys.file? d = some ((openOptions mode).file node)
  serves : ∀ builtin : Builtin, builtin.takesHandle = true → call.name = builtin.name →
    ∀ e ∈ opened, e.context = call.context → (e.handle : Int) = (builtin.handle call.args).toInt →
      Builtins.Serves call.args p.world.sys e.handle builtin answer after.world.sys
  /-- Any other handle is refused with an error, and nothing is touched. -/
  refuses : ∀ builtin : Builtin, builtin.takesHandle = true → call.name = builtin.name →
    (∀ e ∈ opened, e.context = call.context → (e.handle : Int) ≠ (builtin.handle call.args).toInt) →
      answer = none ∧ after.all = p.all ∧ after.world.sys = p.world.sys ∧
        ∃ text, after.world = b.executor.error text (p.world.record Builtins.callRecord)
  /-- What the context has not opened itself stays as it is. -/
  keepsOthers : ∀ d file, (∀ e ∈ opened, e.context = call.context → e.handle ≠ d) →
    p.world.sys.file? d = some file → after.world.sys.file? d = some file

theorem Accounts.find?_of_opened (h : Accounts p opened) (hb : p.all[i]? = some b) {e : Opening}
    (he : e ∈ opened) (hcontext : e.context = i) {n : Int64} (hn : (e.handle : Int) = n.toInt) :
    b.table.find? n = some e.handle :=
  HandleTable.find?_eq_some.mpr ⟨hn.symm, (h.tables i b hb e.handle).mpr ⟨e, he, hcontext, rfl⟩⟩

theorem Accounts.find?_of_not_opened (h : Accounts p opened) (hb : p.all[i]? = some b) {n : Int64}
    (hn : ∀ e ∈ opened, e.context = i → (e.handle : Int) ≠ n.toInt) : b.table.find? n = none := by
  apply HandleTable.find?_eq_none
  intro d hd heq
  obtain ⟨e, he, hcontext, rfl⟩ := (h.tables i b hb d).mp hd
  exact hn e he hcontext heq.symm

theorem invoke_of_context (hb : p.all[call.context]? = some b) :
    let called := b.call call.name call.runtime call.args p.world
    p.invoke call = (called.value, { all := p.all.set call.context called.builtins, world := called.world }) := by
  unfold invoke
  rw [hb]

/-- A call by a context that there is not does nothing. -/
theorem invoke_of_no_context (hb : p.all[call.context]? = none) : p.invoke call = (none, p) := by
  unfold invoke
  rw [hb]

/-- A call by a context, seen from the descriptors of the others. -/
theorem Accounts.keepsOthers (h : Accounts p opened) (hb : p.all[call.context]? = some b)
    (hother : ∀ e ∈ opened, e.context = call.context → e.handle ≠ d)
    (hfile : p.world.sys.file? d = some file) :
    (b.call call.name call.runtime call.args p.world).world.sys.file? d = some file := by
  have hnotOwn : ∀ {n : Int64} {d'}, b.table.find? n = some d' → d ≠ d' := by
    rintro n d' hfound rfl
    obtain ⟨e, he, hcontext, rfl⟩ := (h.tables _ b hb d).mp (HandleTable.find?_eq_some.mp hfound).2
    exact hother e he hcontext rfl
  cases hname : Builtin.ofName? call.name with
  | none =>
    rw [Builtins.call_of_unknown hname, Builtins.fail_sys]
    exact hfile
  | some builtin =>
    rw [Builtins.call_of_name hname]
    have hnumbered : (p.world.record Builtins.callRecord).sys.WellNumbered := h.numbered
    cases @Builtins.perform_handling builtin call.runtime call.args b _ hnumbered with
    | keeps _ _ hfiles => exact (System.file?_congr hfiles).trans hfile
    | opens _ _ _ _ _ _ hfree _ _ hfiles =>
      rw [System.file?_congr hfiles, System.file?_setFile, if_neg]
      · exact hfile
      · rintro rfl
        exact nomatch hfile.symm.trans hfree
    | closes _ hfound _ _ hsys =>
      rw [hsys, System.file?_close, if_neg (hnotOwn hfound)]
      exact hfile
    | moves _ _ hfound _ hmoves => exact (hmoves.file?_of_ne (hnotOwn hfound)).trans hfile

theorem Accounts.obeys (h : Accounts p opened) (hb : p.all[call.context]? = some b) :
    Obeys p opened call b (p.invoke call).1 (p.invoke call).2 := by
  rw [invoke_of_context hb]
  dsimp only
  refine ⟨?_, ?_, ?_, fun d file => h.keepsOthers hb⟩
  · intro hname v hv
    have hopen : Builtin.ofName? call.name = some .fileOpen := hname ▸ Builtins.ofName?_name .fileOpen
    have hnumbered : (p.world.record Builtins.callRecord).sys.WellNumbered := h.numbered
    rw [Builtins.call_of_name hopen] at hv ⊢
    cases @Builtins.perform_handling .fileOpen call.runtime call.args b _ hnumbered with
    | keeps hfailed => exact nomatch (hfailed (.inl rfl)).symm.trans hv
    | @opens name mode d node tree _ hname hmode hnode _ _ hfree hvalue _ hfiles =>
      refine ⟨d, name, mode, node, tree, ?_, hfree, ?_, hname, hmode, hnode, ?_⟩
      · exact Option.some.inj (hv.symm.trans hvalue)
      · intro b' hb' hd
        obtain ⟨i, hi⟩ := List.mem_iff_getElem?.mp hb'
        obtain ⟨e, he, -, rfl⟩ := (h.tables i b' hi d).mp hd
        obtain ⟨offset, hfile⟩ := h.files e he
        exact nomatch hfree.symm.trans hfile
      · exact (System.file?_congr hfiles).trans (System.file?_setFile.trans (if_pos rfl))
    | closes hbuiltin => cases hbuiltin
    | moves hneither => exact absurd rfl hneither
  · intro builtin hbuiltin hname e he hcontext hhandle
    rw [Builtins.call_of_name (hname ▸ Builtins.ofName?_name builtin)]
    exact @Builtins.perform_serves _ call.runtime _ _ (p.world.record Builtins.callRecord) _ hbuiltin
      (h.find?_of_opened hb he hcontext hhandle)
  · intro builtin hbuiltin hname hunknown
    rw [Builtins.call_of_name (hname ▸ Builtins.ofName?_name builtin)]
    obtain ⟨text, htext⟩ := @Builtins.perform_unknown builtin call.runtime call.args b
      (p.world.record Builtins.callRecord) hbuiltin (h.find?_of_not_opened hb hunknown)
    rw [htext]
    refine ⟨rfl, ?_, Builtins.fail_sys text, text, rfl⟩
    obtain ⟨hlt, hget⟩ := List.getElem?_eq_some_iff.mp hb
    show p.all.set call.context b = p.all
    rw [← hget, List.set_getElem_self]

/-- Whatever contexts call, each has exactly the handles of the files that it has opened and not closed
since, each handle is still the descriptor of its file, and no two contexts have the same. A handle that
the context of a call has leads to its file, and any other is refused and leaves everything alone. -/
theorem contexts_account_for_files (hp : p.Fresh) (calls : List Invocation) :
    let q := (p.run [] calls).1
    let opened := (p.run [] calls).2
    (∀ i b, q.all[i]? = some b →
      ∀ d, d ∈ b.table.handles ↔ ∃ e ∈ opened, e.context = i ∧ e.handle = d) ∧
    (∀ e ∈ opened, ∃ offset, q.world.sys.file? e.handle = some { e.file with offset }) ∧
    (opened.Pairwise fun e e' => e.handle ≠ e'.handle) ∧
    ∀ call b, q.all[call.context]? = some b →
      Obeys q opened call b (q.invoke call).1 (q.invoke call).2 := by
  intro q opened
  have h : Accounts q opened := hp.accounts.run calls
  exact ⟨h.tables, h.files, h.apart, fun call b hb => h.obeys hb⟩

/-- Of two contexts, the first opens a file; the second cannot read it by the handle of the first. -/
theorem contexts_account_for_files_of_pair :
    let p : Contexts := { all := [{}, {}], world := Executor.toolWorld }
    let opening : Invocation :=
      { context := 0, name := "file_open", args := { named := [("mode", .str "w+"), ("name", .str "f")] } }
    let reading : Invocation :=
      { context := 1, name := "file_read", args := { named := [("fp", .int 32), ("length", .int 8)] } }
    let q := (p.run [] [opening]).1
    p.Fresh ∧ (∃ file, (p.run [] [opening]).2 = [⟨0, 32, file⟩]) ∧
      (q.invoke reading).1 = none ∧ (q.invoke reading).2.world.sys = q.world.sys := by
  intro p opening reading q
  have hfresh : p.Fresh := by
    refine ⟨⟨.nil, by decide, by decide⟩, ?_⟩
    intro b hb
    simp only [p, List.mem_cons, List.not_mem_nil, or_false, or_self] at hb
    rw [hb]
  have hanswer : (p.world.sys.openFile (utf8 "f") (openOptions "w+") newFileMode).toOption.map Prod.fst =
      some 32 := by
    show (p.world.sys.openFile (utf8 "f") { write := true, create := true, truncate := true }
      newFileMode).toOption.map Prod.fst = some 32
    cbv
  obtain ⟨sys, hopen⟩ : ∃ sys, p.world.sys.openFile (utf8 "f") (openOptions "w+") newFileMode =
      .ok (32, sys) := by
    cases hok : p.world.sys.openFile (utf8 "f") (openOptions "w+") newFileMode with
    | error cause =>
      rw [hok] at hanswer
      cases hanswer
    | ok opened =>
      rw [hok] at hanswer
      exact ⟨opened.2, congrArg Except.ok (Prod.ext (Option.some.inj hanswer) rfl)⟩
  obtain ⟨-, -, -, node, tree, -, rfl⟩ := System.openFile_ok hfresh.numbered hopen
  have hname : opening.args.textByName? "name" = some "f" := by cbv
  have hmode : opening.args.textByName? "mode" = some "w+" := by cbv
  have hcalled : (p.invoke opening).1 = some (.int 32) ∧
      (p.invoke opening).2.all = [{ table := { handles := [32] } }, {}] ∧
      (p.invoke opening).2.world.sys.file? 32 = some ((openOptions "w+").file node) := by
    have hcontext : p.all[opening.context]? = some ({} : Builtins) := rfl
    rw [invoke_of_context hcontext, Builtins.call_of_name rfl]
    simp only [Builtins.perform, Builtins.fileOpen, hname, hmode, World.record_sys, hopen]
    exact ⟨rfl, rfl, System.file?_setFile⟩
  obtain ⟨hvalue, hall, hfile⟩ := hcalled
  have hopened : (p.run [] [opening]).2 = [⟨0, 32, (openOptions "w+").file node⟩] := by
    show noted opening (p.invoke opening).1 (p.invoke opening).2 [] = _
    exact noted_opens rfl (by decide) hvalue hfile
  obtain ⟨-, -, -, hobeys⟩ := contexts_account_for_files hfresh [opening]
  have hsecond : q.all[1]? = some ({} : Builtins) := by
    show (p.invoke opening).2.all[1]? = _
    rw [hall]
    rfl
  have hrefused := (hobeys reading {} hsecond).refuses .fileRead rfl rfl
  rw [hopened] at hrefused
  obtain ⟨hnone, -, hsys, -⟩ := hrefused fun e he hcontext => by
    rw [List.mem_singleton.mp he] at hcontext
    cases hcontext
  exact ⟨hfresh, ⟨_, hopened⟩, hnone, hsys⟩

end Contexts

end ScriptExec
