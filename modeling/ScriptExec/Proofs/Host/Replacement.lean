-- SUMMARY: At every moment of a replacement the target has its old content or the whole of the new one.
import ScriptExec.Proofs.Host.Descriptors
import ScriptExec.Proofs.Host.Temporary

/-!
# Replacing files

`Replacement.Standing` says how far a replacement has come at each stage: its temporary file has the data that
was accepted so far, then all of it; at the end the entry of the target leads to that file, or the file
has no name any more. All steps keep this (`Replacement.Standing.step`), so it holds at every moment
(`Replacement.Moments`), and what others see then follows from it (`Replacement.Standing.observed`).
-/

namespace ScriptExec.Host

variable {sys sys' sys₀ : System} {target path : Path} {place : Place} {data : Bytes}

namespace System

/-- Nothing but the files and the answers that are left has changed. -/
def Frames (sys sys' : System) : Prop :=
  ∃ tree writeAnswers syncAnswers, sys' = { sys with tree, writeAnswers, syncAnswers }

theorem Frames.refl (sys : System) : Frames sys sys :=
  ⟨_, _, _, rfl⟩

theorem Frames.trans {sys'' : System} (h : Frames sys sys') (h' : Frames sys' sys'') : Frames sys sys'' := by
  obtain ⟨_, _, _, rfl⟩ := h
  obtain ⟨_, _, _, rfl⟩ := h'
  exact ⟨_, _, _, rfl⟩

theorem Frames.cwd (h : Frames sys sys') : sys'.cwd = sys.cwd := by
  obtain ⟨_, _, _, rfl⟩ := h
  rfl

theorem Frames.openFiles (h : Frames sys sys') : sys'.openFiles = sys.openFiles := by
  obtain ⟨_, _, _, rfl⟩ := h
  rfl

/-- A temporary file that is made while nothing but answers has been used up. -/
theorem Frames.made {temporary : Temporary} (h : Frames sys sys') (htree : sys'.tree = sys.tree) {sys'' : System}
    (hcreate : sys'.createTemporary target = .ok (temporary, sys'')) :
    sys.Made target temporary ∧ sys''.tree = sys.filesWith temporary [] := by
  obtain ⟨made, rfl⟩ := createTemporary_ok hcreate
  obtain ⟨_, _, _, rfl⟩ := h
  obtain rfl : _ = sys.tree := htree
  exact ⟨⟨made.drawn, made.dir, made.node⟩, rfl⟩

theorem answerWrite_tree (sys : System) (data : Bytes) : (sys.answerWrite data).2.tree = sys.tree := by
  unfold answerWrite
  split <;> rfl

theorem sync_tree (sys : System) : sys.sync.2.tree = sys.tree := by
  unfold sync
  split <;> rfl

/-- The next write does not fail if no write to come does. -/
theorem proceeds_answerWrite (h : ∀ answer ∈ sys.writeAnswers, answer.Proceeds) (hdata : data ≠ []) :
    (sys.answerWrite data).1.Proceeds ∧ ∀ answer ∈ (sys.answerWrite data).2.writeAnswers, answer.Proceeds := by
  unfold answerWrite
  split
  · exact ⟨List.length_pos_iff.mpr hdata, h⟩
  · rename_i answer answers hanswers
    rw [hanswers] at h
    exact ⟨h answer List.mem_cons_self, fun later hlater => h later (List.mem_cons_of_mem _ hlater)⟩

theorem fillTemporary_syncAnswers (sys : System) (temporary : Temporary) (bytes : Bytes) :
    (sys.fillTemporary temporary bytes).syncAnswers = sys.syncAnswers := by
  unfold fillTemporary
  split <;> rfl

end System

namespace Replacement

variable {stage : Stage} {tree : FileTree}

/-! ## Steps -/

theorem step_frames (target : Path) (data : Bytes) (stage : Stage) (sys : System) :
    sys.Frames (step target data stage sys).2 := by
  cases stage with
  | creating =>
    simp only [step]
    split
    · rename_i hcreate
      exact ⟨_, _, _, (System.createTemporary_ok hcreate).2⟩
    · exact .refl sys
  | filling temporary writing =>
    have hfill (sys : System) (bytes : Bytes) : sys.Frames (sys.fillTemporary temporary bytes) := by
      unfold System.fillTemporary
      split
      · exact ⟨_, _, _, rfl⟩
      · exact .refl sys
    simp only [step]
    split
    · split <;> exact .refl sys
    · refine System.Frames.trans ?_ (hfill _ _)
      unfold System.answerWrite
      split
      · exact .refl sys
      · exact ⟨_, _, _, rfl⟩
  | syncing temporary =>
    simp only [step, System.sync]
    split <;> rename_i hsync <;> split at hsync <;> cases hsync
    · exact ⟨_, _, _, rfl⟩
    · exact .refl sys
    · exact ⟨_, _, _, rfl⟩
  | committing temporary =>
    simp only [step]
    split
    · rename_i sys' hrename
      obtain ⟨place, tree, -, -, rfl⟩ := System.renameTemporary_ok hrename
      exact ⟨_, _, _, rfl⟩
    · exact .refl sys
  | discarding temporary e => exact ⟨_, _, _, rfl⟩
  | finished result => exact .refl sys

theorem run_frames (target : Path) (data : Bytes) (stage : Stage) (sys : System) :
    sys.Frames (run target data stage sys).2 := by
  fun_induction Replacement.run target data stage sys with
  | case1 stage sys => exact .refl sys
  | case2 stage sys hgoing ih => exact (step_frames target data stage sys).trans ih

/-- A file is replaced without a descriptor that stays open. -/
theorem replace_openFiles (target : Path) (data : Bytes) (sys : System) :
    (sys.replace target data).2.openFiles = sys.openFiles :=
  (run_frames target data .creating sys).openFiles

/-- The files at each stage of a replacement. -/
inductive Progress (sys₀ : System) (target : Path) (data : Bytes) : Stage → FileTree → Prop
  | creating : Progress sys₀ target data .creating sys₀.tree
  | filling {made writing} (h : sys₀.Made target made) (all : writing.bytes ++ writing.rest = data) :
      Progress sys₀ target data (.filling made writing) (sys₀.filesWith made writing.bytes)
  | syncing {made} (h : sys₀.Made target made) :
      Progress sys₀ target data (.syncing made) (sys₀.filesWith made data)
  | committing {made} (h : sys₀.Made target made) :
      Progress sys₀ target data (.committing made) (sys₀.filesWith made data)
  | discarding {made e written} (h : sys₀.Made target made) :
      Progress sys₀ target data (.discarding made e) (sys₀.filesWith made written)
  | failed {e files} (h : sys₀.tree.Untouched files) : Progress sys₀ target data (.finished (.error e)) files
  | replaced {at_ files} (located : sys₀.targetPlace target = .ok at_)
      (h : sys₀.tree.Replaced at_ data files) : Progress sys₀ target data (.finished (.ok ())) files

/-- How far a replacement has come. -/
structure Standing (sys₀ : System) (target : Path) (data : Bytes) (stage : Stage) (sys : System) : Prop where
  frame : sys₀.Frames sys
  progress : Progress sys₀ target data stage sys.tree

theorem Standing.step (h : Standing sys₀ target data stage sys) (hclosed : sys₀.tree.Closed)
    (hcwd : sys₀.cwd < sys₀.tree.nodes.length) :
    Standing sys₀ target data (step target data stage sys).1 (step target data stage sys).2 := by
  refine ⟨h.frame.trans (step_frames target data stage sys), ?_⟩
  have hprogress := h.progress
  generalize htree : sys.tree = tree at hprogress
  cases hprogress with
  | creating =>
    simp only [Replacement.step]
    split
    · rename_i temporary sys' hcreate
      obtain ⟨made, hfiles⟩ := h.frame.made htree hcreate
      rw [hfiles]
      exact .filling made rfl
    · rw [htree]
      exact .failed ⟨fun _ _ => rfl, fun _ _ => rfl⟩
  | @filling temporary writing made all =>
    simp only [Replacement.step]
    split
    · rename_i hdone
      split
      · rw [htree]
        exact .discarding made
      · rename_i hfailure
        rw [htree, Writing.bytes_of_done all hdone hfailure]
        exact .syncing made
    · dsimp only
      rw [made.fillTemporary ((System.answerWrite_tree _ _).trans htree)]
      exact .filling made ((writing.bytes_take _).trans all)
  | @syncing temporary made =>
    have hsynced := sys.sync_tree
    simp only [Replacement.step]
    split <;> rename_i hsync <;> rw [hsync] at hsynced <;> dsimp only at hsynced ⊢ <;>
      rw [hsynced, htree]
    · exact .discarding made
    · exact .committing made
  | @committing temporary made =>
    simp only [Replacement.step]
    split
    · rename_i sys' hrename
      obtain ⟨place, hplace, hreplaced⟩ := made.renameTemporary hclosed hcwd htree h.frame.cwd hrename
      exact .replaced hplace hreplaced
    · rw [htree]
      exact .discarding made
  | discarding made => exact .failed (made.discardTemporary htree)
  | failed hsame => exact .failed (htree ▸ hsame)
  | replaced hplace hreplaced => exact .replaced hplace (htree ▸ hreplaced)

/-! ## Whole replacements -/

/-- The moments of a replacement: where it stands, and the system between two steps. -/
inductive Moments (sys₀ : System) (target : Path) (data : Bytes) : Stage → System → Prop
  | start : Moments sys₀ target data .creating sys₀
  | next {at_ now} (h : Moments sys₀ target data at_ now) :
      Moments sys₀ target data (step target data at_ now).1 (step target data at_ now).2

theorem Moments.standing (h : Moments sys₀ target data stage sys) (hclosed : sys₀.tree.Closed)
    (hcwd : sys₀.cwd < sys₀.tree.nodes.length) : Standing sys₀ target data stage sys := by
  induction h with
  | start => exact ⟨.refl sys₀, .creating⟩
  | next _ ih => exact ih.step hclosed hcwd

/-- A replacement ends in one of its moments. -/
theorem Moments.run (h : Moments sys₀ target data stage sys) :
    Moments sys₀ target data (.finished (run target data stage sys).1) (run target data stage sys).2 := by
  fun_induction Replacement.run target data stage sys with
  | case1 stage sys result hresult =>
    cases stage with
    | finished last =>
      obtain rfl := Option.some.inj hresult
      exact h
    | _ => cases hresult
  | case2 stage sys hgoing ih => exact ih h.next

/-- The target has got new content: its entry has changed and no other one has, and it reads as that content.
Its path does so too, unless it went on from a symbolic link that is no more. -/
structure Installed (sys₀ : System) (target : Path) (data : Bytes) (at_ : Place) (tree : FileTree) : Prop where
  located : sys₀.targetPlace target = .ok at_
  replaced : sys₀.tree.Replaced at_ data tree
  reads : ∀ reader : System, reader.cwd = sys₀.cwd → reader.freeDescriptor?.isSome = true →
    { reader with tree }.readFile target = .ok data ∨
      sys₀.tree.IsLink at_ ∧ { reader with tree }.readFile target = .error .notDirectory

/-- How a replacement ends: everything is as it was, or the target has its new content. -/
inductive Outcome (sys₀ : System) (target : Path) (data : Bytes) : Except ReplaceError Unit → FileTree → Prop
  | failed {e files} (h : sys₀.tree.Untouched files) : Outcome sys₀ target data (.error e) files
  | replaced {at_ files} (h : Installed sys₀ target data at_ files) : Outcome sys₀ target data (.ok ()) files

/-- What others see at a moment of a replacement. A path that uses the name drawn for the temporary file is left
out; that of the target does not. -/
structure Observed (sys₀ : System) (target : Path) (data : Bytes) (stage : Stage) (tree : FileTree) :
    Prop where
  /-- Until the replacement has succeeded, a reader gets what it would have got before. -/
  old : stage ≠ .finished (.ok ()) → ∀ (reader : System) (path : Path),
    reader.cwd < sys₀.tree.nodes.length →
    (∀ name, sys₀.freshName target = some name → name ∉ path.segments) →
    { reader with tree }.readFile path = { reader with tree := sys₀.tree }.readFile path
  /-- A reader gets what it would have got before, or all of the new content. -/
  whole : ∀ (reader : System) (path : Path), reader.cwd < sys₀.tree.nodes.length →
    (∀ name, sys₀.freshName target = some name → name ∉ path.segments) →
    System.Glimpse (∃ at_, sys₀.targetPlace target = .ok at_ ∧ sys₀.tree.IsLink at_) data
      ({ reader with tree := sys₀.tree }.readFile path) ({ reader with tree }.readFile path)
  /-- Whoever has a file open reads on as before. -/
  handles : ∀ (reader : System) (d : Nat) (file : OpenFile), reader.file? d = some file →
    file.node < sys₀.tree.nodes.length → ∀ n,
    ({ reader with tree }.read d n).map Prod.fst = ({ reader with tree := sys₀.tree }.read d n).map Prod.fst

section

variable (hclosed : sys₀.tree.Closed) (hcwd : sys₀.cwd < sys₀.tree.nodes.length)
include hclosed hcwd

theorem installed (hplace : sys₀.targetPlace target = .ok place) (h : sys₀.tree.Replaced place data tree) :
    Installed sys₀ target data place tree := by
  obtain ⟨hreached, hbare, -⟩ := System.targetPlace_ok.mp hplace
  refine ⟨hplace, h, fun reader hsame hfree => ?_⟩
  have hpath : System.checkPath target = .ok () := System.checkPath_of_locate hreached
  rw [System.readFile_through, hpath, hfree, hsame]
  show (tree.locate sys₀.cwd true target).bind tree.readPlace = .ok data ∨
    _ ∧ (tree.locate sys₀.cwd true target).bind tree.readPlace = .error .notDirectory
  rcases h.locate_target hclosed hcwd hreached hbare true with hfile | ⟨hlink, hbarred⟩
  · left
    rw [hfile]
    exact System.readPlace_file h
  · right
    rw [hbarred]
    exact ⟨hlink, rfl⟩

theorem Standing.outcome {result : Except ReplaceError Unit}
    (h : Standing sys₀ target data (.finished result) sys) : Outcome sys₀ target data result sys.tree := by
  have hprogress := h.progress
  generalize sys.tree = tree at hprogress
  cases hprogress with
  | failed hsame => exact .failed hsame
  | replaced hplace hreplaced => exact .replaced (installed hclosed hcwd hplace hreplaced)

end

/-! ## Success -/

/-- Nothing stands in the way of a replacement: a temporary file can be made, no write nor bringing the file to the
disk fails, and the target's entry may be changed and is not that of a directory. -/
structure Unhindered (sys : System) (target : Path) : Prop where
  creates : ∃ made, sys.createTemporary target = .ok made
  writes : ∀ answer ∈ sys.writeAnswers, answer.Proceeds
  syncs : sys.syncAnswers.headD none = none
  renames : ∃ place, sys.targetPlace target = .ok place ∧ sys.tree.checkWritable place.dir = .ok () ∧
    ∀ node, place.node.bind sys.tree.node? = some node → node.isDirectory = false

/-- Nothing has failed so far, and no call to come before the renaming will. -/
def Smooth (target : Path) : Stage → System → Prop
  | .creating, sys => (∃ made, sys.createTemporary target = .ok made) ∧
      (∀ answer ∈ sys.writeAnswers, answer.Proceeds) ∧ sys.syncAnswers.headD none = none
  | .filling _ writing, sys => writing.failure = none ∧
      (∀ answer ∈ sys.writeAnswers, answer.Proceeds) ∧ sys.syncAnswers.headD none = none
  | .syncing _, sys => sys.syncAnswers.headD none = none
  | .committing _, _ => True
  | .discarding _ _, _ => False
  | .finished result, _ => result = .ok ()

theorem Smooth.step (h : Smooth target stage sys) (hstanding : Standing sys₀ target data stage sys)
    (hfree : Unhindered sys₀ target) (hclosed : sys₀.tree.Closed)
    (hcwd : sys₀.cwd < sys₀.tree.nodes.length) :
    Smooth target (Replacement.step target data stage sys).1 (Replacement.step target data stage sys).2 := by
  cases stage with
  | creating =>
    obtain ⟨⟨⟨made, sys'⟩, hcreate⟩, hwrites, hsync⟩ := h
    have hmade := (System.createTemporary_ok hcreate).2
    simp only [Replacement.step, hcreate]
    rw [hmade]
    exact ⟨rfl, hwrites, hsync⟩
  | filling temporary writing =>
    obtain ⟨hfailure, hwrites, hsync⟩ := h
    simp only [Replacement.step]
    split
    · rw [hfailure]
      exact hsync
    · rename_i hgoing
      have hgoing := Bool.eq_false_iff.mpr hgoing
      obtain ⟨hanswer, hleft⟩ := System.proceeds_answerWrite hwrites (Writing.rest_ne_nil hgoing)
      have hsyncs : (sys.answerWrite writing.rest).2.syncAnswers = sys.syncAnswers := by
        unfold System.answerWrite
        split <;> rfl
      refine ⟨Writing.failure_take hgoing hfailure hanswer, ?_, ?_⟩
      · rw [fillTemporary_writeAnswers]
        exact hleft
      · rw [System.fillTemporary_syncAnswers, hsyncs]
        exact hsync
  | syncing temporary =>
    have hnone : sys.sync.1 = none := by
      have hsync : sys.syncAnswers.headD none = none := h
      unfold System.sync
      cases hanswers : sys.syncAnswers with
      | nil => rfl
      | cons answer answers =>
        rw [hanswers] at hsync
        exact hsync
    simp only [Replacement.step]
    split <;> rename_i hsync <;> rw [hsync] at hnone
    · cases hnone
    · trivial
  | committing temporary =>
    obtain ⟨place, hplace, hwritable, hfile⟩ := hfree.renames
    have hprogress := hstanding.progress
    generalize htree : sys.tree = tree at hprogress
    cases hprogress with
    | committing made =>
      obtain ⟨sys', hrename⟩ := made.exists_renameTemporary hclosed hcwd htree hstanding.frame.cwd hplace
        hwritable hfile
      simp only [Replacement.step, hrename]
      rfl
  | discarding temporary e => exact h.elim
  | finished result => exact h

/-- A replacement that nothing stands in the way of succeeds. -/
theorem Moments.smooth (h : Moments sys₀ target data stage sys) (hfree : Unhindered sys₀ target)
    (hclosed : sys₀.tree.Closed) (hcwd : sys₀.cwd < sys₀.tree.nodes.length) : Smooth target stage sys := by
  induction h with
  | start => exact ⟨hfree.creates, hfree.writes, hfree.syncs⟩
  | next h ih => exact ih.step (h.standing hclosed hcwd) hfree hclosed hcwd

/-! ## What others see -/

/-- The entries of the name that is drawn for the temporary file are all that can have changed until the target
is replaced. -/
theorem Progress.preserved (h : Progress sys₀ target data stage tree) (hstage : stage ≠ .finished (.ok ())) :
    sys₀.tree.Preserved tree fun _ name => sys₀.freshName target = some name := by
  have hunder {made : Temporary} {written : Bytes} (h : sys₀.Made target made) :
      sys₀.tree.Preserved (sys₀.filesWith made written) fun _ name => sys₀.freshName target = some name := by
    have hone := h.preserved written
    refine ⟨⟨hone.shape, fun dir name hother => hone.entry dir name ?_⟩, hone.files⟩
    rintro ⟨-, rfl⟩
    exact hother h.drawn
  cases h with
  | creating => exact FileTree.Untouched.preserved ⟨fun _ _ => rfl, fun _ _ => rfl⟩ _
  | filling made | syncing made | committing made | discarding made => exact hunder made
  | failed hsame => exact hsame.preserved _
  | replaced => exact absurd rfl hstage

theorem Standing.observed (h : Standing sys₀ target data stage sys) (hclosed : sys₀.tree.Closed) :
    Observed sys₀ target data stage sys.tree := by
  have hprogress := h.progress
  generalize sys.tree = tree at hprogress
  have hold (hstage : stage ≠ .finished (.ok ())) (reader : System) (path : Path)
      (hcwd : reader.cwd < sys₀.tree.nodes.length)
      (hpath : ∀ name, sys₀.freshName target = some name → name ∉ path.segments) :
      { reader with tree }.readFile path = { reader with tree := sys₀.tree }.readFile path := by
    have hpreserved := hprogress.preserved hstage
    refine System.readFile_of_preserved hpreserved hclosed hcwd ?_
    refine hpreserved.locate_of_fresh hclosed hcwd (fun _ name hname => ?_) true
    exact ⟨(System.freshName_some hname).1, hpath name hname⟩
  have hkept : ∃ changed, sys₀.tree.Preserved tree changed := by
    by_cases hstage : stage = .finished (.ok ())
    · subst hstage
      cases hprogress with
      | replaced _ hreplaced => exact ⟨_, hreplaced.toPreserved⟩
    · exact ⟨_, hprogress.preserved hstage⟩
  refine ⟨hold, fun reader path hcwd hpath => ?_, fun reader d file hfile hnode n => ?_⟩
  · by_cases hstage : stage = .finished (.ok ())
    · subst hstage
      cases hprogress with
      | replaced hplace hreplaced =>
        have hglimpse := System.readFile_of_replaced hreplaced hclosed hcwd path
        exact hglimpse.imp fun hlink => ⟨_, hplace, hlink⟩
    · rw [hold hstage reader path hcwd hpath]
      exact .old
  · obtain ⟨changed, hpreserved⟩ := hkept
    have hread (tree : FileTree) : ({ reader with tree }.read d n).map Prod.fst =
        if file.readable then System.readNode tree file.node file.offset n else .error .badDescriptor := by
      have hthere : ({ reader with tree } : System).file? d = some file := hfile
      simp only [System.read, hthere, bind, Except.bind, pure, Except.pure]
      cases file.readable with
      | false => rfl
      | true =>
        simp only [Bool.not_true, Bool.false_eq_true, if_false, if_true]
        cases System.readNode tree file.node file.offset n <;> rfl
    rw [hread, hread, hpreserved.readNode hnode]

end Replacement

end ScriptExec.Host
