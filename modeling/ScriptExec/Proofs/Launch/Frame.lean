-- SUMMARY: What the calls of a launch leave as it is: views of the world that calls keep.
import ScriptExec.Proofs.Launch.Step

/-!
# Frames of launches

A view is something that can be observed of the world. `Collaborators.KeepsEarly` says that the calls
before the command's directory is entered keep a view, `Collaborators.Keeps` that all calls keep it but
those that are there to change the directory, the guard's slot, or the errors reported. What a launch does
about its directory comes down to changes of directory (`move_ok`, `restore_ok`).
-/

namespace ScriptExec

variable {σ κ α : Type}

structure Collaborators.KeepsEarly (c : Collaborators σ κ) (view : σ → α) : Prop where
  log : ∀ record w, view (c.log record w) = view w
  becomeUser : ∀ user w, view (c.becomeUser user w).2 = view w
  find : ∀ name w, view (c.find name w).2 = view w

structure Collaborators.Keeps (c : Collaborators σ κ) (view : σ → α) : Prop
    extends Collaborators.KeepsEarly c view where
  spawn : ∀ plan w, view (c.spawn plan w).2 = view w
  outputs : ∀ chunk child w, view (c.outputs chunk child w).2 = view w
  warn : ∀ text w, view (c.warn text w) = view w

namespace Launch

variable {c : Collaborators σ κ} {launcher : Launcher} {req : Request} {view : σ → α} {w w' : σ}

theorem switchUser_keeps (hview : c.KeepsEarly view) {answer : Except ExecError Unit}
    (h : switchUser c launcher req w = (answer, w')) : view w' = view w := by
  obtain rfl : w' = _ := (congrArg Prod.snd h).symm
  unfold switchUser
  cases req.user with
  | none => rfl
  | some user =>
    have hbecome := hview.becomeUser user w
    dsimp only
    split
    · exact hview.log _ w
    · split <;> rename_i heq <;> rw [heq] at hbecome <;> exact hbecome

theorem locate_keeps (hview : c.KeepsEarly view) {answer : Except ExecError Path}
    (h : locate c launcher req w = (answer, w')) : view w' = view w := by
  have hfind := hview.find req.cmd w
  obtain rfl : w' = _ := (congrArg Prod.snd h).symm
  unfold locate
  split
  · split
    · rfl
    · split <;> rename_i heq <;> rw [heq] at hfind <;> exact hfind
  · split
    · rfl
    · split <;> rename_i heq <;> rw [heq] at hfind <;> exact hfind

theorem save_answer {saved : Except IoError Path}
    (h : DirectoryContext.save c.toDirectories w = (saved, w')) : saved = c.current w := by
  obtain rfl : saved = _ := (congrArg Prod.fst h).symm
  unfold DirectoryContext.save
  cases c.current w <;> rfl

theorem save_keeps (hview : c.KeepsEarly view) {saved : Except IoError Path}
    (h : DirectoryContext.save c.toDirectories w = (saved, w')) : view w' = view w := by
  obtain rfl : w' = _ := (congrArg Prod.snd h).symm
  unfold DirectoryContext.save
  cases c.current w with
  | ok dir => rfl
  | error cause => exact hview.log _ w

/-- Who has entered a directory has changed to it, and is in a context that goes back to what was
saved. -/
theorem move_ok {saved : Except IoError Path} {target : Path} {context : DirectoryContext}
    (h : DirectoryContext.move c.toDirectories saved target w = (.ok context, w')) :
    ∃ v, c.change target w = (.ok (), v) ∧ context = ⟨saved.toOption, target, false⟩ ∧
      w' = c.log (DirectoryContext.record .debug "dir" "changed working directory") v := by
  unfold DirectoryContext.move at h
  split at h
  · simp at h
  · rename_i v hchange
    simp only [Prod.mk.injEq, Except.ok.injEq] at h
    exact ⟨v, hchange, h.1.symm, h.2.symm⟩

theorem move_error {saved : Except IoError Path} {target : Path} {e : ExecError}
    (h : DirectoryContext.move c.toDirectories saved target w = (.error e, w')) :
    ∃ cause, c.change target w = (.error cause, w') ∧ e = .directory target cause := by
  unfold DirectoryContext.move at h
  split at h
  · rename_i cause v hchange
    simp only [Prod.mk.injEq, Except.error.injEq] at h
    exact ⟨cause, by rw [hchange, h.2], h.1.symm⟩
  · simp at h

/-- Leaving a context that saved nothing does nothing. -/
theorem restore_unsaved {context : DirectoryContext} (hsaved : context.saved = none) :
    context.restore c.toDirectories w = (.ok (), { context with restored := true }, w) := by
  unfold DirectoryContext.restore
  rw [hsaved]
  split <;> rfl

/-- Leaving a context for the first time is one change to the directory that it saved. -/
theorem restore_ok {context done : DirectoryContext} {dir : Path} (hsaved : context.saved = some dir)
    (hfirst : context.restored = false)
    (h : context.restore c.toDirectories w = (.ok (), done, w')) :
    ∃ v, c.change dir w = (.ok (), v) ∧
      w' = c.log (DirectoryContext.record .debug "dir" "restored working directory") v := by
  simp only [DirectoryContext.restore, hsaved, hfirst, Bool.false_eq_true, if_false] at h
  split at h
  · simp at h
  · rename_i v hchange
    simp only [Prod.mk.injEq] at h
    exact ⟨v, hchange, h.2.2.symm⟩

theorem restore_error {context done : DirectoryContext} {dir : Path} {cause : IoError}
    (h : context.restore c.toDirectories w = (.error (dir, cause), done, w')) :
    context.saved = some dir ∧ c.change dir w = (.error cause, w') := by
  unfold DirectoryContext.restore at h
  split at h
  · simp at h
  · split at h
    · simp at h
    · rename_i path hsaved
      split at h
      · rename_i cause' v hchange
        simp only [Prod.mk.injEq, Except.error.injEq] at h
        obtain ⟨⟨rfl, rfl⟩, -, rfl⟩ := h
        exact ⟨hsaved, hchange⟩
      · simp at h

/-- Leaving a context keeps what every change of directory keeps. -/
theorem restore_keeps (hview : c.KeepsEarly view)
    (hchange : ∀ path w, view (c.change path w).2 = view w) {context done : DirectoryContext}
    {answer : Except (Path × IoError) Unit}
    (h : context.restore c.toDirectories w = (answer, done, w')) : view w' = view w := by
  obtain rfl : w' = _ := (congrArg (fun x => x.2.2) h).symm
  unfold DirectoryContext.restore
  split
  · rfl
  · cases context.saved with
    | none => rfl
    | some dir =>
      have hdir := hchange dir w
      dsimp only
      split <;> rename_i heq <;> rw [heq] at hdir
      · exact hdir
      · exact (hview.log _ _).trans hdir

theorem logAll_keeps (hview : c.KeepsEarly view) (records : List Log.Record) (w : σ) :
    view (records.foldl (fun w record => c.log record w) w) = view w := by
  induction records generalizing w with
  | nil => rfl
  | cons record records ih => exact (ih _).trans (hview.log record w)

end Launch

end ScriptExec
