-- SUMMARY: Directory contexts step by step: each goes back at most once, and nested ones lead back.
import Mathlib
import ScriptExec.Proofs.Executor.Spawning
import ScriptExec.WorkingDirectory

/-!
# Directory contexts

A process may have entered any number of directories, and may leave them in any order, by restoring a
context or by dropping it. Contexts are known by their numbers, in the order in which they were made
(`Excursions`). Between the steps the world may change. A context goes back once, when it is left, and to
what it has saved (`returns_of_held`). If the last one entered is always the first one left, and all that
was saved can still be entered, then the one left last leads back to where the process began
(`Nested.comes_back`).
-/

namespace ScriptExec

variable {σ δ : Type}

/-- The contexts that were made, with those gone that have been left, and the world. -/
structure Excursions (σ : Type) where
  contexts : List (Option DirectoryContext)
  world : σ

namespace Excursions

inductive Step (σ : Type)
  | enter (target : Path)
  /-- Restores a context. What is left of it is dropped. -/
  | restore (i : Nat)
  | drop (i : Nat)
  /-- Something else happens. -/
  | meanwhile (change : σ → σ)

/-- The context that a step leaves. -/
def Step.leaves? : Step σ → Option Nat
  | .restore i | .drop i => some i
  | .enter _ | .meanwhile _ => none

theorem Step.eq_of_leaves {step : Step σ} {i : Nat} (h : step.leaves? = some i) :
    step = .restore i ∨ step = .drop i := by
  cases step <;> simp_all [leaves?]

/-- Restores a context and drops what is left of it. -/
def giveBack (dirs : Directories σ) (context : DirectoryContext) (w : σ) : σ :=
  let (_, done, w) := context.restore dirs w
  done.drop dirs w

/-- Leaves a context that is there. -/
def leave (i : Nat) (back : DirectoryContext → σ → σ) (s : Excursions σ) : Excursions σ :=
  match s.contexts[i]? with
  | some (some context) => ⟨s.contexts.set i none, back context s.world⟩
  | _ => s

def perform (dirs : Directories σ) (s : Excursions σ) : Step σ → Excursions σ
  | .enter target =>
    match DirectoryContext.enter dirs target s.world with
    | (.error _, w) => { s with world := w }
    | (.ok (context, _), w) => ⟨s.contexts ++ [some context], w⟩
  | .restore i => s.leave i (giveBack dirs)
  | .drop i => s.leave i (DirectoryContext.drop dirs)
  | .meanwhile change => { s with world := change s.world }

def run (dirs : Directories σ) (steps : List (Step σ)) (s : Excursions σ) : Excursions σ :=
  steps.foldl (perform dirs) s

/-! ## Changes of directory -/

end Excursions

/-- A change of directory and its answer. -/
abbrev Directories.Change := Path × Except IoError Unit

/-- Directories that note every change, the last one at the end. -/
def Directories.traced (dirs : Directories σ) : Directories (σ × List Directories.Change) where
  current s := dirs.current s.1
  change path s :=
    let (answer, w) := dirs.change path s.1
    (answer, w, s.2 ++ [(path, answer)])
  log record s := (dirs.log record s.1, s.2)

namespace Excursions

/-- A step in a world with notes, which only changes of directory add to. -/
def Step.traced : Step σ → Step (σ × List Directories.Change)
  | .enter target => .enter target
  | .restore i => .restore i
  | .drop i => .drop i
  | .meanwhile change => .meanwhile (Prod.map change id)

/-- The changes of directory that a step makes. -/
def changes (dirs : Directories σ) (s : Excursions σ) (step : Step σ) : List Directories.Change :=
  (perform dirs.traced ⟨s.contexts, s.world, []⟩ step.traced).world.2

/-- The changes of directory that some steps make to leave a context. -/
def returns (dirs : Directories σ) (i : Nat) : List (Step σ) → Excursions σ → List Directories.Change
  | [], _ => []
  | step :: steps, s =>
    (if step.leaves? = some i then changes dirs s step else []) ++ returns dirs i steps (perform dirs s step)

/-! ## Nested excursions -/

/-- A process goes some steps in which the last context entered is the first one left. `away` are the
contexts that are to be left, the last one entered first, with the directories they were entered from.
Working directories can be read, and the path that a context has saved still names where it came from. -/
inductive Nested (dirs : Directories σ) (cwd : σ → δ) :
    List (Nat × δ) → List (Step σ) → Excursions σ → Prop
  | home {s} : Nested dirs cwd [] [] s
  | enter {away target steps s path context unsaved}
      (hnoted : dirs.current s.world = .ok path)
      (henter : (DirectoryContext.enter dirs target s.world).1 = .ok (context, unsaved))
      (hrest : Nested dirs cwd ((s.contexts.length, cwd s.world) :: away) steps
        (perform dirs s (.enter target))) :
      Nested dirs cwd away (.enter target :: steps) s
  | stay {away target steps s path e}
      (hnoted : dirs.current s.world = .ok path)
      (hfail : (DirectoryContext.enter dirs target s.world).1 = .error e)
      (hrest : Nested dirs cwd away steps (perform dirs s (.enter target))) :
      Nested dirs cwd away (.enter target :: steps) s
  | leave {away step steps s i origin}
      (hlast : step.leaves? = some i)
      (hback : ∀ context path, s.contexts[i]? = some (some context) → context.saved = some path →
        ∃ w, dirs.change path s.world = (.ok (), w) ∧ cwd w = origin)
      (hrest : Nested dirs cwd away steps (perform dirs s step)) :
      Nested dirs cwd ((i, origin) :: away) (step :: steps) s
  | meanwhile {away change steps s}
      (hstays : cwd (change s.world) = cwd s.world)
      (hrest : Nested dirs cwd away steps (perform dirs s (.meanwhile change))) :
      Nested dirs cwd away (.meanwhile change :: steps) s

end Excursions

/-! ## Entering and leaving -/

namespace DirectoryContext

variable {dirs : Directories σ} {target : Path} {w w' : σ} {context : DirectoryContext}

/-- Dropping a context that has been restored, or was tried to be, does nothing. -/
theorem giveBack_eq (dirs : Directories σ) (context : DirectoryContext) (w : σ) :
    Excursions.giveBack dirs context w = (context.restore dirs w).2.2 := by
  have hdone : (context.restore dirs w).2.1.restored = true := by
    unfold restore
    dsimp only
    split
    · rfl
    · split
      · rfl
      · split <;> rfl
  simp only [Excursions.giveBack, drop, restore_of_restored dirs hdone]

theorem save_eq (dirs : Directories σ) (w : σ) :
    ∃ records : List Log.Record,
      save dirs w = (dirs.current w, records.foldl (fun w record => dirs.log record w) w) := by
  unfold save
  cases dirs.current w with
  | ok path => exact ⟨[], rfl⟩
  | error cause => exact ⟨[_], rfl⟩

/-- Who has failed to enter a directory has failed to change to it. -/
theorem enter_error {e : ExecError} (h : (enter dirs target w).1 = .error e) :
    ∃ (records : List Log.Record) (cause : IoError),
      dirs.change target (records.foldl (fun w record => dirs.log record w) w) =
        (.error cause, (enter dirs target w).2) ∧ e = .directory target cause := by
  obtain ⟨records, hsave⟩ := save_eq dirs w
  refine ⟨records, ?_⟩
  simp only [enter, hsave, move] at h ⊢
  rcases hchange : dirs.change target _ with ⟨cause | _, v⟩ <;> simp only [hchange] at h ⊢
  · exact ⟨cause, rfl, (Except.error.inj h).symm⟩
  · cases h

/-- Who has entered a directory is in a context that has noted the working directory, if it could be
read, and that has not been restored. -/
theorem enter_ok {unsaved : Option IoError} (h : (enter dirs target w).1 = .ok (context, unsaved)) :
    context = ⟨(dirs.current w).toOption, target, false⟩ := by
  obtain ⟨records, hsave⟩ := save_eq dirs w
  simp only [enter, hsave, move] at h
  rcases hchange : dirs.change target _ with ⟨cause | _, v⟩ <;> rw [hchange] at h
  · cases h
  · exact (Prod.mk.inj (Except.ok.inj h)).1.symm

theorem restore_of_change {path : Path} (hsaved : context.saved = some path)
    (hfirst : context.restored = false) (hback : dirs.change path w = (.ok (), w')) :
    context.restore dirs w = (.ok (), { context with restored := true },
      dirs.log (record .debug "dir" "restored working directory") w') := by
  simp only [restore, hfirst, hsaved, hback, Bool.false_eq_true, if_false]

theorem drop_of_change {path : Path} (hsaved : context.saved = some path) (hfirst : context.restored = false)
    (hback : dirs.change path w = (.ok (), w')) :
    context.drop dirs w = dirs.log (record .debug "dir" "restored working directory") w' := by
  simp only [drop, restore_of_change hsaved hfirst hback]

/-- Going back for the first time is one change to what was saved. -/
theorem restore_changes (dirs : Directories σ) (hfirst : context.restored = false) (w : σ)
    (notes : List Directories.Change) :
    (context.restore dirs.traced (w, notes)).2.2.2.map Prod.fst =
      notes.map Prod.fst ++ context.saved.toList := by
  unfold restore
  rw [if_neg (by simp [hfirst])]
  cases context.saved with
  | none => exact (List.append_nil _).symm
  | some path =>
    dsimp only
    split <;> rename_i hchange
    all_goals
      simp only [Directories.traced, Prod.mk.injEq] at hchange
      simp [← hchange.2, Directories.traced]

theorem restore_traced (dirs : Directories σ) (context : DirectoryContext) (s : σ × List Directories.Change) :
    (context.restore dirs.traced s).1 = (context.restore dirs s.1).1 ∧
      (context.restore dirs.traced s).2.2.1 = (context.restore dirs s.1).2.2 := by
  unfold restore
  cases context.restored with
  | true => exact ⟨rfl, rfl⟩
  | false =>
    cases context.saved with
    | none => exact ⟨rfl, rfl⟩
    | some path =>
      rcases hchange : dirs.change path s.1 with ⟨cause | _, w⟩ <;> simp [Directories.traced, hchange]

theorem drop_traced (dirs : Directories σ) (context : DirectoryContext) (s : σ × List Directories.Change) :
    (context.drop dirs.traced s).1 = context.drop dirs s.1 := by
  obtain ⟨hanswer, hworld⟩ := restore_traced dirs context s
  unfold drop
  rcases htraced : context.restore dirs.traced s with ⟨answer | _, done, s'⟩ <;>
    rcases h : context.restore dirs s.1 with ⟨answer' | _, done', w⟩ <;>
    simp_all [Directories.traced]

theorem enter_traced (dirs : Directories σ) (target : Path) (s : σ × List Directories.Change) :
    (enter dirs.traced target s).1 = (enter dirs target s.1).1 ∧
      (enter dirs.traced target s).2.1 = (enter dirs target s.1).2 := by
  have htraced : save dirs.traced s = ((save dirs s.1).1, (save dirs s.1).2, s.2) := by
    unfold save
    cases h : dirs.current s.1 <;> simp [Directories.traced, h]
  simp only [enter, move, htraced]
  rcases hchange : dirs.change target (save dirs s.1).2 with ⟨cause | _, w⟩ <;>
    simp [Directories.traced, hchange]

theorem drop_changes (dirs : Directories σ) (context : DirectoryContext) (s : σ × List Directories.Change) :
    (context.drop dirs.traced s).2 = (context.restore dirs.traced s).2.2.2 := by
  unfold drop
  split <;> rename_i hrestore <;> rw [hrestore]
  rfl

end DirectoryContext

namespace Excursions

variable {dirs : Directories σ} {cwd : σ → δ} {s : Excursions σ} {step : Step σ} {i : Nat}
  {slot : Option DirectoryContext} {context : DirectoryContext}

/-- What leaving a context comes to: it is gone, and has gone back. -/
theorem perform_leaves (dirs : Directories σ) (hleaves : step.leaves? = some i)
    (hheld : s.contexts[i]? = some (some context)) :
    perform dirs s step = ⟨s.contexts.set i none, (context.restore dirs s.world).2.2⟩ ∨
      perform dirs s step = ⟨s.contexts.set i none, context.drop dirs s.world⟩ := by
  obtain rfl | rfl := Step.eq_of_leaves hleaves
  · simp only [perform, leave, hheld, DirectoryContext.giveBack_eq, true_or]
  · simp only [perform, leave, hheld, or_true]

/-- A step leaves all contexts as they are but the one that it is about. -/
theorem perform_keeps (hother : step.leaves? ≠ some i) (hslot : s.contexts[i]? = some slot) :
    (perform dirs s step).contexts[i]? = some slot := by
  have hleave : ∀ (j : Nat) (back : DirectoryContext → σ → σ), j ≠ i →
      (s.leave j back).contexts[i]? = some slot := by
    intro j back hne
    unfold leave
    split
    · rw [List.getElem?_set_ne hne, hslot]
    · exact hslot
  cases step with
  | restore j => exact hleave j _ fun heq => hother (congrArg some heq)
  | drop j => exact hleave j _ fun heq => hother (congrArg some heq)
  | meanwhile change => exact hslot
  | enter target =>
    unfold perform
    dsimp only
    split
    · exact hslot
    · rw [List.getElem?_append_left (List.getElem?_eq_some_iff.mp hslot).1, hslot]

theorem perform_enter_ok {target : Path} {unsaved : Option IoError}
    (h : (DirectoryContext.enter dirs target s.world).1 = .ok (context, unsaved)) :
    perform dirs s (.enter target) =
      ⟨s.contexts ++ [some context], (DirectoryContext.enter dirs target s.world).2⟩ := by
  unfold perform
  dsimp only
  split <;> rename_i heq <;> rw [heq] at h ⊢ <;> cases h
  rfl

theorem perform_enter_error {target : Path} {e : ExecError}
    (h : (DirectoryContext.enter dirs target s.world).1 = .error e) :
    perform dirs s (.enter target) = ⟨s.contexts, (DirectoryContext.enter dirs target s.world).2⟩ := by
  unfold perform
  dsimp only
  split <;> rename_i heq <;> rw [heq] at h ⊢
  cases h

theorem perform_gone (hgone : s.contexts[i]? = some none) :
    (perform dirs s step).contexts[i]? = some none := by
  by_cases hleaves : step.leaves? = some i
  · obtain rfl | rfl := Step.eq_of_leaves hleaves <;> simp only [perform, leave, hgone]
  · exact perform_keeps hleaves hgone

/-- Noting its changes does not change a step. -/
theorem perform_traced (dirs : Directories σ) (contexts : List (Option DirectoryContext))
    (w : σ × List Directories.Change) (step : Step σ) :
    (perform dirs.traced ⟨contexts, w⟩ step.traced).contexts = (perform dirs ⟨contexts, w.1⟩ step).contexts ∧
      (perform dirs.traced ⟨contexts, w⟩ step.traced).world.1 = (perform dirs ⟨contexts, w.1⟩ step).world := by
  cases step with
  | enter target =>
    obtain ⟨hanswer, hworld⟩ := DirectoryContext.enter_traced dirs target w
    cases hmade : (DirectoryContext.enter dirs target w.1).1 with
    | error e =>
      rw [Step.traced, perform_enter_error (s := ⟨contexts, w⟩) (hanswer.trans hmade),
        perform_enter_error (s := ⟨contexts, w.1⟩) hmade]
      exact ⟨rfl, hworld⟩
    | ok made =>
      rw [Step.traced, perform_enter_ok (s := ⟨contexts, w⟩) (hanswer.trans hmade),
        perform_enter_ok (s := ⟨contexts, w.1⟩) hmade]
      exact ⟨rfl, hworld⟩
  | restore i =>
    simp only [perform, leave, Step.traced, DirectoryContext.giveBack_eq]
    split
    · exact ⟨rfl, (DirectoryContext.restore_traced dirs _ w).2⟩
    · exact ⟨rfl, rfl⟩
  | drop i =>
    simp only [perform, leave, Step.traced]
    split
    · exact ⟨rfl, DirectoryContext.drop_traced dirs _ w⟩
    · exact ⟨rfl, rfl⟩
  | meanwhile change => exact ⟨rfl, rfl⟩

/-! ## How often a context goes back -/

theorem changes_of_gone (hleaves : step.leaves? = some i) (hgone : s.contexts[i]? = some none) :
    changes dirs s step = [] := by
  obtain rfl | rfl := Step.eq_of_leaves hleaves <;>
    simp only [changes, Step.traced, perform, leave, hgone]

theorem changes_of_held (hleaves : step.leaves? = some i) (hheld : s.contexts[i]? = some (some context))
    (hfirst : context.restored = false) :
    (changes dirs s step).map Prod.fst = context.saved.toList := by
  have htraced : step.traced.leaves? = some i := by cases step <;> exact hleaves
  have hback := DirectoryContext.restore_changes dirs hfirst s.world []
  unfold changes
  rcases perform_leaves dirs.traced (s := ⟨s.contexts, s.world, []⟩) htraced hheld with h | h
  · rw [h]
    exact hback
  · rw [h, DirectoryContext.drop_changes]
    exact hback

/-- What is gone goes nowhere. -/
theorem returns_of_gone (steps : List (Step σ)) (hgone : s.contexts[i]? = some none) :
    returns dirs i steps s = [] := by
  induction steps generalizing s with
  | nil => rfl
  | cons step steps ih =>
    rw [returns, ih (perform_gone hgone), List.append_nil]
    split
    · exact changes_of_gone ‹_› hgone
    · rfl

/-- A context goes back to what it has saved, once, when it is left first. -/
theorem returns_of_held (steps : List (Step σ)) (hheld : s.contexts[i]? = some (some context))
    (hfirst : context.restored = false) :
    (returns dirs i steps s).map Prod.fst =
      if steps.any (·.leaves? == some i) then context.saved.toList else [] := by
  induction steps generalizing s with
  | nil => rfl
  | cons step steps ih =>
    rw [returns, List.map_append, List.any_cons]
    by_cases hleaves : step.leaves? = some i
    · have hgone : (perform dirs s step).contexts[i]? = some none := by
        have hi := (List.getElem?_eq_some_iff.mp hheld).1
        rcases perform_leaves dirs hleaves hheld with h | h <;> rw [h] <;>
          exact List.getElem?_set_self hi
      rw [if_pos hleaves, changes_of_held hleaves hheld hfirst, returns_of_gone steps hgone]
      simp [hleaves]
    · rw [if_neg hleaves, ih (perform_keeps hleaves hheld)]
      simp [hleaves]

/-! ## Where a process ends up -/

/-- Where a process comes back to that is somewhere and has contexts to leave. -/
def origin : List (Nat × δ) → δ → δ
  | [], here => here
  | (_, from_) :: away, _ => origin away from_

/-- The contexts to be left are there, each once, and have something to go back to. -/
structure Awaits (away : List (Nat × δ)) (s : Excursions σ) : Prop where
  once : (away.map Prod.fst).Nodup
  held : ∀ i ∈ away.map Prod.fst, ∃ path target, s.contexts[i]? = some (some ⟨some path, target, false⟩)

theorem Awaits.not_fresh {away : List (Nat × δ)} (h : Awaits away s) :
    s.contexts.length ∉ away.map Prod.fst := by
  intro hmem
  obtain ⟨path, target, hheld⟩ := h.held _ hmem
  exact absurd (List.getElem?_eq_some_iff.mp hheld).1 (Nat.lt_irrefl _)

/-- A step that leaves none of the contexts does not change what is awaited. -/
theorem Awaits.other {away : List (Nat × δ)} (h : Awaits away s)
    (hother : ∀ i ∈ away.map Prod.fst, step.leaves? ≠ some i) : Awaits away (perform dirs s step) := by
  refine ⟨h.once, fun i hi => ?_⟩
  obtain ⟨path, target, hheld⟩ := h.held i hi
  exact ⟨path, target, perform_keeps (hother i hi) hheld⟩

/-- Who enters a directory awaits to come back to where it was. -/
theorem Awaits.entered {away : List (Nat × δ)} (h : Awaits away s) {target path : Path}
    {unsaved : Option IoError} (home : δ) (hnoted : dirs.current s.world = .ok path)
    (henter : (DirectoryContext.enter dirs target s.world).1 = .ok (context, unsaved)) :
    Awaits ((s.contexts.length, home) :: away) (perform dirs s (.enter target)) := by
  have hrest : Awaits away (perform dirs s (.enter target)) := h.other nofun
  have hcontext : context = ⟨some path, target, false⟩ := by
    rw [DirectoryContext.enter_ok henter, hnoted]
    rfl
  refine ⟨List.nodup_cons.mpr ⟨h.not_fresh, h.once⟩, fun i hi => ?_⟩
  rcases List.mem_cons.mp hi with rfl | hi
  · refine ⟨path, target, ?_⟩
    rw [perform_enter_ok henter, hcontext]
    exact List.getElem?_concat_length
  · exact hrest.held i hi

theorem Awaits.left {away : List (Nat × δ)} {home : δ} (h : Awaits ((i, home) :: away) s)
    (hleaves : step.leaves? = some i) : Awaits away (perform dirs s step) := by
  have hsplit := List.nodup_cons.mp h.once
  have hrest : Awaits away s := ⟨hsplit.2, fun j hj => h.held j (List.mem_cons_of_mem _ hj)⟩
  refine hrest.other fun j hj heq => hsplit.1 ?_
  rwa [Option.some.inj (hleaves.symm.trans heq)]

/-- A failed change of directory is all that a failed entering does. -/
theorem enter_error_keeps (hlog : ∀ record w, cwd (dirs.log record w) = cwd w)
    (hchange : ∀ path w cause w', dirs.change path w = (.error cause, w') → cwd w' = cwd w)
    {target : Path} {e : ExecError} {w : σ} (h : (DirectoryContext.enter dirs target w).1 = .error e) :
    cwd (DirectoryContext.enter dirs target w).2 = cwd w := by
  obtain ⟨records, cause, hfail, -⟩ := DirectoryContext.enter_error h
  have hlogs : ∀ (records : List Log.Record) (w : σ),
      cwd (records.foldl (fun w record => dirs.log record w) w) = cwd w := by
    intro records
    induction records with
    | nil => exact fun w => rfl
    | cons record records ih => exact fun w => (ih _).trans (hlog record w)
  exact (hchange _ _ _ _ hfail).trans (hlogs records w)

/-- Nested excursions end where the first of them began. The invariant is that whatever is still to be
left can be. -/
theorem Nested.comes_back (hlog : ∀ record w, cwd (dirs.log record w) = cwd w)
    (hchange : ∀ path w cause w', dirs.change path w = (.error cause, w') → cwd w' = cwd w)
    {away : List (Nat × δ)} {steps : List (Step σ)} (h : Nested dirs cwd away steps s)
    (hawaits : Awaits away s) : cwd (run dirs steps s).world = origin away (cwd s.world) := by
  induction h with
  | home => rfl
  | @enter _ _ _ s _ _ _ hnoted henter _ ih => exact ih (hawaits.entered (cwd s.world) hnoted henter)
  | @stay away target steps s path e _ hfail _ ih =>
    have hhere : cwd (perform dirs s (.enter target)).world = cwd s.world := by
      rw [perform_enter_error hfail]
      exact enter_error_keeps hlog hchange hfail
    rw [← hhere]
    exact ih (hawaits.other nofun)
  | @leave away step steps s i home hlast hback _ ih =>
    obtain ⟨path, target, hheld⟩ := hawaits.held i List.mem_cons_self
    obtain ⟨w, hreturn, hhome⟩ := hback _ path hheld rfl
    have hthere : cwd (perform dirs s step).world = home := by
      rcases perform_leaves dirs hlast hheld with h | h <;> rw [h]
      · rw [DirectoryContext.restore_of_change rfl rfl hreturn]
        exact (hlog _ w).trans hhome
      · rw [DirectoryContext.drop_of_change rfl rfl hreturn]
        exact (hlog _ w).trans hhome
    have hrest := ih (hawaits.left hlast)
    rw [hthere] at hrest
    exact hrest
  | @meanwhile away change steps s hstays _ ih =>
    have hrest := ih (hawaits.other nofun)
    rw [← hstays]
    exact hrest

/-- After any steps: who fails to enter a directory is where it was, with the contexts it had. A context
that is made has noted the working directory, if that could be read; whatever follows, it goes back to
what it has noted, and once, if it is ever left. Once it has been restored, or was tried to be, dropping
it does nothing. And nested excursions that can find their ways back end where they began. -/
theorem contexts_go_back_once (dirs : Directories σ) (cwd : σ → δ)
    (hlog : ∀ record w, cwd (dirs.log record w) = cwd w)
    (hchange : ∀ path w cause w', dirs.change path w = (.error cause, w') → cwd w' = cwd w)
    (before : List (Step σ)) (w : σ) :
    let s := run dirs before ⟨[], w⟩
    (∀ target e, (DirectoryContext.enter dirs target s.world).1 = .error e →
      (perform dirs s (.enter target)).contexts = s.contexts ∧
        cwd (perform dirs s (.enter target)).world = cwd s.world) ∧
    (∀ target context unsaved,
      (DirectoryContext.enter dirs target s.world).1 = .ok (context, unsaved) →
        context.saved = (dirs.current s.world).toOption ∧
        ∀ after, (returns dirs s.contexts.length after (perform dirs s (.enter target))).map Prod.fst =
          if after.any (·.leaves? == some s.contexts.length) then context.saved.toList else []) ∧
    (∀ (context done : DirectoryContext) v answer v', context.restore dirs v = (answer, done, v') →
      done.drop dirs v' = v') ∧
    (∀ steps, Nested dirs cwd [] steps s → cwd (run dirs steps s).world = cwd s.world) := by
  intro s
  refine ⟨?_, ?_, ?_, ?_⟩
  · intro target e hfail
    rw [perform_enter_error hfail]
    exact ⟨rfl, enter_error_keeps hlog hchange hfail⟩
  · intro target context unsaved henter
    have hcontext := DirectoryContext.enter_ok henter
    have hheld : (perform dirs s (.enter target)).contexts[s.contexts.length]? = some (some context) := by
      rw [perform_enter_ok henter]
      exact List.getElem?_concat_length
    refine ⟨by rw [hcontext], fun after => ?_⟩
    exact returns_of_held after hheld (by rw [hcontext])
  · intro context done v answer v' hrestore
    have hdrop := DirectoryContext.giveBack_eq dirs context v
    simp only [giveBack, hrestore] at hdrop
    exact hdrop
  · exact fun steps h => h.comes_back hlog hchange ⟨List.nodup_nil, nofun⟩

open Executor (directories toolWorld)

/-- Two excursions, one within the other. A third one fails. -/
def tour : List (Step World) :=
  [.enter (utf8 "/w/bin"), .enter (utf8 "/"), .enter (utf8 "tool"), .restore 1, .drop 0]

/-- Where the tour is after some of its steps. -/
def onTour (n : Nat) : Excursions World :=
  run directories (tour.take n) ⟨[], toolWorld⟩

theorem enter_bin :
    (DirectoryContext.enter directories (utf8 "/w/bin") (onTour 0).world).1 =
      .ok (⟨some (utf8 "/w"), utf8 "/w/bin", false⟩, none) := by cbv

theorem enter_root :
    (DirectoryContext.enter directories (utf8 "/") (onTour 1).world).1 =
      .ok (⟨some (utf8 "/w/bin"), utf8 "/", false⟩, none) := by cbv

theorem enter_tool :
    (DirectoryContext.enter directories (utf8 "tool") (onTour 2).world).1 =
      .error (.directory (utf8 "tool") (.os 2)) := by cbv

theorem tour_nested : Nested directories (fun w : World => w.sys.cwd) [] tour (onTour 0) := by
  have hroot : (onTour 3).contexts[(onTour 1).contexts.length]? =
      some (some ⟨some (utf8 "/w/bin"), utf8 "/", false⟩) := by cbv
  have hbin : (onTour 4).contexts[(onTour 0).contexts.length]? =
      some (some ⟨some (utf8 "/w"), utf8 "/w/bin", false⟩) := by cbv
  have hbackToBin : (directories.change (utf8 "/w/bin") (onTour 3).world).1 = .ok () := by cbv
  have hbackHome : (directories.change (utf8 "/w") (onTour 4).world).1 = .ok () := by cbv
  refine .enter (by cbv) enter_bin (.enter (by cbv) enter_root (.stay (by cbv) enter_tool
    (.leave (by cbv) ?_ (.leave (by cbv) ?_ .home))))
  · intro context path hheld hsaved
    cases Option.some.inj (Option.some.inj (hroot.symm.trans hheld))
    cases hsaved
    exact ⟨_, Prod.ext hbackToBin rfl, by cbv⟩
  · intro context path hheld hsaved
    cases Option.some.inj (Option.some.inj (hbin.symm.trans hheld))
    cases hsaved
    exact ⟨_, Prod.ext hbackHome rfl, by cbv⟩

theorem contexts_go_back_once_of_tour :
    (onTour 2).world.sys.cwd = 0 ∧ (onTour 3).contexts = (onTour 2).contexts ∧
      (onTour 3).world.sys.cwd = 0 ∧ (onTour 5).world.sys.cwd = 1 ∧
      (returns directories 0 (tour.drop 1) (onTour 1)).map Prod.fst = [utf8 "/w"] := by
  have hchange : ∀ (path : Path) (w : World) (cause : IoError) (w' : World),
      directories.change path w = (.error cause, w') → w'.sys.cwd = w.sys.cwd := by
    intro path w cause w' h
    simp only [directories] at h
    split at h <;> simp_all
  have hgoBack := contexts_go_back_once directories (fun w : World => w.sys.cwd) (fun _ _ => rfl) hchange
  have hthere : (onTour 2).world.sys.cwd = 0 := by cbv
  have hstays := (hgoBack (tour.take 2) toolWorld).1 (utf8 "tool") _ enter_tool
  have honce := ((hgoBack [] toolWorld).2.1 _ _ _ enter_bin).2 (tour.drop 1)
  have hhome := (hgoBack [] toolWorld).2.2.2 tour tour_nested
  exact ⟨hthere, hstays.1, hstays.2.trans hthere, hhome, honce⟩

end Excursions

end ScriptExec
