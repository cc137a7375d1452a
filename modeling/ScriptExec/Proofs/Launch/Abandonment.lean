-- SUMMARY: What a launch that is left on its way gives back, and in which order.
import ScriptExec.Proofs.Launch.Cleanup
import ScriptExec.Proofs.Launch.Holding

/-!
# Abandoned launches

A launch can be left at any stage: because nobody waits for it any more, or because a collaborator fails. It
then gives back what it holds, the guard before the directory (`leavingCalls_eq`). The guard is freed
once by who has taken it, and left alone by others (`Custody`); the directory that was noted is entered
again once (`RoundTrip`). A launch that comes to its end goes back before it frees the guard
(`trace_backFirst`); one that is left with both in hand does not (`leavingCalls_backFirst`).
-/

namespace ScriptExec.Launch

variable {σ κ δ : Type}

section

variable (c : Collaborators σ κ) (l : InFlight κ) (w : σ)

/-! ## Leaving -/

/-- The first half of leaving: the guard is freed, if it is held. -/
def letGo : σ :=
  if l.holdsGuard then
    c.log (guardRecord .trace [] "execution guard released") (c.setSlot .idle w)
  else w

/-- The second half of leaving: the directory context is dropped, if there is one. -/
def leaveDir : σ :=
  match l.dir with
  | some context => context.drop c.toDirectories w
  | none => w

/-- The calls with which a launch is left. -/
def leavingCalls : List (Event κ) :=
  (abandon c.traced l (w, [])).2

/-- The calls with which the directory context is dropped. -/
def homeward : List (Event κ) :=
  match l.dir.bind home? with
  | none => []
  | some dir =>
    [.change dir (c.change dir w).1,
      .log (match (c.change dir w).1 with
        | .ok () => DirectoryContext.record .debug "dir" "restored working directory"
        | .error _ => DirectoryContext.record .warn "dir" "failed to restore working directory")]

theorem abandon_eq : abandon c l w = leaveDir c l (letGo c l w) := rfl

end

variable {c : Collaborators σ κ} {launcher : Launcher} {req : Request} {l : InFlight κ} {w w₀ : σ}
variable {s : σ × List (Event κ)} {cwd : σ → δ} {dir : Path}

theorem letGo_traced (s : σ × List (Event κ)) :
    letGo c.traced l s = (letGo c l s.1, s.2 ++ freeing l.holdsGuard) := by
  unfold letGo freeing
  cases l.holdsGuard <;> simp [Collaborators.traced]

/-- Dropping a context that has nowhere to go does nothing. -/
theorem drop_of_home_none {context : DirectoryContext} (h : home? context = none) :
    context.drop c.toDirectories w = w := by
  obtain ⟨saved, target, restored⟩ := context
  cases restored with
  | true => rfl
  | false =>
    obtain rfl : saved = none := h
    rfl

/-- Dropping a context that has somewhere to go is one change of directory. -/
theorem drop_of_home_some {context : DirectoryContext} (h : home? context = some dir) :
    context.drop c.toDirectories w =
      c.log (match (c.change dir w).1 with
        | .ok () => DirectoryContext.record .debug "dir" "restored working directory"
        | .error _ => DirectoryContext.record .warn "dir" "failed to restore working directory")
        (c.change dir w).2 := by
  obtain ⟨saved, target, restored⟩ := context
  cases restored with
  | true => cases h
  | false =>
    obtain rfl : saved = some dir := h
    rcases hchange : c.change dir w with ⟨cause | u, w'⟩ <;>
      simp [DirectoryContext.drop, DirectoryContext.restore, hchange]

theorem leaveDir_of_home_none (h : l.dir.bind home? = none) : leaveDir c l w = w := by
  unfold leaveDir
  split
  · rename_i context hdir
    rw [hdir] at h
    exact drop_of_home_none h
  · rfl

theorem leaveDir_of_home_some (h : l.dir.bind home? = some dir) :
    leaveDir c l w =
      c.log (match (c.change dir w).1 with
        | .ok () => DirectoryContext.record .debug "dir" "restored working directory"
        | .error _ => DirectoryContext.record .warn "dir" "failed to restore working directory")
        (c.change dir w).2 := by
  obtain ⟨context, hdir, hhome⟩ := Option.bind_eq_some_iff.mp h
  unfold leaveDir
  rw [hdir]
  exact drop_of_home_some hhome

/-- A launch that is left frees the guard first, and goes back then. -/
theorem leavingCalls_eq (c : Collaborators σ κ) (l : InFlight κ) (w : σ) :
    leavingCalls c l w = freeing l.holdsGuard ++ homeward c l (letGo c l w) := by
  rw [leavingCalls, abandon_eq, letGo_traced]
  unfold homeward
  cases hhome : l.dir.bind home? with
  | none => rw [leaveDir_of_home_none hhome, List.nil_append, List.append_nil]
  | some dir =>
    rw [leaveDir_of_home_some hhome]
    rcases hchange : c.change dir (letGo c l w) with ⟨cause | u, w'⟩ <;>
      simp [Collaborators.traced, hchange]

@[simp] theorem homeward_slots : Event.slots (homeward c l w) = [] := by
  unfold homeward
  split <;> rfl

@[simp] theorem freeing_changes (held : Bool) : Event.changes (κ := κ) (freeing held) = [] := by
  cases held <;> rfl

theorem changes_append (es fs : List (Event κ)) :
    Event.changes (es ++ fs) = Event.changes es ++ Event.changes fs :=
  List.filterMap_append ..

/-! ## The guard -/

/-- What a launch has written into the guard's slot from its start to its end: nothing, or once that the
guard is taken, perhaps for a child of its own, and once that it is free. -/
inductive Custody (pid? : κ → Option Nat) (es : List (Event κ)) : List Slot → Prop
  | never : Custody pid? es []
  | once {slots} (h : Marks pid? es slots) : Custody pid? es (slots ++ [.idle])

section

variable {pid? : κ → Option Nat} {es fs back : List (Event κ)} {home : Option Path} {held : Bool}
variable {outcome : Outcome}

theorem Custody.mono {slots : List Slot} (h : Custody pid? es slots) (hsub : es ⊆ fs) :
    Custody pid? fs slots := by
  cases h with
  | never => exact .never
  | once hmarks => exact .once (hmarks.mono hsub)

theorem Custody.of_quiet (h : Event.slots es = []) : Custody pid? es (Event.slots es) :=
  h ▸ .never

/-- Who has settled and gone back has had the guard once, or never. -/
theorem Settled.custody (h : Settled pid? launcher req home held es outcome)
    (hback : BackCalls home back) (haside : Aside fs) :
    Custody pid? (es ++ back ++ freeing held ++ fs) (Event.slots (es ++ back ++ freeing held ++ fs)) := by
  cases held with
  | false =>
    refine .of_quiet ?_
    simpa [freeing] using ((h.approach.append hback.aside).append haside).quiet.1
  | true =>
    have hmarks : Marks pid? (es ++ back ++ freeing true ++ fs) (Event.slots es) :=
      h.marks.mono (by intro event hevent; simp [hevent])
    have hslots : Event.slots (es ++ back ++ freeing true ++ fs) = Event.slots es ++ [.idle] := by
      simp [hback.aside.slots, haside.slots]
    rw [hslots]
    exact .once hmarks

/-- Who does not hold the guard has had it once, or never. -/
theorem Told.custody (h : Told pid? launcher req l es) (hfree : l.holdsGuard = false) :
    Custody pid? es (Event.slots es) := by
  cases h with
  | validating | switchingUser => exact .never
  | locating _ huser => exact .of_quiet huser.approach.quiet.1
  | savingDir hlocated => exact .of_quiet hlocated.approach.quiet.1
  | enteringDir hlocated _ hsave => exact .of_quiet (hlocated.approach.append hsave.aside).quiet.1
  | reportingSave hlocated _ hsave =>
    exact .of_quiet ((hlocated.approach.append hsave.aside).append (entry_aside _)).quiet.1
  | acquiring hready => exact .of_quiet hready.approach.quiet.1
  | refused hready => exact .of_quiet (hready.approach.append refusal_aside).quiet.1
  | restoring hsettled =>
    obtain rfl : _ = false := hfree
    exact .of_quiet hsettled.approach.quiet.1
  | reportingRestore hsettled =>
    obtain rfl : _ = false := hfree
    exact .of_quiet (hsettled.approach.append (by simp [Aside, Event.isAside])).quiet.1
  | releasing hsettled hback =>
    obtain rfl : _ = false := hfree
    exact .of_quiet (hsettled.approach.append hback.aside).quiet.1
  | recording hsettled hback =>
    have hnothing : Aside (κ := κ) [] := by simp [Aside]
    simpa using hsettled.custody hback hnothing
  | @finished _ _ outcome hcourse =>
    cases hcourse with
    | early hearly => exact .of_quiet hearly.quiet.1
    | @settled home held before back _ hsettled hback =>
      have hlogged : Aside (κ := κ) [.log (outcomeRecord outcome)] := by simp [Aside, Event.isAside]
      have hcustody := hsettled.custody hback hlogged
      rw [List.append_assoc] at hcustody
      exact hcustody
  | _ => cases hfree

/-- Wherever a launch is left, it has had the guard once, or never. -/
theorem Told.custody_of_left (h : Told c.pid? launcher req l es) (w : σ) :
    Custody c.pid? (es ++ leavingCalls c l w) (Event.slots (es ++ leavingCalls c l w)) := by
  rw [leavingCalls_eq]
  cases hheld : l.holdsGuard with
  | false =>
    have hslots : Event.slots (es ++ (freeing false ++ homeward c l (letGo c l w))) = Event.slots es := by
      simp
    rw [hslots]
    exact (h.custody hheld).mono (List.subset_append_left _ _)
  | true =>
    have hslots : Event.slots (es ++ (freeing true ++ homeward c l (letGo c l w))) =
        Event.slots es ++ [.idle] := by
      simp
    rw [hslots]
    exact .once ((h.marks hheld).mono (List.subset_append_left _ _))

end

/-- Who holds the guard frees it, and nobody else changes its slot. -/
theorem abandon_slot (hc : KeepsSlot c) :
    c.slot (abandon c l w) = if l.holdsGuard then .idle else c.slot w := by
  have hdir (w : σ) : c.slot (leaveDir c l w) = c.slot w := by
    cases hhome : l.dir.bind home? with
    | none => rw [leaveDir_of_home_none hhome]
    | some dir => rw [leaveDir_of_home_some hhome, hc.keeps.log, hc.change]
  rw [abandon_eq, hdir, letGo]
  split
  · rw [hc.keeps.log, hc.setSlot_idle]
  · rfl

/-! ## The directory -/

/-- The changes of directory that a launch has made from its start to its end. -/
inductive RoundTrip (c : Collaborators σ κ) (w₀ : σ) : List (Path × Except IoError Unit) → Prop
  | stayed : RoundTrip c w₀ []
  | refused {target cause} : RoundTrip c w₀ [(target, .error cause)]
  /-- Nothing was noted, so there was nowhere to go back to. -/
  | unsaved {target cause} (h : c.current w₀ = .error cause) : RoundTrip c w₀ [(target, .ok ())]
  | back {target dir answer} (h : c.current w₀ = .ok dir) :
      RoundTrip c w₀ [(target, .ok ()), (dir, answer)]

theorem Journey.roundTrip {x : Sight δ} (h : Journey c launcher req cwd w₀ x) : RoundTrip c w₀ x.2.1 := by
  cases h with
  | stayed => exact .stayed
  | refused => exact .refused
  | unsaved hcurrent => exact .unsaved hcurrent
  | back hcurrent | stuck hcurrent => exact .back hcurrent

/-- A launch has somewhere to go back to only while it is abroad. -/
def Grounded (l : InFlight κ) : Prop :=
  l.stage.leg = .abroad ∨ l.dir.bind home? = none

theorem home_of_restore {context done : DirectoryContext} {answer : Except (Path × IoError) Unit} {w' : σ}
    (h : context.restore c.toDirectories w = (answer, done, w')) : home? done = none := by
  have hdone : (context.restore c.toDirectories w).2.1.restored = true := by
    unfold DirectoryContext.restore
    split
    · rfl
    · split
      · rfl
      · split <;> rfl
  rw [h] at hdone
  exact if_pos hdone

theorem Step.grounded {l' : InFlight κ} {w' : σ} (hstep : Step c launcher req l w l' w')
    (h : Grounded l) : Grounded l' := by
  cases hstep with
  | accept | reject | switch | notSwitch | locateToMove | notLocate | save | notEnter | reportRestore
  | release | leave | record => exact .inr (h.resolve_left nofun)
  | locateToStay | enter | enterUnsaved | reportSave | acquire | busy | refuse | warn | notSpawn | spawn | track
  | drain => exact .inl rfl
  | stay => exact .inr rfl
  | restore hrestore => exact .inr (home_of_restore hrestore)
  | notRestore hrestore => exact .inr (home_of_restore hrestore)

theorem Steps.grounded (hsteps : Steps c launcher req {} w₀ l w) : Grounded l :=
  hsteps.keeps (P := fun l _ => Grounded l) (fun _ h hstep => hstep.grounded h) (.inr rfl)

theorem Steps.underWay (hc : KeepsDir c cwd) (hsteps : Steps c.traced launcher req {} (w₀, []) l s) :
    UnderWay c launcher req cwd w₀ l s :=
  hsteps.keeps (fun hsteps h hstep => h.step hc hsteps hstep) ⟨.outset, fun _ => rfl⟩

theorem leavingCalls_changes (c : Collaborators σ κ) (l : InFlight κ) (w : σ) :
    Event.changes (leavingCalls c l w) =
      (l.dir.bind home?).toList.map fun dir => (dir, (c.change dir (letGo c l w)).1) := by
  rw [leavingCalls_eq, changes_append, freeing_changes, List.nil_append]
  unfold homeward
  split <;> rename_i hhome <;> rw [hhome] <;> rfl

/-- Wherever a launch is left, it has gone back at most once, and has if it had somewhere to go. -/
theorem UnderWay.roundTrip (h : UnderWay c launcher req cwd w₀ l s) (hgrounded : Grounded l) (w : σ) :
    RoundTrip c w₀ (Event.changes (s.2 ++ leavingCalls c l w)) := by
  rw [changes_append, leavingCalls_changes]
  have hwhere := h.whereabouts
  obtain ⟨stage, dir, held⟩ := l
  generalize hleg : stage.leg = leg at hwhere
  have hhome (hnot : leg ≠ .abroad) : dir.bind home? = none :=
    hgrounded.resolve_left (hleg ▸ hnot)
  generalize hsight : sight cwd s = x at hwhere
  have hchanges : Event.changes s.2 = x.2.1 := congrArg (·.2.1) hsight
  rw [hchanges]
  cases hwhere with
  | outset | leaving | atHome => exact .stayed
  | @away target here =>
    cases hcurrent : c.current w₀ with
    | error cause => exact .unsaved hcurrent
    | ok home => exact .back hcurrent
  | stuck hcurrent =>
    simp only [hhome nofun, Option.toList_none, List.map_nil, List.append_nil]
    exact .back hcurrent
  | arrived hjourney =>
    simp only [hhome nofun, Option.toList_none, List.map_nil, List.append_nil]
    exact hjourney.roundTrip

theorem abandon_cwd (hc : KeepsDir c cwd) :
    cwd (abandon c l w) = match l.dir.bind home? with
      | none => cwd w
      | some dir => cwd (c.change dir (letGo c l w)).2 := by
  have hfreed : cwd (letGo c l w) = cwd w := by
    unfold letGo
    split
    · rw [hc.keeps.log, hc.setSlot]
    · rfl
  rw [abandon_eq]
  split
  · rename_i hhome
    rw [leaveDir_of_home_none hhome, hfreed]
  · rename_i dir hhome
    rw [leaveDir_of_home_some hhome, hc.keeps.log]

/-- Wherever a launch is left, it is back in the directory that it noted, if that can be entered. -/
theorem UnderWay.back_of_left (hc : KeepsDir c cwd) (h : UnderWay c launcher req cwd w₀ l s)
    (hgrounded : Grounded l) (hhere : cwd w = cwd s.1) (hread : c.current w₀ = .ok dir)
    (hleft : cwd (c.change dir (letGo c l w)).2 = cwd w₀)
    (hback : ∀ w₁ outcome, Returns c launcher req w₀ w₁ outcome →
      (c.change dir w₁).1 = .ok () ∧ cwd (c.change dir w₁).2 = cwd w₀) :
    cwd (abandon c l w) = cwd w₀ := by
  rw [abandon_cwd hc]
  have hwhere := h.whereabouts
  obtain ⟨stage, context, held⟩ := l
  generalize hleg : stage.leg = leg at hwhere
  have hhome (hnot : leg ≠ .abroad) : context.bind home? = none :=
    hgrounded.resolve_left (hleg ▸ hnot)
  generalize hsight : sight cwd s = x at hwhere
  have hthere : cwd s.1 = x.1 := congrArg (·.1) hsight
  rw [hthere] at hhere
  cases hwhere with
  | outset | leaving | atHome => exact hhere
  | away =>
    rw [hread]
    exact hleft
  | stuck hread' hreturn hchange =>
    obtain rfl : _ = dir := Except.ok.inj (hread'.symm.trans hread)
    rw [(hback _ _ hreturn).1] at hchange
    cases hchange
  | arrived hjourney =>
    simp only [hhome nofun]
    cases hjourney with
    | stayed | refused => exact hhere
    | unsaved hunread => simp [hunread] at hread
    | back hread' hreturn hchange =>
      obtain rfl : _ = dir := Except.ok.inj (hread'.symm.trans hread)
      exact hhere.trans (hback _ _ hreturn).2
    | stuck hread' hreturn hchange =>
      obtain rfl : _ = dir := Except.ok.inj (hread'.symm.trans hread)
      rw [(hback _ _ hreturn).1] at hchange
      cases hchange

/-! ## The order -/

/-- The directory is back before the guard is freed: no change of directory comes after that. -/
def BackFirst (es : List (Event κ)) : Prop :=
  ∀ before after, es = before ++ .setSlot .idle :: after → Event.changes after = []

theorem mem_slots_of_eq {es before after : List (Event κ)} {slot : Slot}
    (h : es = before ++ .setSlot slot :: after) : slot ∈ Event.slots es := by
  rw [h, Event.slots_append]
  exact List.mem_append_right _ List.mem_cons_self

/-- Calls that do not free the guard may come before calls that do not change the directory. -/
theorem BackFirst.of_append {es fs : List (Event κ)} (hslots : .idle ∉ Event.slots es)
    (hchanges : Event.changes fs = []) : BackFirst (es ++ fs) := by
  intro before after h
  rcases List.append_eq_append_iff.mp h with ⟨rest, -, hfs⟩ | ⟨rest, hes, hrest⟩
  · rw [hfs, changes_append] at hchanges
    exact (List.append_eq_nil_iff.mp hchanges).2
  · cases rest with
    | nil =>
      obtain rfl : fs = _ := hrest.symm
      exact hchanges
    | cons event rest =>
      obtain ⟨rfl, rfl⟩ := List.cons.inj hrest
      exact absurd (mem_slots_of_eq hes) hslots

/-- Calls that do not free the guard are in order, and so are calls that do not change the directory. -/
theorem BackFirst.of_not_freed {es : List (Event κ)} (h : .idle ∉ Event.slots es) : BackFirst es := by
  have happended : BackFirst (es ++ []) := .of_append h rfl
  simpa using happended

theorem BackFirst.of_stayed {es : List (Event κ)} (h : Event.changes es = []) : BackFirst es := by
  have happended : BackFirst ([] ++ es) := .of_append (by simp [Event.slots]) h
  exact happended

theorem Marks.not_idle {pid? : κ → Option Nat} {es : List (Event κ)} {slots : List Slot}
    (h : Marks pid? es slots) : .idle ∉ slots := by
  cases h <;> simp

theorem parting_changes (held : Bool) (outcome : Outcome) :
    Event.changes (κ := κ) (parting held outcome) = [] := by
  cases held <;> rfl

/-- A launch that comes to its end is back in its directory before it frees the guard. -/
theorem Course.backFirst {pid? : κ → Option Nat} {es : List (Event κ)} {outcome : Outcome}
    (h : Course pid? launcher req es outcome) : BackFirst es := by
  cases h with
  | early hearly =>
    have hslots : .idle ∉ Event.slots es := by simp [hearly.quiet.1]
    exact .of_not_freed hslots
  | @settled home held before back _ hsettled hback =>
    refine .of_append ?_ (parting_changes held outcome)
    rw [Event.slots_append, hback.aside.slots, List.append_nil]
    cases held with
    | false => simp [hsettled.approach.quiet.1]
    | true => exact hsettled.marks.not_idle

/-- A launch that is left is back before it frees the guard unless it has both the guard to free and a
directory to go back to. -/
theorem leavingCalls_backFirst (c : Collaborators σ κ) (l : InFlight κ) (w : σ) :
    BackFirst (leavingCalls c l w) ↔ ¬(l.holdsGuard = true ∧ (l.dir.bind home?).isSome = true) := by
  constructor
  · rintro h ⟨hheld, hhome⟩
    obtain ⟨dir, hdir⟩ := Option.isSome_iff_exists.mp hhome
    have hafter := h [] _ (by rw [leavingCalls_eq, hheld]; rfl)
    simp [homeward, hdir, Event.changes] at hafter
  · intro hnot
    cases hheld : l.holdsGuard with
    | false =>
      have hslots : .idle ∉ Event.slots (leavingCalls c l w) := by simp [leavingCalls_eq, hheld]
      exact .of_not_freed hslots
    | true =>
      have hhome : l.dir.bind home? = none := by simpa [hheld] using hnot
      have hchanges : Event.changes (leavingCalls c l w) = [] := by simp [leavingCalls_changes, hhome]
      exact .of_stayed hchanges

/-- Wherever a launch is left, whatever the world is like by then: a guard that it holds is freed, and one
that it does not hold is left as it is. From its start to its end, it has taken and freed the guard
once or has not touched it, and has gone back once to the directory that it noted, if it has left that.
While a launch that comes to its end is back before it frees the guard, one that is left with the guard to
free and a directory to go back to is not: the guard is idle first, and the directory still the other one. -/
theorem abandoned_launch_cleans_up (c : Collaborators σ κ) (launcher : Launcher) (req : Request)
    (cwd : σ → δ) (hslot : KeepsSlot c) (hdir : KeepsDir c cwd) (w₀ : σ) (l : InFlight κ)
    (s : σ × List (Event κ)) (hsteps : Steps c.traced launcher req {} (w₀, []) l s) (w : σ) :
    let calls := s.2 ++ leavingCalls c l w
    c.slot (abandon c l w) = (if l.holdsGuard then .idle else c.slot w) ∧
    (c.slot w = c.slot s.1 → c.slot (abandon c l w) = c.slot w₀) ∧
    Custody c.pid? calls (Event.slots calls) ∧
    RoundTrip c w₀ (Event.changes calls) ∧
    (cwd w = cwd s.1 → ∀ dir, c.current w₀ = .ok dir →
      cwd (c.change dir (letGo c l w)).2 = cwd w₀ →
      (∀ w₁ outcome, Returns c launcher req w₀ w₁ outcome →
        (c.change dir w₁).1 = .ok () ∧ cwd (c.change dir w₁).2 = cwd w₀) →
      cwd (abandon c l w) = cwd w₀) ∧
    BackFirst (trace c launcher req w₀) ∧
    (BackFirst (leavingCalls c l w) ↔ ¬(l.holdsGuard = true ∧ (l.dir.bind home?).isSome = true)) ∧
    (l.holdsGuard = true → abandon c l w = leaveDir c l (letGo c l w) ∧
      c.slot (letGo c l w) = .idle ∧ cwd (letGo c l w) = cwd w) := by
  intro calls
  have hkept : GuardKept c w₀ l s.1 :=
    hsteps.untraced.keeps (fun _ h hstep => h.step hslot hstep)
      ⟨fun b hb => Option.some.inj hb, nofun, fun _ => rfl⟩
  have hunder := hsteps.underWay hdir
  refine ⟨abandon_slot hslot, fun hsame => ?_, hsteps.told.custody_of_left w,
    hunder.roundTrip hsteps.grounded w, fun hhere dir hread hleft hback => ?_,
    (run_course c launcher req w₀).backFirst, leavingCalls_backFirst c l w, fun hheld => ⟨rfl, ?_, ?_⟩⟩
  · rw [abandon_slot hslot]
    cases hheld : l.holdsGuard with
    | true => exact (hkept.found hheld).symm
    | false => exact hsame.trans (hkept.kept hheld)
  · exact hunder.back_of_left hdir hsteps.grounded hhere hread hleft hback
  · rw [letGo, if_pos hheld, hslot.keeps.log, hslot.setSlot_idle]
  · rw [letGo, if_pos hheld, hdir.keeps.log, hdir.setSlot]

/-- A launch in the plain world that goes to `/bin` for its command. -/
def visit : Request := { cmd := "/bin/id", changeDir := true }

/-- A launch that is left while it waits for its child is back where it was, and so is the guard. -/
theorem abandoned_launch_cleans_up_of_waiting :
    let c : Collaborators (Slot × Path) Unit := .plain default
    let w₀ : Slot × Path := (.idle, utf8 "/work")
    let left := advance c.traced {} visit Stage.isDraining {} (w₀, [])
    left.1.holdsGuard = true ∧ left.2.1 = (.tracking 1000, utf8 "/bin") ∧
      (abandon c left.1 left.2.1).1 = .idle ∧ (abandon c left.1 left.2.1).2 = utf8 "/work" ∧
      RoundTrip c w₀ (Event.changes (left.2.2 ++ leavingCalls c left.1 left.2.1)) := by
  intro c w₀ left
  have hsteps : Steps c.traced {} visit {} (w₀, []) left.1 left.2 := advance_steps _ _ _
  obtain ⟨-, hslot, -, htrip, hcwd, -⟩ := abandoned_launch_cleans_up c {} visit Prod.snd
    (plain_keepsSlot default) (plain_keepsDir default) w₀ left.1 left.2 hsteps left.2.1
  have hback : (abandon c left.1 left.2.1).2 = utf8 "/work" :=
    hcwd rfl _ rfl rfl fun _ _ _ => ⟨rfl, rfl⟩
  exact ⟨by decide +kernel, by decide +kernel, hslot rfl, hback, htrip⟩

/-- The guard is idle before the directory is back: a launch that starts in between takes the guard, and
its child starts in the directory of the one that was left. -/
theorem abandoned_launch_goes_back_late :
    let c : Collaborators (Slot × Path) Unit := .plain default
    let left := advance c {} visit Stage.isDraining {} (.idle, utf8 "/work")
    let between := letGo c left.1 left.2
    let rival := advance c {} { cmd := "/usr/bin/id" } Stage.isDraining {} between
    Steps c {} visit {} (.idle, utf8 "/work") left.1 left.2 ∧
      abandon c left.1 left.2 = leaveDir c left.1 between ∧
      ¬BackFirst (leavingCalls c left.1 left.2) ∧
      between = (.idle, utf8 "/bin") ∧
      rival.1.holdsGuard = true ∧ rival.2 = (.tracking 1000, utf8 "/bin") := by
  intro c left between rival
  have hheld : left.1.holdsGuard = true := by decide +kernel
  have hhome : (left.1.dir.bind home?).isSome = true := by decide +kernel
  have horder : ¬BackFirst (leavingCalls c left.1 left.2) := fun h =>
    (leavingCalls_backFirst c left.1 left.2).mp h ⟨hheld, hhome⟩
  exact ⟨advance_steps _ _ _, rfl, horder, by decide +kernel, by decide +kernel, by decide +kernel⟩

end ScriptExec.Launch
