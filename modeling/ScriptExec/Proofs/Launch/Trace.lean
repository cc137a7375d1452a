-- SUMMARY: The trace of a launch: every call of its collaborators that can change the world.
import ScriptExec.Proofs.Launch.Agreement

/-!
# Traces

A launch changes the world through its collaborators only, so what it does is the list of those calls
with their answers. Collaborators that keep such a list beside the world (`Collaborators.traced`) answer
as without it, and a launch through them is the same launch (`Launch.run_traced`).
-/

namespace ScriptExec

variable {σ κ : Type}

/-- A call of a collaborator and its answer. -/
inductive Launch.Event (κ : Type)
  | change (path : Path) (answer : Except IoError Unit)
  | log (record : Log.Record)
  | becomeUser (user : String) (answer : Except String Unit)
  | find (name : String) (answer : Option Path)
  | setSlot (slot : Slot)
  | spawn (plan : SpawnPlan) (answer : Except IoError κ)
  | drain (chunk : Nat) (child : κ) (outputs : Outputs)
  | error (text : String)
  | warn (text : String)

/-- Collaborators that note every call, the last one at the end. -/
def Collaborators.traced (c : Collaborators σ κ) : Collaborators (σ × List (Launch.Event κ)) κ where
  current s := c.current s.1
  change path s :=
    let (answer, w) := c.change path s.1
    (answer, w, s.2 ++ [.change path answer])
  log record s := (c.log record s.1, s.2 ++ [.log record])
  becomeUser user s :=
    let (answer, w) := c.becomeUser user s.1
    (answer, w, s.2 ++ [.becomeUser user answer])
  find name s :=
    let (answer, w) := c.find name s.1
    (answer, w, s.2 ++ [.find name answer])
  slot s := c.slot s.1
  setSlot slot s := (c.setSlot slot s.1, s.2 ++ [.setSlot slot])
  spawn plan s :=
    let (answer, w) := c.spawn plan s.1
    (answer, w, s.2 ++ [.spawn plan answer])
  pid? := c.pid?
  outputs chunk child s :=
    let (outputs, w) := c.outputs chunk child s.1
    (outputs, w, s.2 ++ [.drain chunk child outputs])
  error text s := (c.error text s.1, s.2 ++ [.error text])
  warn text s := (c.warn text s.1, s.2 ++ [.warn text])

/-- Noting the calls changes no answer. -/
theorem Collaborators.traced_agrees (c : Collaborators σ κ) :
    Collaborators.AgreeFully (fun s w => s.1 = w) c.traced c where
  current := by rintro s _ rfl; rfl
  change path := by rintro s _ rfl; exact ⟨rfl, rfl⟩
  log record := by rintro s _ rfl; rfl
  becomeUser user := by rintro s _ rfl; exact ⟨rfl, rfl⟩
  find name := by rintro s _ rfl; exact ⟨rfl, rfl⟩
  slot := by rintro s _ rfl; rfl
  setSlot slot := by rintro s _ rfl; rfl
  error text := by rintro s _ rfl; rfl
  warn text := by rintro s _ rfl; rfl
  spawn plan := by rintro s _ rfl; exact ⟨rfl, rfl⟩
  pid? _ := rfl
  outputs chunk child := by rintro s _ rfl; exact ⟨rfl, rfl⟩

namespace Launch

namespace Event

/-- The changes of directory among some calls, with their answers. -/
def changes (events : List (Event κ)) : List (Path × Except IoError Unit) :=
  events.filterMap fun
    | .change path answer => some (path, answer)
    | _ => none

/-- The errors reported in some calls. -/
def errors (events : List (Event κ)) : List String :=
  events.filterMap fun
    | .error text => some text
    | _ => none

/-- The warnings reported in some calls. -/
def warnings (events : List (Event κ)) : List String :=
  events.filterMap fun
    | .warn text => some text
    | _ => none

/-- The requests to become another user among some calls, with their answers. -/
def requests (events : List (Event κ)) : List (String × Except String Unit) :=
  events.filterMap fun
    | .becomeUser user answer => some (user, answer)
    | _ => none

/-- What some calls write into the guard's slot. -/
def slots (events : List (Event κ)) : List Slot :=
  events.filterMap fun
    | .setSlot slot => some slot
    | _ => none

/-- The plans that some calls hand to the system, with its answers. -/
def spawns (events : List (Event κ)) : List (SpawnPlan × Except IoError κ) :=
  events.filterMap fun
    | .spawn plan answer => some (plan, answer)
    | _ => none

variable (es fs : List (Event κ))

@[simp] theorem warnings_append : warnings (es ++ fs) = warnings es ++ warnings fs :=
  List.filterMap_append ..

@[simp] theorem requests_append : requests (es ++ fs) = requests es ++ requests fs :=
  List.filterMap_append ..

@[simp] theorem slots_append : slots (es ++ fs) = slots es ++ slots fs :=
  List.filterMap_append ..

@[simp] theorem spawns_append : spawns (es ++ fs) = spawns es ++ spawns fs :=
  List.filterMap_append ..

end Event

variable (c : Collaborators σ κ) (launcher : Launcher) (req : Request)

/-- Calls that were noted earlier change no answer, and stay noted. -/
theorem traced_agrees_behind (earlier : List (Event κ)) :
    Collaborators.AgreeFully (fun s s' => s = (s'.1, earlier ++ s'.2)) c.traced c.traced where
  current := by
    rintro _ ⟨w, es⟩ rfl
    rfl
  change path := by
    rintro _ ⟨w, es⟩ rfl
    exact ⟨rfl, Prod.ext rfl (List.append_assoc ..)⟩
  log record := by
    rintro _ ⟨w, es⟩ rfl
    exact Prod.ext rfl (List.append_assoc ..)
  becomeUser user := by
    rintro _ ⟨w, es⟩ rfl
    exact ⟨rfl, Prod.ext rfl (List.append_assoc ..)⟩
  find name := by
    rintro _ ⟨w, es⟩ rfl
    exact ⟨rfl, Prod.ext rfl (List.append_assoc ..)⟩
  slot := by
    rintro _ ⟨w, es⟩ rfl
    rfl
  setSlot slot := by
    rintro _ ⟨w, es⟩ rfl
    exact Prod.ext rfl (List.append_assoc ..)
  error text := by
    rintro _ ⟨w, es⟩ rfl
    exact Prod.ext rfl (List.append_assoc ..)
  warn text := by
    rintro _ ⟨w, es⟩ rfl
    exact Prod.ext rfl (List.append_assoc ..)
  spawn plan := by
    rintro _ ⟨w, es⟩ rfl
    exact ⟨rfl, Prod.ext rfl (List.append_assoc ..)⟩
  pid? _ := rfl
  outputs chunk child := by
    rintro _ ⟨w, es⟩ rfl
    exact ⟨rfl, Prod.ext rfl (List.append_assoc ..)⟩

/-- The calls of one step. -/
def stepCalls (l : InFlight κ) (w : σ) : List (Event κ) :=
  (step c.traced launcher req l (w, [])).2.2

theorem step_traced (l : InFlight κ) (w : σ) (es : List (Event κ)) :
    step c.traced launcher req l (w, es) =
      ((step c launcher req l w).1, (step c launcher req l w).2,
        es ++ stepCalls c launcher req l w) := by
  have hworld : Alike (fun s w => s.1 = w) (step c.traced launcher req l (w, es))
      (step c launcher req l w) :=
    step_alike_fully launcher req c.traced_agrees l rfl
  have hstart : (w, es) = (w, es ++ []) := Prod.ext rfl (List.append_nil es).symm
  have hbehind : Alike (fun s s' => s = (s'.1, es ++ s'.2)) (step c.traced launcher req l (w, es))
      (step c.traced launcher req l (w, [])) :=
    step_alike_fully launcher req (traced_agrees_behind c es) l hstart
  have hcalls : (step c.traced launcher req l (w, es)).2.2 =
      es ++ stepCalls c launcher req l w := by
    have hstate := hbehind.2
    exact congrArg Prod.snd hstate
  exact Prod.ext hworld.1 (Prod.ext hworld.2 hcalls)

/-- The calls a launch makes, in order. -/
def trace (w : σ) : List (Event κ) :=
  (run c.traced launcher req (w, [])).2.2

theorem run_traced (w : σ) :
    run c.traced launcher req (w, []) =
      ((run c launcher req w).1, (run c launcher req w).2, trace c launcher req w) := by
  obtain ⟨houtcome, hworld⟩ : Alike (fun s w => s.1 = w) (run c.traced launcher req (w, []))
      (run c launcher req w) :=
    complete_alike launcher req c.traced_agrees {} rfl
  rw [← houtcome, ← hworld]
  rfl

/-- The calls a launch still makes, from where it is. -/
def callsFrom (l : InFlight κ) (w : σ) : List (Event κ) :=
  (complete c.traced launcher req l (w, [])).2.2

/-- Where a launch comes while its calls are noted, it comes without that. -/
theorem Steps.untraced {c : Collaborators σ κ} {launcher : Launcher} {req : Request} {l l' : InFlight κ}
    {s s' : σ × List (Event κ)} (h : Steps c.traced launcher req l s l' s') :
    Steps c launcher req l s.1 l' s'.1 := by
  induction h with
  | refl => exact .refl
  | @tail l₁ s₁ _ hgoing ih =>
    obtain ⟨hnext, hworld⟩ : Alike (fun s w => s.1 = w) (step c.traced launcher req l₁ s₁)
        (step c launcher req l₁ s₁.1) :=
      step_alike_fully launcher req c.traced_agrees l₁ rfl
    rw [hnext, hworld]
    exact .tail ih hgoing

section

variable {c : Collaborators σ κ} {launcher : Launcher} {req : Request} {l l' : InFlight κ}

/-- On every way, the calls can be noted. -/
theorem Steps.traced {w w' : σ} (h : Steps c launcher req l w l' w') (es : List (Event κ)) :
    ∃ fs, Steps c.traced launcher req l (w, es) l' (w', fs) := by
  induction h with
  | refl => exact ⟨es, .refl⟩
  | @tail l₁ w₁ _ hgoing ih =>
    obtain ⟨fs, hsteps⟩ := ih
    have hnext := hsteps.tail hgoing
    rw [step_traced] at hnext
    exact ⟨_, hnext⟩

/-- Calls that were noted stay noted. -/
theorem Steps.calls_prefix {s s' : σ × List (Event κ)} (h : Steps c.traced launcher req l s l' s') :
    s.2 <+: s'.2 := by
  induction h with
  | refl => exact List.prefix_refl _
  | @tail l₁ s₁ _ _ ih =>
    rw [show s₁ = (s₁.1, s₁.2) from rfl, step_traced]
    exact ih.trans (List.prefix_append _ _)

/-- What a launch has called on its way, it has called. -/
theorem Steps.calls_of_trace {w : σ} {s : σ × List (Event κ)}
    (h : Steps c.traced launcher req {} (w, []) l s) : ∃ more, s.2 ++ more = trace c launcher req w := by
  obtain ⟨last, hrest, -⟩ := @complete_steps _ _ c.traced launcher req l s
  rw [← h.complete_eq] at hrest
  exact hrest.calls_prefix

end

end Launch

end ScriptExec
