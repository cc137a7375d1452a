-- SUMMARY: How often a launch drains a child, with which chunk size, and what comes of it.
import ScriptExec.Proofs.Launch.Order

/-!
# Reading from children

A launch fails without a drain, or it drains one child in pieces of the chunk size of its multiplexer, and what that
gives is the outcome of the launch (`Course.drainsOnce`).
-/

namespace ScriptExec.Launch

variable {σ κ : Type} {es fs : List (Event κ)}

/-- The drains among some calls: the chunk size, the child, and its outputs. -/
def Event.drains (events : List (Event κ)) : List (Nat × κ × Outputs) :=
  events.filterMap fun
    | .drain chunk child outputs => some (chunk, child, outputs)
    | _ => none

@[simp]
theorem Event.drains_append : drains (es ++ fs) = drains es ++ drains fs :=
  List.filterMap_append ..

theorem Aside.drains (h : Aside es) : Event.drains es = [] := by
  apply filterMap_eq_nil_of_forall h
  intro event haside
  cases event <;> first | rfl | cases haside

section

variable {pid? : κ → Option Nat} {launcher : Launcher} {req : Request} {program : Path} {outcome : Outcome}
variable {home : Option Path} {held : Bool}

theorem Approach.drains {answer : Except ExecError Unit} (h : Approach launcher req es answer) :
    Event.drains es = [] := by
  obtain ⟨u, rest, huser, hrest, rfl⟩ := h
  have hasked : Event.drains u = [] := by cases huser <;> rfl
  rw [Event.drains_append, hasked, hrest.drains, List.append_nil]

theorem namedReport_drains : Event.drains (κ := κ) (namedReport req) = [] := by
  unfold namedReport
  split <;> rfl

theorem childNote_drains (child : κ) : Event.drains (childNote pid? child) = [] := by
  unfold childNote
  split <;> rfl

theorem parting_drains : Event.drains (κ := κ) (parting held outcome) = [] := by
  cases held <;> rfl

theorem reading_drains (child : κ) (outputs : Outputs) :
    Event.drains (reading launcher child outputs) = [(launcher.multiplexer.chunkSize, child, outputs)] := by
  simp [reading, Event.drains]

/-- A failure without a drain, or one drain whose outcome is the outcome of all. -/
def DrainsOnce (m : Multiplexer) (es : List (Event κ)) (outcome : Outcome) : Prop :=
  (Event.drains es = [] ∧ ∃ e, outcome = .error e) ∨
    ∃ child outputs, Event.drains es = [(m.chunkSize, child, outputs)] ∧
      outcome = (m.drain outputs.a outputs.b outputs.schedule).1

/-- Calls without a drain, before or after, change nothing about it. -/
theorem DrainsOnce.between {m : Multiplexer} {before after : List (Event κ)} (h : DrainsOnce m es outcome)
    (hbefore : Event.drains before = []) (hafter : Event.drains after = []) :
    DrainsOnce m (before ++ es ++ after) outcome := by
  unfold DrainsOnce
  rwa [Event.drains_append, Event.drains_append, hbefore, hafter, List.nil_append, List.append_nil]

theorem ChildCalls.drainsOnce (h : ChildCalls pid? launcher req program es outcome) :
    DrainsOnce launcher.multiplexer es outcome := by
  cases h with
  | notSpawned => exact .inl ⟨rfl, _, rfl⟩
  | drained child outputs =>
    refine .inr ⟨child, outputs, ?_, rfl⟩
    rw [Event.drains_append, Event.drains_append, childNote_drains, reading_drains]
    rfl

theorem Settled.drainsOnce (h : Settled pid? launcher req home held es outcome) :
    DrainsOnce launcher.multiplexer es outcome := by
  cases h with
  | busy hready => exact .inl ⟨(hready.approach.append refusal_aside).drains, _, rfl⟩
  | held hready hchild =>
    have hbefore := hready.approach.drains
    rw [← List.append_nil (_ ++ _)]
    refine hchild.drainsOnce.between ?_ rfl
    rw [Event.drains_append, Event.drains_append, hbefore, namedReport_drains]
    rfl

/-- A launch that does not fail before has drained one child, in pieces of the size that its multiplexer has, and has
the outcome of that drain. -/
theorem Course.drainsOnce (h : Course pid? launcher req es outcome) :
    DrainsOnce launcher.multiplexer es outcome := by
  cases h with
  | early hearly =>
    rcases hearly.approach with rfl | ⟨answer, happroach⟩
    · exact .inl ⟨rfl, _, rfl⟩
    · exact .inl ⟨happroach.drains, _, rfl⟩
  | @settled _ held es back _ hsettled hback =>
    have hrest : Event.drains (back ++ parting held outcome) = [] := by
      rw [Event.drains_append, hback.aside.drains, parting_drains]
      rfl
    have hcalls : DrainsOnce launcher.multiplexer ([] ++ es ++ (back ++ parting held outcome)) outcome :=
      hsettled.drainsOnce.between rfl hrest
    rwa [List.nil_append, ← List.append_assoc] at hcalls

end

end ScriptExec.Launch
