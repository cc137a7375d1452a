-- SUMMARY: What a launch hands to the system, and where it stands then, by the world it began in.
import ScriptExec.Proofs.Executor.Calls

/-!
# Launches at the point of spawning

Up to the child, a launch changes nothing of its host but the working directory, and that only if it is
asked to. So what it hands to the system, and the directory from which that is looked up, are known from
the world in which it began (`prepared`).
-/

namespace ScriptExec.Executor

open Host Launch

variable {executor : Executor} {req : Request} {w w₁ w₂ : World} {l l₁ l₂ : InFlight Child}
variable {program : Path}

/-- The program is what a launch finds that is asked for it. -/
def Locates (executor : Executor) (req : Request) (w : World) (program : Path) : Prop :=
  if req.changeDir then
    if Path.isAbsolute (utf8 req.cmd) then program = utf8 req.cmd
    else (executor.find req.cmd w).1 = some program
  else if executor.launcher.searchPath.isNone || req.cmd.toList.contains '/' then
    program = utf8 req.cmd
  else (executor.find req.cmd w).1 = some program

/-- A launch that is to change directory has gone to that of its program. -/
def StandsAt (req : Request) (w : World) (program : Path) (w₁ : World) : Prop :=
  if req.changeDir then w.sys.changeDir (Path.containingDir program) = .ok w₁.sys
  else w₁.sys = w.sys

/-- What is known of a launch before its child, by its stage. -/
def Prepared (executor : Executor) (req : Request) (w : World) (l : InFlight Child)
    (w₁ : World) : Prop :=
  match l.stage with
  | .validating | .switchingUser | .locating => w₁.sys = w.sys
  | .savingDir program | .enteringDir program _ =>
    Locates executor req w program ∧ req.changeDir = true ∧ w₁.sys = w.sys
  | .reportingSave program _ | .acquiring program | .warning program | .spawning program =>
    Locates executor req w program ∧ StandsAt req w program w₁
  | _ => True

theorem find_fst_congr {v : World} (hsys : v.sys = w.sys) (name : String) :
    (executor.find name v).1 = (executor.find name w).1 := by
  simp only [find, hsys]

theorem locates_of_locate {v v' : World} (hsys : v.sys = w.sys)
    (h : locate executor.collaborators executor.launcher req v = (.ok program, v')) :
    Locates executor req w program := by
  have hfind : (executor.collaborators.find req.cmd v).1 = (executor.find req.cmd w).1 :=
    find_fst_congr hsys req.cmd
  unfold locate at h
  unfold Locates
  by_cases hmove : req.changeDir = true
  · rw [if_pos hmove] at h ⊢
    by_cases habs : Path.isAbsolute (utf8 req.cmd) = true
    · rw [if_pos habs] at h ⊢
      cases h
      rfl
    · rw [if_neg habs] at h ⊢
      split at h
      · rename_i hfound
        cases h
        rw [← hfind, hfound]
      · cases h
  · rw [if_neg hmove] at h ⊢
    by_cases hgiven : (executor.launcher.searchPath.isNone || req.cmd.toList.contains '/') = true
    · rw [if_pos hgiven] at h ⊢
      cases h
      rfl
    · rw [if_neg hgiven] at h ⊢
      split at h
      · rename_i hfound
        cases h
        rw [← hfind, hfound]
      · cases h

theorem StandsAt.of_sys (h : StandsAt req w program w₁) (hsys : w₂.sys = w₁.sys) :
    StandsAt req w program w₂ := by
  unfold StandsAt
  rw [hsys]
  exact h

theorem Prepared.step (h : Prepared executor req w l₁ w₁)
    (hstep : Step executor.collaborators executor.launcher req l₁ w₁ l₂ w₂) :
    Prepared executor req w l₂ w₂ := by
  have hearly := executor.keepsEarly_of_sys id
  cases hstep with
  | accept => exact h
  | switch hswitch => exact (switchUser_keeps hearly hswitch).trans h
  | locateToMove hlocate hmove =>
    exact ⟨locates_of_locate h hlocate, hmove, (locate_keeps hearly hlocate).trans h⟩
  | locateToStay hlocate hstay =>
    refine ⟨locates_of_locate h hlocate, ?_⟩
    rw [StandsAt, if_neg (by simp [hstay])]
    exact (locate_keeps hearly hlocate).trans h
  | save hsave =>
    obtain ⟨hlocates, hmove, hsys⟩ := h
    exact ⟨hlocates, hmove, (save_keeps hearly hsave).trans hsys⟩
  | enter hmoved | enterUnsaved hmoved =>
    obtain ⟨hlocates, hmove, hsys⟩ := h
    refine ⟨hlocates, ?_⟩
    obtain ⟨v, hchange, -, rfl⟩ := move_ok hmoved
    rw [StandsAt, if_pos hmove]
    simp only [collaborators, directories] at hchange
    split at hchange
    · rename_i sys hsys'
      cases hchange
      rw [← hsys]
      exact hsys'
    · cases hchange
  | reportSave => exact ⟨h.1, h.2.of_sys (World.tell_sys _ _ _ _ _)⟩
  | acquire => exact h
  | warn =>
    refine ⟨h.1, h.2.of_sys ?_⟩
    split
    · rfl
    · exact World.tell_sys _ _ _ _ _
  | _ => trivial

/-- What a launch hands to the system is what it finds in the world it began in, and it stands in that
world's directory or in the one of its program. -/
theorem prepared (hsteps : Steps executor.collaborators executor.launcher req {} w l w₁)
    (hstage : l.stage = .spawning program) :
    Locates executor req w program ∧ StandsAt req w program w₁ := by
  have hprepared : Prepared executor req w l w₁ :=
    hsteps.keeps (fun _ h hstep => h.step hstep) rfl
  unfold Prepared at hprepared
  rw [hstage] at hprepared
  exact hprepared

@[simp]
theorem ofArgv_program (argv : List Bytes) : (SpawnPlan.ofArgv program argv).program = program := by
  cases argv <;> rfl

/-- What is found is one of the candidates, and a file. -/
theorem find_some {name : String} (h : (executor.find name w).1 = some program) :
    program ∈ (executor.lookup w.sys).candidates (utf8 name) ∧
      ∃ id node, w.sys.tree.resolve w.sys.cwd true program = .ok (id, node) ∧
        node.isDirectory = false := by
  have hfind : ((executor.lookup w.sys).candidates (utf8 name)).find? w.sys.isExecutableFile =
      some program := h
  refine ⟨List.mem_of_find?_eq_some hfind, ?_⟩
  have hprogram := List.find?_some hfind
  unfold System.isExecutableFile at hprogram
  split at hprogram
  · rename_i id node hnode
    refine ⟨id, node, hnode, ?_⟩
    simp only [Bool.and_eq_true, Node.isRegular] at hprogram
    unfold Node.isDirectory
    split
    · rename_i hcontent
      simp [hcontent] at hprogram
    · rfl
  · cases hprogram

/-! ## A small world -/

/-- A process in `/w`, with a program `/w/bin/tool`. -/
def toolWorld : World where
  sys :=
    { tree := { nodes :=
        [⟨0o755, .directory 0 [(utf8 "w", 1)] true⟩, ⟨0o755, .directory 0 [(utf8 "bin", 2)] true⟩,
          ⟨0o755, .directory 1 [(utf8 "tool", 3)] true⟩, ⟨0o755, .utility "true"⟩] }
      cwd := 1, env := [], descriptors := [], limit := 1024, nextPid := 1000 }

def isSpawning : Stage Child → Bool
  | .spawning _ => true
  | _ => false

end ScriptExec.Executor
