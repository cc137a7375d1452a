-- SUMMARY: Whether a launch is away from the directory it has noted, and how each step treats that directory.
import ScriptExec.Proofs.Launch.Journey

/-!
# Launches that are away

A launch is away from the moment at which it has noted the working directory until it has gone back or has
failed to leave (`InFlight.isAway`). Only three kinds of steps use the directory that is current
then: entering the command's directory, creating the child, and going back (`InFlight.usesDir`). How each
step treats the directory is one of six cases (`Step.atDir`).
-/

namespace ScriptExec.Launch

variable {σ κ δ : Type}

/-- The program of a launch that has found it and has not created the child yet. -/
def Stage.program? : Stage κ → Option Path
  | .savingDir program | .enteringDir program _ | .reportingSave program _ | .acquiring program
  | .warning program | .spawning program => some program
  | _ => none

namespace InFlight

/-- The launch has noted the working directory, and has neither gone back nor failed to leave. -/
def isAway (l : InFlight κ) : Bool :=
  match l.stage.leg with
  | .leaving _ => true
  | .abroad => l.dir.isSome
  | _ => false

/-- The next step starts from the current directory, or gives it to a child. -/
def usesDir (l : InFlight κ) : Bool :=
  match l.stage with
  | .enteringDir _ _ | .spawning _ | .restoring _ => true
  | _ => false

/-- The launch is in a context from when it has entered the command's directory, if it is to enter it. -/
def Fits (req : Request) (l : InFlight κ) : Prop :=
  match l.stage with
  | .validating | .switchingUser | .locating => l.dir = none
  | .savingDir _ | .enteringDir _ _ => l.dir = none ∧ req.changeDir = true
  | stage => stage.leg = .abroad → l.dir.isSome = req.changeDir

end InFlight

variable {c : Collaborators σ κ} {launcher : Launcher} {req : Request} {cwd : σ → δ}

theorem Step.fits {l l' : InFlight κ} {w w' : σ} (h : Step c launcher req l w l' w')
    (hfits : l.Fits req) : l'.Fits req := by
  cases h <;> simp_all [InFlight.Fits, Stage.leg]

/-- How a step treats the working directory. -/
inductive AtDir (c : Collaborators σ κ) (cwd : σ → δ) : InFlight κ → σ → InFlight κ → σ → Prop
  | home {l l' w w'} (hhere : l.isAway = false) (hthere : l'.isAway = false)
      (hcwd : cwd w' = cwd w) : AtDir c cwd l w l' w'
  | notes {program dir held w w'} (hcwd : cwd w' = cwd w) :
      AtDir c cwd ⟨.savingDir program, dir, held⟩ w ⟨.enteringDir program (c.current w), dir, held⟩ w'
  | enters {program saved dir held l' w w'}
      (hchange : (c.change (Path.containingDir program) w).1 = .ok ())
      (hcwd : cwd w' = cwd (c.change (Path.containingDir program) w).2)
      (hleg : l'.stage.leg = .abroad) (hprogram : l'.stage.program? = some program)
      (hdir : l'.dir = some ⟨saved.toOption, Path.containingDir program, false⟩) :
      AtDir c cwd ⟨.enteringDir program saved, dir, held⟩ w l' w'
  | barred {program saved dir held l' w w'} (hthere : l'.isAway = false) (hcwd : cwd w' = cwd w) :
      AtDir c cwd ⟨.enteringDir program saved, dir, held⟩ w l' w'
  | stays {l l' w w'} (hleg : l.stage.leg = .abroad) (hleg' : l'.stage.leg = .abroad)
      (hprogram : ∀ program, l'.stage.program? = some program → l.stage.program? = some program)
      (hdir : l'.dir = l.dir) (hcwd : cwd w' = cwd w) : AtDir c cwd l w l' w'
  | returns {outcome context held l' w w'} (hthere : l'.isAway = false)
      (hcwd : ∀ path target, context = ⟨some path, target, false⟩ →
        cwd w' = cwd (c.change path w).2) :
      AtDir c cwd ⟨.restoring outcome, some context, held⟩ w l' w'

theorem Step.atDir (hc : KeepsDir c cwd) {l l' : InFlight κ} {w w' : σ} (hfits : l.Fits req)
    (h : Step c launcher req l w l' w') : AtDir c cwd l w l' w' := by
  have hearly := hc.keeps.toKeepsEarly
  cases h with
  | accept | reject => exact .home rfl rfl rfl
  | switch hswitch => exact .home rfl rfl (switchUser_keeps hearly hswitch)
  | notSwitch hswitch => exact .home rfl rfl (switchUser_keeps hearly hswitch)
  | locateToMove hlocate => exact .home rfl rfl (locate_keeps hearly hlocate)
  | locateToStay hlocate =>
    obtain rfl : _ = none := hfits
    exact .home rfl rfl (locate_keeps hearly hlocate)
  | notLocate hlocate => exact .home rfl rfl (locate_keeps hearly hlocate)
  | save hsave =>
    obtain rfl := save_answer hsave
    exact .notes (save_keeps hearly hsave)
  | enter hmove | enterUnsaved hmove =>
    obtain ⟨v, hchange, rfl, rfl⟩ := move_ok hmove
    exact .enters (by rw [hchange]) (by rw [hchange]; exact hearly.log _ v) rfl rfl rfl
  | notEnter hmove =>
    obtain ⟨cause, hchange, rfl⟩ := move_error hmove
    have hkept := hc.failed _ w cause (by rw [hchange])
    rw [hchange] at hkept
    exact .barred rfl hkept
  | reportSave => exact .stays rfl rfl (fun _ => id) rfl (hc.keeps.warn _ w)
  | acquire =>
    exact .stays rfl rfl (fun _ => id) rfl ((hearly.log _ _).trans (hc.setSlot _ w))
  | busy => exact .stays rfl rfl nofun rfl (hearly.log _ w)
  | refuse => exact .stays rfl rfl nofun rfl rfl
  | warn =>
    refine .stays rfl rfl (fun _ => id) rfl ?_
    split
    · rfl
    · exact hc.keeps.warn _ w
  | notSpawn hspawn =>
    have hkept := (congrArg (fun x => cwd x.2) hspawn).symm.trans (hc.keeps.spawn _ w)
    exact .stays rfl rfl nofun rfl hkept
  | spawn hspawn =>
    have hkept := (congrArg (fun x => cwd x.2) hspawn).symm.trans (hc.keeps.spawn _ w)
    exact .stays rfl rfl nofun rfl ((hearly.log _ _).trans hkept)
  | track =>
    refine .stays rfl rfl nofun rfl ?_
    split
    · exact hc.setSlot _ w
    · rfl
  | drain hout =>
    have hkept := (congrArg (fun x => cwd x.2) hout).symm.trans (hc.keeps.outputs _ _ w)
    exact .stays rfl rfl nofun rfl ((hearly.log _ _).trans ((logAll_keeps hearly _ _).trans hkept))
  | stay => exact .home rfl rfl rfl
  | restore hrestore =>
    refine .returns rfl fun path target hcontext => ?_
    obtain rfl := hcontext
    obtain ⟨v, hchange, rfl⟩ := restore_ok rfl rfl hrestore
    rw [hchange]
    exact hearly.log _ v
  | notRestore hrestore =>
    refine .returns rfl fun path target hcontext => ?_
    obtain rfl := hcontext
    obtain ⟨hsaved, hchange⟩ := restore_error hrestore
    obtain rfl := Option.some.inj hsaved
    rw [hchange]
  | reportRestore => exact .home rfl rfl (hc.error _ w)
  | release => exact .home rfl rfl ((hearly.log _ _).trans (hc.setSlot _ w))
  | leave => exact .home rfl rfl rfl
  | record => exact .home rfl rfl (hearly.log _ w)

end ScriptExec.Launch
