-- SUMMARY: What a lookup of a bare name says about the program that the system starts for it.
import Mathlib
import ScriptExec.Builtin.Call
import ScriptExec.Proofs.Bytes
import ScriptExec.Proofs.Executor.Spawning
import ScriptExec.Proofs.Host.Tries
import ScriptExec.Proofs.SearchPath

/-!
# Lookups and the system

Without a search path of its own, an executor looks bare names up in the search path of the process, and
leaves them to the system where it launches them without a change of directory. Both go through the same
entries then, but not in the same way: only a lookup puts the home directory for a first component `~`,
only the system has entries to try where no search path is set, and only the system asks whether what is
found can be started. `bare_name_lookups` says where that makes a difference.
-/

namespace ScriptExec

namespace Launch

/-! ## Launches without a child -/

variable {σ κ : Type} {c : Collaborators σ κ} {launcher : Launcher} {req : Request}
variable {l l' : InFlight κ} {w w' : σ}

/-- A launch has no child, and if it has settled, then on a failure. -/
def Childless (l : InFlight κ) : Prop :=
  match l.stage with
  | .tracking _ | .draining _ => False
  | .restoring outcome | .reportingRestore _ _ outcome | .releasing outcome | .recording outcome
  | .finished outcome => ∃ e, outcome = .error e
  | _ => True

theorem Childless.step (h : Childless l)
    (hspawn : ∀ program child v, l.stage = .spawning program →
      c.spawn (.ofArgv program req.args.toArgv) w ≠ (.ok child, v))
    (hstep : Step c launcher req l w l' w') : Childless l' := by
  cases hstep with
  | reject | notSwitch | notLocate | notEnter | refuse | notSpawn => exact ⟨_, rfl⟩
  | spawn hchild => exact absurd hchild (hspawn _ _ _ rfl)
  | track | drain => exact h.elim
  | stay | restore | notRestore | reportRestore | release | leave | record => exact h
  | _ => trivial

/-- A launch has no child if its call to create one fails. -/
theorem Steps.childless (h : Steps c launcher req {} w l w')
    (hspawn : ∀ l₁ w₁ program child v, Steps c launcher req {} w l₁ w₁ → l₁.stage = .spawning program →
      c.spawn (.ofArgv program req.args.toArgv) w₁ ≠ (.ok child, v)) : Childless l := by
  refine h.keeps (P := fun l _ => Childless l) ?_ trivial
  intro l₁ w₁ l₂ w₂ hsteps hchildless hstep
  exact hchildless.step (fun program child v => hspawn l₁ w₁ program child v hsteps) hstep

theorem run_of_childless (h : ∀ l w', Steps c launcher req {} w l w' → Childless l) :
    ∃ e, (run c launcher req w).1 = .error e := by
  obtain ⟨last, hsteps, hstage⟩ := run_steps w
  have hlast := h last _ hsteps
  unfold Childless at hlast
  rwa [hstage] at hlast

end Launch

namespace Executor

open Host Launch

variable {executor : Executor} {req : Request} {cmd : String} {w w' : World} {path : Path}

/-! ## Launches of bare names -/

/-- Two worlds in which the same files are reached by the same paths and the same variables are set. -/
structure SameSurroundings (w w' : World) : Prop where
  tree : w'.sys.tree = w.sys.tree
  cwd : w'.sys.cwd = w.sys.cwd
  env : w'.sys.env = w.sys.env

namespace SameSurroundings

theorem isExecutableFile (h : SameSurroundings w w') :
    w'.sys.isExecutableFile = w.sys.isExecutableFile := by
  funext path
  simp only [System.isExecutableFile, h.tree, h.cwd]

theorem searchEntries (h : SameSurroundings w w') :
    Program.searchEntries w'.sys = Program.searchEntries w.sys := by
  simp only [Program.searchEntries, System.envValue?, h.env]

end SameSurroundings

/-- A launcher without a search path of its own hands over bare names as they are given. -/
theorem spawning_of_bare {l : InFlight Child} {w₁ : World} {program : Path}
    (hsearch : executor.launcher.searchPath = none) (hstay : req.changeDir = false)
    (hsteps : Steps executor.collaborators executor.launcher req {} w l w₁)
    (hstage : l.stage = .spawning program) : program = utf8 req.cmd ∧ w₁.sys = w.sys := by
  have hmoves : ¬req.changeDir = true := by simp [hstay]
  obtain ⟨hlocates, hstands⟩ := prepared hsteps hstage
  rw [Locates, if_neg hmoves, hsearch] at hlocates
  rw [StandsAt, if_neg hmoves] at hstands
  exact ⟨hlocates, hstands⟩

/-- A launch has no child if the system starts nothing for its name. -/
theorem childless_of_ofName (hsearch : executor.launcher.searchPath = none)
    (hstay : req.changeDir = false)
    (hnothing : ∀ argv program, Program.ofName w.sys (utf8 req.cmd) argv ≠ .ok program)
    {l : InFlight Child} {w₁ : World}
    (hsteps : Steps executor.collaborators executor.launcher req {} w l w₁) : Childless l := by
  apply hsteps.childless
  intro l₁ w₁ program child v hsteps hstage hspawn
  obtain ⟨rfl, hsys⟩ := spawning_of_bare hsearch hstay hsteps hstage
  simp only [collaborators, hsys] at hspawn
  split at hspawn
  · rename_i hchild
    have hname := (System.spawn_ok hchild).1
    rw [ofArgv_program] at hname
    exact hnothing _ _ hname
  · cases hspawn

/-! ## What a lookup finds -/

/-- A lookup takes an entry as the system does: as it is written, in a search path that is set. -/
def TakenAlike (sys : System) (entry : Bytes) : Prop :=
  sys.envValue? "PATH" ≠ none ∧ Lookup.expandHome (sys.envValue? "HOME") entry = entry

/-- The candidates are the name in each entry, with the home directory put in. -/
theorem find_eq_find? (hsearch : executor.launcher.searchPath = none)
    (hpath : w.sys.envValue? "PATH" ≠ none) (hslash : Byte.slash ∉ utf8 cmd) (hne : utf8 cmd ≠ []) :
    (executor.find cmd w).1 =
      ((Program.searchEntries w.sys).map fun entry =>
        Path.join (Lookup.expandHome (w.sys.envValue? "HOME") entry) (utf8 cmd)).find?
          w.sys.isExecutableFile := by
  obtain ⟨entries, hset⟩ := Option.ne_none_iff_exists'.mp hpath
  have hentries : (executor.lookup w.sys).entries = some entries := by
    simpa only [lookup, hsearch] using hset
  have hhome : (executor.lookup w.sys).home = w.sys.envValue? "HOME" := by
    simp only [lookup, hsearch]
  have hfind : (executor.find cmd w).1 =
      ((executor.lookup w.sys).candidates (utf8 cmd)).find? w.sys.isExecutableFile := rfl
  rw [hfind, Lookup.candidates_eq_inEntries hslash hne]
  unfold Lookup.inEntries Program.searchEntries
  rw [hentries, hhome, hset]
  rfl

/-- Without a search path there is nothing to find. -/
theorem find_of_unset (hsearch : executor.launcher.searchPath = none)
    (hpath : w.sys.envValue? "PATH" = none) (hslash : Byte.slash ∉ utf8 cmd) :
    (executor.find cmd w).1 = none := by
  by_contra hfound
  obtain ⟨path, hsome⟩ := Option.ne_none_iff_exists'.mp hfound
  obtain ⟨hmem, -⟩ := find_some hsome
  rw [Lookup.candidates_eq_inEntries hslash (Lookup.ne_nil_of_mem_candidates hmem)] at hmem
  obtain ⟨entries, hentries, -⟩ := Lookup.mem_inEntries hmem
  simp only [lookup, hsearch, hpath] at hentries
  cases hentries

/-- What is found is the first candidate that is an executable file. -/
theorem exists_entry_of_found (hsearch : executor.launcher.searchPath = none)
    (hslash : Byte.slash ∉ utf8 cmd) (hfound : (executor.find cmd w).1 = some path) :
    ∃ before entry after, Program.searchEntries w.sys = before ++ entry :: after ∧
      path = Path.join (Lookup.expandHome (w.sys.envValue? "HOME") entry) (utf8 cmd) ∧
      ∀ earlier ∈ before, w.sys.isExecutableFile
        (Path.join (Lookup.expandHome (w.sys.envValue? "HOME") earlier) (utf8 cmd)) = false := by
  have hne := Lookup.ne_nil_of_mem_candidates (find_some hfound).1
  have hpath : w.sys.envValue? "PATH" ≠ none := by
    intro hunset
    rw [find_of_unset hsearch hunset hslash] at hfound
    cases hfound
  rw [find_eq_find? hsearch hpath hslash hne, List.find?_eq_some_iff_append] at hfound
  obtain ⟨-, earlierPaths, laterPaths, hsplit, hnone⟩ := hfound
  obtain ⟨before, rest, hentries, rfl, hrest⟩ := List.map_eq_append_iff.mp hsplit
  obtain ⟨entry, after, rfl, rfl, -⟩ := List.map_eq_cons_iff.mp hrest
  refine ⟨before, entry, after, hentries, rfl, ?_⟩
  intro earlier hearlier
  simpa using hnone _ (List.mem_map_of_mem hearlier)

/-! ## What is missed -/

section Missed

variable (hsearch : executor.launcher.searchPath = none) (hslash : Byte.slash ∉ utf8 cmd)
variable (hmiss : (executor.find cmd w).1 = none)
-- No file is in an entry in which only the system looks for it.
variable (hunseen : ∀ entry ∈ Program.searchEntries w.sys, ¬TakenAlike w.sys entry →
  w.sys.isExecutableFile (Path.join entry (utf8 cmd)) = false)
variable (hsame : SameSurroundings w w')

include hsearch hslash hmiss hunseen hsame

/-- The system does not start what is missed, now or in another world with the same surroundings. -/
theorem ofName_of_missed (argv : List Bytes) (program : Program) :
    Program.ofName w'.sys (utf8 cmd) argv ≠ .ok program := by
  by_cases hne : utf8 cmd = []
  · intro hstarts
    rw [hne] at hstarts
    cases hstarts
  · apply Program.ofName_of_no_candidate hslash hne
    intro entry hentry
    rw [hsame.searchEntries] at hentry
    rw [hsame.isExecutableFile]
    by_cases halike : TakenAlike w.sys entry
    · obtain ⟨hpath, hwritten⟩ := halike
      rw [find_eq_find? hsearch hpath hslash hne, List.find?_eq_none] at hmiss
      have hnot := hmiss _ (List.mem_map_of_mem hentry)
      rw [hwritten] at hnot
      simpa using hnot
    · exact hunseen entry hentry halike

theorem childless_of_missed (hcmd : req.cmd = cmd) (hstay : req.changeDir = false)
    {l : InFlight Child} {w₁ : World}
    (hsteps : Steps executor.collaborators executor.launcher req {} w' l w₁) : Childless l := by
  subst hcmd
  exact childless_of_ofName hsearch hstay (ofName_of_missed hsearch hslash hmiss hunseen hsame) hsteps

/-- A launch of what is missed fails, whether it gets a runtime of its own or not. -/
theorem launchBlocking_of_missed (hcmd : req.cmd = cmd) (hstay : req.changeDir = false)
    (runtime : Runtime) : ∃ e, (executor.launchBlocking runtime req w').1 = .error e := by
  have hlaunch : ∀ v, SameSurroundings w v → ∃ e, (executor.launch req v).1 = .error e := by
    intro v hv
    apply run_of_childless
    intro l w₁ hsteps
    exact childless_of_missed hsearch hslash hmiss hunseen hv hcmd hstay hsteps
  unfold launchBlocking
  split
  · split
    · exact hlaunch _ ⟨hsame.tree, hsame.cwd, hsame.env⟩
    · exact ⟨_, rfl⟩
  · exact hlaunch w' hsame

end Missed

/-! ## Lookups and starts -/

/-- What `find_in_path` gives for a bare name is whether the executor finds it, and a launch that does not
change directory leaves the name to the system. A search path that is not set is empty for a lookup, but
not for the system. A name that is missed is not started, and no launch of it has a child, unless an entry
that the two do not take alike has a file for it. Of a name that is found, the system starts the file that
was found, where the entries up to that one are taken alike, if and only if it does not fail for good in
an entry before, and the file can be started. -/
theorem bare_name_lookups (hsearch : executor.launcher.searchPath = none)
    (hbare : cmd.toList.contains '/' = false) (w : World) :
    (∀ (args : CallArgs) (b : Builtins), b.executor = executor → args.textByNum? 0 = some cmd →
      (b.findInPath args w).value =
        some (.int (if (executor.find cmd w).1.isSome then 1 else 0))) ∧
    (∀ (req : Request) l w₁ program, req.cmd = cmd → req.changeDir = false →
      Steps executor.collaborators executor.launcher req {} w l w₁ → l.stage = .spawning program →
        program = utf8 cmd ∧ w₁.sys = w.sys) ∧
    (w.sys.envValue? "PATH" = none →
      (executor.find cmd w).1 = none ∧
        Program.searchEntries w.sys = [utf8 "/bin", utf8 "/usr/bin"]) ∧
    ((executor.find cmd w).1 = none →
      (∀ entry ∈ Program.searchEntries w.sys, ¬TakenAlike w.sys entry →
        w.sys.isExecutableFile (Path.join entry (utf8 cmd)) = false) →
      ∀ w', SameSurroundings w w' →
        (∀ argv program, Program.ofName w'.sys (utf8 cmd) argv ≠ .ok program) ∧
        ∀ (req : Request), req.cmd = cmd → req.changeDir = false →
          (∀ l w₁, Steps executor.collaborators executor.launcher req {} w' l w₁ → Childless l) ∧
          ∀ runtime, ∃ e, (executor.launchBlocking runtime req w').1 = .error e) ∧
    ∀ path, (executor.find cmd w).1 = some path →
      ∃ before entry after, Program.searchEntries w.sys = before ++ entry :: after ∧
        path = Path.join (Lookup.expandHome (w.sys.envValue? "HOME") entry) (utf8 cmd) ∧
        ((∀ taken ∈ before ++ [entry], TakenAlike w.sys taken) → ∀ argv,
          ((∃ program, Program.ofName w.sys (utf8 cmd) argv = .ok program) ∧
            Program.fileFor w.sys (utf8 cmd) argv = w.sys.fileAt path) ↔
          (∀ earlier ∈ before, Program.endsSearch w.sys argv
            (Program.inEntry (Program.cut (utf8 cmd)) earlier) = false) ∧
            Program.Starts w.sys argv (Program.inEntry (Program.cut (utf8 cmd)) entry)) := by
  have hslash : Byte.slash ∉ utf8 cmd := by
    rw [slash_mem_utf8]
    simpa using hbare
  refine ⟨?_, ?_, ?_, ?_, ?_⟩
  · rintro args b rfl hname
    simp only [Builtins.findInPath, hname, Builtins.give]
  · rintro req l w₁ program rfl hstay hsteps hstage
    exact spawning_of_bare hsearch hstay hsteps hstage
  · intro hunset
    refine ⟨find_of_unset hsearch hunset hslash, ?_⟩
    unfold Program.searchEntries
    rw [hunset]
    decide
  · intro hmiss hunseen w' hsame
    refine ⟨ofName_of_missed hsearch hslash hmiss hunseen hsame, ?_⟩
    intro req hcmd hstay
    constructor
    · intro l w₁ hsteps
      exact childless_of_missed hsearch hslash hmiss hunseen hsame hcmd hstay hsteps
    · exact launchBlocking_of_missed hsearch hslash hmiss hunseen hsame hcmd hstay
  · intro path hfound
    have hne := Lookup.ne_nil_of_mem_candidates (find_some hfound).1
    obtain ⟨before, entry, after, hentries, rfl, hbefore⟩ :=
      exists_entry_of_found hsearch hslash hfound
    refine ⟨before, entry, after, hentries, rfl, ?_⟩
    intro halike argv
    have hentry := halike entry (by simp)
    rw [hentry.2]
    apply Program.picks_candidate_iff hslash hne hentries
    intro earlier hearlier
    have hnot := hbefore earlier hearlier
    rwa [(halike earlier (List.mem_append_left _ hearlier)).2] at hnot

/-- `/w/bin/tool` is what a lookup finds and the system starts, with `/w/bin` in the search path. -/
theorem bare_name_lookups_of_tool :
    let w : World := { toolWorld with
      sys := { toolWorld.sys with env := [("PATH", utf8 "/none:/w/bin"), ("HOME", utf8 "/w")] } }
    let executor : Executor := {}
    (executor.find "tool" w).1 = some (utf8 "/w/bin/tool") ∧
      (∃ program, Program.ofName w.sys (utf8 "tool") [utf8 "tool"] = .ok program) ∧
      Program.fileFor w.sys (utf8 "tool") [utf8 "tool"] = w.sys.fileAt (utf8 "/w/bin/tool") := by
  intro w executor
  have hfound : (executor.find "tool" w).1 = some (utf8 "/w/bin/tool") := by cbv
  have hbare : "tool".toList.contains '/' = false := by decide
  have hsearch : executor.launcher.searchPath = none := rfl
  obtain ⟨-, -, -, -, hfinds⟩ := bare_name_lookups hsearch hbare w
  obtain ⟨before, entry, after, hentries, hjoin, hiff⟩ := hfinds _ hfound
  have hsplit : Program.searchEntries w.sys = [utf8 "/none", utf8 "/w/bin"] := by decide
  have halike : ∀ taken ∈ before ++ [entry], TakenAlike w.sys taken := by
    intro taken htaken
    have hmem : taken ∈ Program.searchEntries w.sys := by
      rw [hentries, List.append_cons]
      exact List.mem_append_left _ htaken
    rw [hsplit, List.mem_pair] at hmem
    rcases hmem with rfl | rfl
    · exact ⟨by decide, by decide⟩
    · exact ⟨by decide, by decide⟩
  rw [hsplit] at hentries
  refine ⟨hfound, (hiff halike _).mpr ?_⟩
  cases before with
  | nil =>
    cases hentries
    exact absurd hjoin (by decide)
  | cons first before =>
    cases before with
    | nil =>
      cases hentries
      refine ⟨?_, ?_⟩
      · intro earlier hearlier
        rw [List.mem_singleton.mp hearlier]
        cbv
      · exact ⟨⟨"true", [utf8 "tool"]⟩, by cbv⟩
    | cons second before => simp at hentries

/-- A lookup and the system differ about a name in `~/bin`, and about one in `/bin` where no search path
is set. -/
theorem bare_name_lookups_differ :
    let executor : Executor := {}
    let atHome : World := { toolWorld with
      sys := { toolWorld.sys with env := [("PATH", utf8 "~/bin"), ("HOME", utf8 "/w")] } }
    let unset : World := { toolWorld with
      sys := { toolWorld.sys with
        tree := { nodes :=
          [⟨0o755, .directory 0 [(utf8 "bin", 1)] true⟩,
            ⟨0o755, .directory 0 [(utf8 "tool", 2)] true⟩, ⟨0o755, .utility "true"⟩] } } }
    ((executor.find "tool" atHome).1 = some (utf8 "/w/bin/tool") ∧
      ∀ argv program, Program.ofName atHome.sys (utf8 "tool") argv ≠ .ok program) ∧
    (executor.find "tool" unset).1 = none ∧
      Program.ofName unset.sys (utf8 "tool") [] = .ok ⟨"true", []⟩ := by
  intro executor atHome unset
  refine ⟨⟨by cbv, ?_⟩, by cbv, by cbv⟩
  intro argv program
  apply Program.ofName_of_no_candidate (by decide) (by decide)
  intro entry hentry
  have hentries : Program.searchEntries atHome.sys = [utf8 "~/bin"] := by decide
  rw [hentries, List.mem_singleton] at hentry
  rw [hentry]
  cbv

end Executor

end ScriptExec
