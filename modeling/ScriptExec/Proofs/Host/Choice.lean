-- SUMMARY: Which file the system executes for a name: the one of a path, or of the first entry that has one.
import ScriptExec.Host.Program

/-!
# The file that a name starts

The system settles on a path before it starts anything (`Program.settle`), and that path alone decides how
the start goes (`Program.ofName_eq`). A name with a slash is that path, whatever the search path of the
process says; for any other name the search path says it all.
-/

namespace ScriptExec.Host

/-- The file that a path leads to from the working directory. -/
def System.fileAt (sys : System) (path : Path) : Option NodeId :=
  (sys.tree.resolve sys.cwd true path).toOption.map Prod.fst

namespace Program

variable {sys : System} {name : Bytes} {argv : List Bytes}

/-- The path that is tried for a name in an entry of the search path. -/
def inEntry (name entry : Bytes) : Path :=
  if entry.isEmpty then name else entry ++ [Byte.slash] ++ name

/-- The paths that are tried for a name without a slash, in order. -/
def tries (sys : System) (name : Bytes) : List Path :=
  (((sys.envValue? "PATH").getD defaultSearchPath).splitOn Byte.colon).map (inEntry name)

/-- Whether the search goes no further than a path: it starts a program, or fails for good. -/
def endsSearch (sys : System) (argv : List Bytes) (path : Path) : Bool :=
  match ofPath sys path argv with
  | .ok _ => true
  | .error cause => !isMiss cause

/-- The path that a name stands for in the end, if there is one. -/
def settle (sys : System) (name : Bytes) (argv : List Bytes) : Option Path :=
  if name.isEmpty then none
  else if name.contains Byte.slash then some name
  else (tries sys (name.take (FileTree.maxName + 1))).find? (endsSearch sys argv)

/-- The file that is executed for a name. -/
def fileFor (sys : System) (name : Bytes) (argv : List Bytes) : Option NodeId :=
  (settle sys name argv).bind sys.fileAt

theorem inEntries_eq (denied : Bool) (entries : List Bytes) :
    (∃ path, (entries.map (inEntry name)).find? (endsSearch sys argv) = some path ∧
      inEntries sys name argv denied entries = ofPath sys path argv) ∨
    (entries.map (inEntry name)).find? (endsSearch sys argv) = none ∧
      ∃ cause, inEntries sys name argv denied entries = .error cause := by
  induction entries generalizing denied with
  | nil => exact .inr ⟨rfl, _, rfl⟩
  | cons entry rest ih =>
    rw [List.map_cons, List.find?_cons, inEntries, ← inEntry]
    cases hpath : ofPath sys (inEntry name entry) argv with
    | ok program =>
      have hends : endsSearch sys argv (inEntry name entry) = true := by simp [endsSearch, hpath]
      rw [hends]
      exact .inl ⟨_, rfl, hpath.symm⟩
    | error cause =>
      cases hmiss : isMiss cause with
      | false =>
        have hends : endsSearch sys argv (inEntry name entry) = true := by
          simp [endsSearch, hpath, hmiss]
        rw [hends]
        exact .inl ⟨_, rfl, by simp [hpath, hmiss]⟩
      | true =>
        have hgoes : endsSearch sys argv (inEntry name entry) = false := by
          simp [endsSearch, hpath, hmiss]
        rw [hgoes]
        simpa [hmiss] using ih (denied || cause == .accessDenied)

/-- A name starts what the path starts on which the system settles, or nothing. -/
theorem ofName_eq (sys : System) (name : Bytes) (argv : List Bytes) :
    (∃ path, settle sys name argv = some path ∧ ofName sys name argv = ofPath sys path argv) ∨
      settle sys name argv = none ∧ ∃ cause, ofName sys name argv = .error cause := by
  unfold ofName settle
  split
  · exact .inr ⟨rfl, _, rfl⟩
  · split
    · exact .inl ⟨name, rfl, rfl⟩
    · exact inEntries_eq false _

theorem settle_of_slash (hslash : Byte.slash ∈ name) : settle sys name argv = some name := by
  have hne : name.isEmpty = false := by
    cases name with
    | nil => cases hslash
    | cons b rest => rfl
  simp [settle, hne, hslash]

/-- A name with a slash stands for the file it leads to. -/
theorem fileFor_of_slash (hslash : Byte.slash ∈ name) : fileFor sys name argv = sys.fileAt name := by
  rw [fileFor, settle_of_slash hslash]
  rfl

theorem fileAt_of_follow {scripts : Nat} {path : Path} {program : Program}
    (h : follow sys scripts path argv = .ok program) : ∃ id, sys.fileAt path = some id := by
  cases hresolve : sys.tree.resolve sys.cwd true path with
  | error cause =>
    unfold follow at h
    simp [executable, hresolve, bind, Except.bind] at h
  | ok found => exact ⟨found.1, by rw [System.fileAt, hresolve]; rfl⟩

/-- What a path leads to does not depend on the arguments. -/
theorem follow_congr (scripts : Nat) (path : Path) (argv argv' : List Bytes) :
    (follow sys scripts path argv).map utility = (follow sys scripts path argv').map utility := by
  induction scripts generalizing path argv argv' with
  | zero =>
    unfold follow
    cases executable sys path with
    | error cause => rfl
    | ok content =>
      cases content <;> rfl
  | succ scripts ih =>
    unfold follow
    cases executable sys path with
    | error cause => rfl
    | ok content =>
      cases content with
      | regular bytes =>
        simp only [bind, Except.bind]
        cases interpreter? bytes with
        | none => rfl
        | some named => exact ih _ _ _
      | _ => rfl

variable {argv' : List Bytes}

theorem ofPath_congr (hfits : fits sys.env argv = true) (hfits' : fits sys.env argv' = true) (path : Path) :
    (ofPath sys path argv).map utility = (ofPath sys path argv').map utility := by
  rw [ofPath, ofPath, if_pos hfits, if_pos hfits']
  exact follow_congr _ path argv argv'

/-- Arguments that fit do not matter to where a search ends. -/
theorem settle_congr (hfits : fits sys.env argv = true) (hfits' : fits sys.env argv' = true) :
    settle sys name argv = settle sys name argv' := by
  have hends : endsSearch sys argv = endsSearch sys argv' := by
    funext path
    have hsame := ofPath_congr hfits hfits' path
    unfold endsSearch
    generalize ofPath sys path argv = started at hsame ⊢
    generalize ofPath sys path argv' = started' at hsame ⊢
    cases started with
    | error cause =>
      cases started' with
      | error cause' =>
        cases hsame
        rfl
      | ok program' => cases hsame
    | ok program =>
      cases started' with
      | error cause' => cases hsame
      | ok program' => rfl
  rw [settle, settle, hends]

end Program

/-- The file that the system executes for a plan. -/
def System.executes (sys : System) (plan : SpawnPlan) : Option NodeId :=
  Program.fileFor sys plan.program plan.argv

/-- A child runs what its name starts, and is all that creating it changes. -/
theorem System.spawn_ok {sys sys' : System} {plan : SpawnPlan} {child : Child}
    (h : sys.spawn plan = .ok (child, sys')) :
    Program.ofName sys plan.program plan.argv = .ok child.program ∧
      sys' = { sys with nextPid := sys.nextPid + 1 } := by
  unfold spawn at h
  split at h
  · cases h
  · split at h
    · cases h
    · cases hprogram : Program.ofName sys plan.program plan.argv with
      | error cause => simp [hprogram, bind, Except.bind] at h
      | ok program =>
        simp only [hprogram, bind, Except.bind, pure, Except.pure, Except.ok.injEq,
          Prod.mk.injEq] at h
        rw [← h.1]
        exact ⟨rfl, h.2.symm⟩

/-- A child is what the path starts on which the system settles, and that path leads to a file. -/
theorem System.executes_of_spawn {sys sys' : System} {plan : SpawnPlan} {child : Child}
    (h : sys.spawn plan = .ok (child, sys')) :
    ∃ path id, sys.executes plan = some id ∧ sys.fileAt path = some id ∧
      Program.ofPath sys path plan.argv = .ok child.program := by
  obtain ⟨hprogram, -⟩ := spawn_ok h
  rcases Program.ofName_eq sys plan.program plan.argv with ⟨path, hsettle, hname⟩ | ⟨-, cause, hname⟩
  · rw [hprogram] at hname
    have hpath := hname.symm
    unfold Program.ofPath at hpath
    split at hpath
    · obtain ⟨id, hid⟩ := Program.fileAt_of_follow hpath
      exact ⟨path, id, by rw [executes, Program.fileFor, hsettle]; exact hid, hid, hname.symm⟩
    · split at hpath <;> cases hpath
  · rw [hprogram] at hname
    cases hname

/-- Arguments with which a child is created fit. -/
theorem System.fits_of_spawn {sys sys' : System} {plan : SpawnPlan} {child : Child}
    (h : sys.spawn plan = .ok (child, sys')) : Program.fits sys.env plan.argv = true := by
  obtain ⟨path, id, -, -, hpath⟩ := executes_of_spawn h
  unfold Program.ofPath at hpath
  split at hpath
  · assumption
  · split at hpath <;> cases hpath

/-- Children of one program run the same file, whatever their arguments are. -/
theorem System.executes_congr {sys sys' sys'' : System} {plan plan' : SpawnPlan} {child child' : Child}
    (hprogram : plan.program = plan'.program) (h : sys.spawn plan = .ok (child, sys'))
    (h' : sys.spawn plan' = .ok (child', sys'')) :
    sys.executes plan = sys.executes plan' ∧ child.program.utility = child'.program.utility := by
  have hsettle : Program.settle sys plan.program plan.argv = Program.settle sys plan'.program plan'.argv := by
    rw [hprogram]
    exact Program.settle_congr (fits_of_spawn h) (fits_of_spawn h')
  refine ⟨by rw [executes, executes, Program.fileFor, Program.fileFor, hsettle], ?_⟩
  obtain ⟨hchild, -⟩ := spawn_ok h
  obtain ⟨hchild', -⟩ := spawn_ok h'
  rcases Program.ofName_eq sys plan.program plan.argv with ⟨path, hpath, hname⟩ | ⟨-, cause, hname⟩
  · rcases Program.ofName_eq sys plan'.program plan'.argv with ⟨path', hpath', hname'⟩ | ⟨-, cause, hname'⟩
    · obtain rfl : path = path' := Option.some.inj (hpath.symm.trans (hsettle.trans hpath'))
      have hsame := Program.ofPath_congr (fits_of_spawn h) (fits_of_spawn h') path
      rw [← hname, ← hname', hchild, hchild'] at hsame
      exact Except.ok.inj hsame
    · rw [hchild'] at hname'
      cases hname'
  · rw [hchild] at hname
    cases hname

end ScriptExec.Host
