-- SUMMARY: What the system finds for a bare name, against the executable files in the entries of a search path.
import Mathlib
import ScriptExec.Proofs.Host.Choice
import ScriptExec.Proofs.Host.ContainingDir

/-!
# Tries and candidates

The system tries a name in an entry of the search path with one more slash than a candidate of a lookup may
have (`Program.inEntry` and `Path.join`), and starts what it finds, where a lookup only asks for an
executable file. So what the system starts is always an executable candidate (`Program.candidate_of_starts`),
but a candidate need not be what it starts: that also takes tries before it that are misses, and a file
that can be started (`Program.picks_candidate_iff`).
-/

namespace ScriptExec.Host

/-! ## Paths that differ in a doubled slash -/

namespace FileTree

variable {tree : FileTree} {follow : Bool} {links : Nat} {dir : NodeId} {names : List Bytes}
variable {path before : Path} {name : Bytes} {place : Place} {found : NodeId × Node}

/-- The last name on a way that leads somewhere is no longer than a name can be. -/
theorem length_le_of_walk (h : tree.walk follow links dir (names ++ [name]) = .ok place) :
    name.length ≤ maxName := by
  rw [walk_append_last] at h
  obtain ⟨reached, -, hlast⟩ := bind_eq_ok h
  rw [walk] at hlast
  cases henter : tree.enter reached.2 with
  | error cause =>
    rw [henter] at hlast
    cases hlast
  | ok inside =>
    by_contra hlong
    simp only [henter, if_pos (Nat.lt_of_not_le hlong)] at hlast
    cases hlast

theorem steps_doubled (hslash : Byte.slash ∉ name) (hne : name ≠ []) :
    steps (before ++ Byte.slash :: Byte.slash :: name) = steps (before ++ Byte.slash :: name) := by
  have hparts : Path.parts (before ++ [Byte.slash]) = Path.parts before := by
    have happend : Path.parts (before ++ [Byte.slash]) = Path.parts before ++ Path.parts [] :=
      Path.parts_append before []
    rwa [Path.parts_nil, List.append_nil] at happend
  have hdoubled : before ++ Byte.slash :: Byte.slash :: name =
      (before ++ [Byte.slash]) ++ Byte.slash :: name := by simp
  rw [hdoubled, steps_append hslash hne, steps_append hslash hne, hparts]

/-- A doubled slash before the last name makes no difference but to the length. -/
theorem locate_doubled (hslash : Byte.slash ∉ name) (hne : name ≠ []) :
    tree.locate dir follow (before ++ Byte.slash :: Byte.slash :: name) =
        tree.locate dir follow (before ++ Byte.slash :: name) ∨
      maxPath ≤ (before ++ Byte.slash :: Byte.slash :: name).length := by
  by_cases hlong : maxPath ≤ (before ++ Byte.slash :: Byte.slash :: name).length
  · exact .inr hlong
  · have hnul : (before ++ Byte.slash :: Byte.slash :: name).contains Byte.nul =
        (before ++ Byte.slash :: name).contains Byte.nul := by
      have hother : ¬Byte.nul = Byte.slash := by decide
      simp [hother]
    have hstart : startOf dir (before ++ Byte.slash :: Byte.slash :: name) =
        startOf dir (before ++ Byte.slash :: name) := by
      cases before <;> rfl
    have hshorter : ¬maxPath ≤ (before ++ Byte.slash :: name).length := by
      simp only [List.length_append, List.length_cons] at hlong ⊢
      omega
    left
    unfold locate
    rw [hnul, hstart, steps_doubled hslash hne, if_neg hlong, if_neg hshorter]
    simp

theorem resolve_singled (hslash : Byte.slash ∉ name) (hne : name ≠ [])
    (h : tree.resolve dir follow (before ++ Byte.slash :: Byte.slash :: name) = .ok found) :
    tree.resolve dir follow (before ++ Byte.slash :: name) = .ok found := by
  obtain ⟨place, hplace, -⟩ := resolve_ok h
  rcases locate_doubled hslash hne with heq | hlong
  · unfold resolve at h ⊢
    rwa [heq] at h
  · exact absurd (length_lt_of_locate hplace) (Nat.not_lt.mpr hlong)

theorem resolve_doubled (hslash : Byte.slash ∉ name) (hne : name ≠ [])
    (h : tree.resolve dir follow (before ++ Byte.slash :: name) = .ok found) :
    tree.resolve dir follow (before ++ Byte.slash :: Byte.slash :: name) = .ok found ∨
      tree.resolve dir follow (before ++ Byte.slash :: Byte.slash :: name) = .error .nameTooLong := by
  rcases locate_doubled hslash hne with heq | hlong
  · left
    unfold resolve at h ⊢
    rwa [heq]
  · right
    obtain ⟨place, hplace, -⟩ := resolve_ok h
    have hnul : Byte.nul ∉ before ++ Byte.slash :: Byte.slash :: name := by
      simpa using not_mem_nul_of_locate hplace
    unfold resolve locate
    rw [if_neg (by rwa [List.contains_iff_mem]), if_neg (by simp), if_pos hlong]
    rfl

end FileTree

namespace Program

open FileTree (maxName)

variable {sys : System} {name entry : Bytes} {argv argv' : List Bytes} {path path' : Path}
variable {found : NodeId × Node} {scripts : Nat} {before after : List Bytes}

/-! ## What starts -/

/-- Whether a path starts a program. -/
def Starts (sys : System) (argv : List Bytes) (path : Path) : Prop :=
  ∃ program, ofPath sys path argv = .ok program

theorem executable_congr (h : sys.tree.resolve sys.cwd true path = sys.tree.resolve sys.cwd true path') :
    executable sys path = executable sys path' := by
  unfold executable
  rw [h]

/-- Whether a path starts something depends on its file alone, not on how either is written. -/
theorem follow_isOk_congr
    (h : sys.tree.resolve sys.cwd true path = sys.tree.resolve sys.cwd true path') :
    (follow sys scripts path argv).isOk = (follow sys scripts path' argv').isOk := by
  induction scripts generalizing path path' argv argv' with
  | zero =>
    rw [follow, follow, executable_congr h]
    cases executable sys path' with
    | error cause => rfl
    | ok content => cases content <;> rfl
  | succ scripts ih =>
    rw [follow, follow, executable_congr h]
    cases executable sys path' with
    | error cause => rfl
    | ok content =>
      cases content with
      | regular bytes =>
        dsimp only [bind, Except.bind]
        cases interpreter? bytes with
        | none => rfl
        | some interpreter => exact ih rfl
      | _ => rfl

theorem starts_iff :
    Starts sys argv path ↔
      fits sys.env argv = true ∧ (follow sys maxInterpreters path argv).isOk = true := by
  unfold Starts ofPath
  split
  · rename_i hfits
    cases follow sys maxInterpreters path argv <;> simp [hfits, Except.isOk, Except.toBool]
  · rename_i hfits
    split <;> simp [hfits]

theorem starts_congr (h : sys.tree.resolve sys.cwd true path = sys.tree.resolve sys.cwd true path') :
    Starts sys argv path ↔ Starts sys argv path' := by
  rw [starts_iff, starts_iff, follow_isOk_congr h]

/-- Only an executable file starts anything. -/
theorem Starts.isExecutableFile (h : Starts sys argv path) :
    ∃ found, sys.tree.resolve sys.cwd true path = .ok found ∧ sys.isExecutableFile path = true := by
  obtain ⟨-, hfollow⟩ := starts_iff.mp h
  unfold follow executable at hfollow
  cases hresolve : sys.tree.resolve sys.cwd true path with
  | error cause =>
    rw [hresolve] at hfollow
    cases hfollow
  | ok found =>
    refine ⟨found, rfl, ?_⟩
    obtain ⟨id, node⟩ := found
    rw [hresolve] at hfollow
    unfold System.isExecutableFile
    rw [hresolve]
    by_contra hnot
    simp only [Bool.not_eq_true, Bool.and_eq_false_iff] at hnot
    have hdenied : (!node.isRegular || !node.mayExecute) = true := by
      rcases hnot with hnot | hnot <;> simp [hnot]
    simp only [bind, Except.bind, if_pos hdenied] at hfollow
    cases hfollow

theorem Starts.endsSearch (h : Starts sys argv path) : endsSearch sys argv path = true := by
  obtain ⟨program, hprogram⟩ := h
  simp [Program.endsSearch, hprogram]

/-- A path that is too long ends the search. -/
theorem endsSearch_of_nameTooLong
    (h : sys.tree.resolve sys.cwd true path = .error .nameTooLong) :
    endsSearch sys argv path = true := by
  have hmiss : isMiss .nameTooLong = false := by decide
  have hpath : ofPath sys path argv = .error .nameTooLong := by
    unfold ofPath
    split
    · unfold follow executable
      rw [h]
      rfl
    · rw [h]
  simp [endsSearch, hpath, hmiss]

/-! ## Tries and candidates -/

/-- A try is the candidate of its entry, or has one slash more. -/
theorem inEntry_eq (hslash : Byte.slash ∉ name) (entry : Bytes) :
    inEntry name entry = Path.join entry name ∨
      ∃ before, inEntry name entry = before ++ Byte.slash :: Byte.slash :: name ∧
        Path.join entry name = before ++ Byte.slash :: name := by
  have hrelative : ¬Path.isAbsolute name = true := by simp [Path.isAbsolute_of_not_mem hslash]
  unfold inEntry Path.join
  rw [if_neg hrelative]
  cases entry with
  | nil => exact .inl rfl
  | cons b rest =>
    by_cases hlast : (b :: rest).getLast? = some Byte.slash
    · obtain ⟨before, hbefore⟩ := List.getLast?_eq_some_iff.mp hlast
      rw [hbefore]
      exact .inr ⟨before, by simp, by simp⟩
    · left
      simp [hlast]

/-- Where a try leads, the candidate leads. -/
theorem resolve_join (hslash : Byte.slash ∉ name) (hne : name ≠ [])
    (h : sys.tree.resolve sys.cwd true (inEntry name entry) = .ok found) :
    sys.tree.resolve sys.cwd true (Path.join entry name) = .ok found := by
  rcases inEntry_eq hslash entry with heq | ⟨before, hinEntry, hjoin⟩
  · rwa [heq] at h
  · rw [hinEntry] at h
    rw [hjoin]
    exact FileTree.resolve_singled hslash hne h

/-- Where a candidate leads, the try leads, unless the slash makes its path too long. -/
theorem resolve_inEntry (hslash : Byte.slash ∉ name) (hne : name ≠ [])
    (h : sys.tree.resolve sys.cwd true (Path.join entry name) = .ok found) :
    sys.tree.resolve sys.cwd true (inEntry name entry) = .ok found ∨
      sys.tree.resolve sys.cwd true (inEntry name entry) = .error .nameTooLong := by
  rcases inEntry_eq hslash entry with heq | ⟨before, hinEntry, hjoin⟩
  · left
    rwa [heq]
  · rw [hjoin] at h
    rw [hinEntry]
    exact FileTree.resolve_doubled hslash hne h

/-- A name as the system tries it: cut off where no file can have it any more. -/
def cut (name : Bytes) : Bytes :=
  name.take (maxName + 1)

theorem not_mem_cut (hslash : Byte.slash ∉ name) : Byte.slash ∉ cut name :=
  fun hmem => hslash (List.mem_of_mem_take hmem)

theorem cut_ne_nil (hne : name ≠ []) : cut name ≠ [] := by
  cases name with
  | nil => exact absurd rfl hne
  | cons b rest => simp [cut]

/-- A name is not cut off where it leads to a file. -/
theorem cut_eq (hslash : Byte.slash ∉ name) (hne : name ≠ [])
    (h : sys.tree.resolve sys.cwd true (inEntry (cut name) entry) = .ok found) : cut name = name := by
  have hcut := not_mem_cut hslash
  have hfull := cut_ne_nil hne
  obtain ⟨place, hplace, -⟩ := FileTree.resolve_ok h
  have hsteps : ∃ names, FileTree.steps (inEntry (cut name) entry) = names ++ [cut name] := by
    unfold inEntry
    split
    · exact ⟨[], FileTree.steps_of_not_mem hcut hfull⟩
    · refine ⟨Path.parts entry, ?_⟩
      rw [List.append_assoc]
      exact FileTree.steps_append hcut hfull
  obtain ⟨names, hsteps⟩ := hsteps
  rw [FileTree.locate_eq_walk hplace, hsteps] at hplace
  have hshort := FileTree.length_le_of_walk hplace
  unfold cut at hshort ⊢
  rw [List.length_take] at hshort
  exact List.take_of_length_le (by omega)

/-- What the system starts in an entry is an executable candidate of a lookup. -/
theorem candidate_of_starts (hslash : Byte.slash ∉ name) (hne : name ≠ [])
    (h : Starts sys argv (inEntry (cut name) entry)) :
    sys.isExecutableFile (Path.join entry name) = true ∧
      ∃ found, sys.tree.resolve sys.cwd true (inEntry (cut name) entry) = .ok found ∧
        sys.tree.resolve sys.cwd true (Path.join entry name) = .ok found := by
  obtain ⟨found, hfound, hexecutable⟩ := h.isExecutableFile
  have hcut := cut_eq hslash hne hfound
  have hjoin : sys.tree.resolve sys.cwd true (Path.join entry name) = .ok found := by
    rw [hcut] at hfound
    exact resolve_join hslash hne hfound
  refine ⟨?_, found, hfound, hjoin⟩
  unfold System.isExecutableFile at hexecutable ⊢
  rwa [hjoin, ← hfound]

/-! ## Names -/

/-- The entries in which the system tries a name. -/
def searchEntries (sys : System) : List Bytes :=
  ((sys.envValue? "PATH").getD defaultSearchPath).splitOn Byte.colon

theorem settle_of_bare (hslash : Byte.slash ∉ name) (hne : name ≠ []) :
    settle sys name argv =
      ((searchEntries sys).map (inEntry (cut name))).find? (endsSearch sys argv) := by
  unfold settle
  rw [if_neg (by simpa using hne), if_neg (by simpa using hslash)]
  rfl

/-- What a bare name starts, the try starts on which the system settles. -/
theorem exists_starts (hslash : Byte.slash ∉ name) (hne : name ≠ []) {program : Program}
    (h : ofName sys name argv = .ok program) :
    ∃ entry ∈ searchEntries sys, settle sys name argv = some (inEntry (cut name) entry) ∧
      Starts sys argv (inEntry (cut name) entry) := by
  rcases ofName_eq sys name argv with ⟨path, hsettle, hname⟩ | ⟨-, cause, hname⟩
  · have hmem : path ∈ (searchEntries sys).map (inEntry (cut name)) := by
      rw [settle_of_bare hslash hne] at hsettle
      exact List.mem_of_find?_eq_some hsettle
    obtain ⟨entry, hentry, rfl⟩ := List.mem_map.mp hmem
    exact ⟨entry, hentry, hsettle, program, hname.symm.trans h⟩
  · rw [hname] at h
    cases h

/-- Without an executable candidate, a bare name starts nothing. -/
theorem ofName_of_no_candidate (hslash : Byte.slash ∉ name) (hne : name ≠ [])
    (hnone : ∀ entry ∈ searchEntries sys, sys.isExecutableFile (Path.join entry name) = false)
    (program : Program) : ofName sys name argv ≠ .ok program := by
  intro hname
  obtain ⟨entry, hentry, -, hstarts⟩ := exists_starts hslash hne hname
  have hcandidate := (candidate_of_starts hslash hne hstarts).1
  rw [hnone entry hentry] at hcandidate
  cases hcandidate

theorem resolve_of_fileAt (h : sys.tree.resolve sys.cwd true path = .ok found)
    (hsame : sys.fileAt path = sys.fileAt path') : sys.tree.resolve sys.cwd true path' = .ok found := by
  obtain ⟨id, node⟩ := found
  obtain ⟨-, -, -, hnode⟩ := FileTree.resolve_ok h
  unfold System.fileAt at hsame
  rw [h] at hsame
  cases hfound : sys.tree.resolve sys.cwd true path' with
  | error cause =>
    rw [hfound] at hsame
    cases hsame
  | ok found' =>
    obtain ⟨id', node'⟩ := found'
    rw [hfound] at hsame
    cases hsame
    obtain ⟨-, -, -, hnode'⟩ := FileTree.resolve_ok hfound
    rw [hnode] at hnode'
    cases hnode'
    rfl

/-- A try that leads to the same file as one that starts does not let the search go on. -/
theorem endsSearch_of_same_file (hslash : Byte.slash ∉ name) (hne : name ≠ []) {other : Bytes}
    (hstarts : Starts sys argv (inEntry (cut name) other))
    (hsame : sys.fileAt (inEntry (cut name) other) = sys.fileAt (Path.join entry name)) :
    endsSearch sys argv (inEntry (cut name) entry) = true := by
  obtain ⟨-, found, hother, -⟩ := candidate_of_starts hslash hne hstarts
  have hcut := cut_eq hslash hne hother
  have hcandidate := resolve_of_fileAt hother hsame
  rw [hcut] at hother hstarts ⊢
  rcases resolve_inEntry hslash hne hcandidate with hentry | hlong
  · exact ((starts_congr (hentry.trans hother.symm)).mpr hstarts).endsSearch
  · exact endsSearch_of_nameTooLong hlong

/-- A bare name starts the file of its first executable candidate just if no try before lets the search
end, and the try of that candidate starts something. -/
theorem picks_candidate_iff (hslash : Byte.slash ∉ name) (hne : name ≠ [])
    (hentries : searchEntries sys = before ++ entry :: after)
    (hbefore : ∀ earlier ∈ before, sys.isExecutableFile (Path.join earlier name) = false) :
    ((∃ program, ofName sys name argv = .ok program) ∧
        fileFor sys name argv = sys.fileAt (Path.join entry name)) ↔
      (∀ earlier ∈ before, endsSearch sys argv (inEntry (cut name) earlier) = false) ∧
        Starts sys argv (inEntry (cut name) entry) := by
  have hsettle : settle sys name argv = _ := settle_of_bare hslash hne
  rw [hentries, List.map_append, List.find?_append, List.map_cons, List.find?_cons] at hsettle
  constructor
  · rintro ⟨⟨program, hname⟩, hfile⟩
    obtain ⟨other, -, hother, hstarts⟩ := exists_starts hslash hne hname
    have hfileOther : sys.fileAt (inEntry (cut name) other) = sys.fileAt (Path.join entry name) := by
      rw [← hfile, fileFor, hother]
      rfl
    rw [endsSearch_of_same_file hslash hne hstarts hfileOther, hother] at hsettle
    cases hfind : (before.map (inEntry (cut name))).find? (endsSearch sys argv) with
    | none =>
      have hmisses : ∀ entry ∈ before, endsSearch sys argv (inEntry (cut name) entry) = false := by
        simpa [List.find?_eq_none] using hfind
      rw [hfind, Option.none_or, Option.some.injEq] at hsettle
      rw [hsettle] at hstarts
      exact ⟨hmisses, hstarts⟩
    | some path =>
      -- An entry before the first executable candidate would start something.
      obtain ⟨earlier, hearlier, rfl⟩ := List.mem_map.mp (List.mem_of_find?_eq_some hfind)
      rw [hfind, Option.some_or, Option.some.injEq] at hsettle
      rw [hsettle] at hstarts
      have hcandidate := (candidate_of_starts hslash hne hstarts).1
      rw [hbefore earlier hearlier] at hcandidate
      cases hcandidate
  · rintro ⟨hmisses, hstarts⟩
    have hnone : (before.map (inEntry (cut name))).find? (endsSearch sys argv) = none := by
      simpa [List.find?_eq_none] using hmisses
    rw [hnone, hstarts.endsSearch, Option.none_or] at hsettle
    obtain ⟨-, found, hentry, hjoin⟩ := candidate_of_starts hslash hne hstarts
    constructor
    · obtain ⟨program, hprogram⟩ := hstarts
      rcases ofName_eq sys name argv with ⟨path, hpath, hname⟩ | ⟨hpath, -⟩
      · rw [hsettle] at hpath
        cases hpath
        exact ⟨program, hname.trans hprogram⟩
      · rw [hsettle] at hpath
        cases hpath
    · unfold fileFor System.fileAt
      rw [hsettle, hjoin]
      dsimp only [Option.bind_some]
      rw [hentry]

end Program

end ScriptExec.Host
