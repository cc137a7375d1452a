-- SUMMARY: A temporary file is made under a name that occurs nowhere, and gets the name of the target.
import ScriptExec.Proofs.Host.Renaming
import ScriptExec.Proofs.Path.ContainingDir
import ScriptExec.Proofs.Writing

/-!
# Temporary files

A temporary file has the name that was drawn for it, in the directory that its path leads to
(`System.createTemporary_ok`). While it is there the target is where it was (`System.Made.targetPlace`). The file
can be written to, taken away again (`System.Made.discardTemporary`) or renamed to the target
(`System.Made.renameTemporary`).
-/

namespace ScriptExec.Host

open FileTree (IsDir Untouched Replaced isBareName steps)

variable {sys sys' sys₀ : System} {target path : Path} {place : Place} {temporary : Temporary}
variable {data bytes name : Bytes}

/-! ## The place of the target -/

namespace System

theorem withoutSlashes_of_getLast? (h : target.getLast? ≠ some Byte.slash) :
    FileTree.withoutSlashes target = target := by
  unfold FileTree.withoutSlashes
  rw [← List.head?_reverse] at h
  have hkept : target.reverse.dropWhile (· == Byte.slash) = target.reverse := by
    cases hreverse : target.reverse with
    | nil => rfl
    | cons last front =>
      rw [hreverse, List.head?_cons] at h
      have hlast : (last == Byte.slash) = false := beq_eq_false_iff_ne.mpr fun heq => h (congrArg some heq)
      rw [List.dropWhile_cons_of_neg (by simp [hlast])]
  rw [hkept, List.reverse_reverse]

theorem targetPlace_ok : sys.targetPlace target = .ok place ↔
    sys.tree.locate sys.cwd false target = .ok place ∧ ¬isBareName place.name ∧
      target.getLast? ≠ some Byte.slash := by
  have hnames : (place.name.isEmpty || place.name == Path.here || place.name == Path.above) = true ↔
      isBareName place.name := by
    simp [isBareName, or_assoc]
  constructor
  · intro h
    unfold targetPlace at h
    split at h
    · cases h
    · obtain ⟨reached, hreached, h⟩ := FileTree.bind_eq_ok h
      split at h
      · cases h
      · rename_i hbare
        split at h
        · cases h
        · rename_i hlast
          cases h
          have hlast : target.getLast? ≠ some Byte.slash := by simpa using hlast
          rw [withoutSlashes_of_getLast? hlast, ite_self] at hreached
          exact ⟨hreached, fun hname => hbare (hnames.mpr hname), hlast⟩
  · rintro ⟨hreached, hbare, hlast⟩
    have hnul : target.contains Byte.nul = false := by
      unfold FileTree.locate at hreached
      split at hreached
      · cases hreached
      · rename_i hnul
        exact Bool.eq_false_iff.mpr hnul
    unfold targetPlace
    simp only [hnul, withoutSlashes_of_getLast? hlast, ite_self, hreached, bind, Except.bind, pure, Except.pure]
    rw [if_neg Bool.false_ne_true, if_neg (fun hname => hbare (hnames.mp hname)), if_neg (by simpa using hlast)]

/-- A place that is reached by following a last name bears that name. -/
theorem name_of_steps {tree : FileTree} {cwd : NodeId} {front : List Bytes}
    (h : tree.locate cwd false path = .ok place) (hsteps : steps path = front ++ [name]) : place.name = name := by
  rw [FileTree.locate_walk h, hsteps, FileTree.walk_append_last] at h
  cases hfront : tree.approach FileTree.maxLinks (FileTree.startOf cwd path) front with
  | error cause =>
    rw [hfront] at h
    cases h
  | ok reached =>
    rw [hfront] at h
    exact FileTree.walk_name_of_last h

/-- The name of a place that can be given to a file is the last one of the path. -/
theorem name_mem_segments {tree : FileTree} {cwd : NodeId} (h : tree.locate cwd false target = .ok place)
    (hname : ¬isBareName place.name) : place.name ∈ target.segments := by
  rcases List.eq_nil_or_concat (steps target) with hnil | ⟨front, last, hconcat⟩
  · rw [FileTree.locate_walk h, hnil, FileTree.walk] at h
    cases h
    exact absurd (.inl rfl) hname
  · rw [List.concat_eq_append] at hconcat
    obtain rfl := name_of_steps h hconcat
    have hlast : place.name ∈ steps target := by simp [hconcat]
    exact FileTree.mem_segments_of_steps hlast fun hhere => hname (.inr (.inl hhere))

theorem checkPath_of_locate {tree : FileTree} {cwd : NodeId} {follow : Bool}
    (h : tree.locate cwd follow path = .ok place) : checkPath path = .ok () := by
  unfold FileTree.locate at h
  unfold checkPath
  split at h
  · cases h
  · rename_i hnul
    split at h
    · cases h
    · rename_i hempty
      split at h
      · cases h
      · rename_i hlong
        rw [if_neg hnul, if_neg hempty, if_neg hlong]

/-! ## Making the temporary file -/

theorem steps_append_name (before : Path) (hslash : Byte.slash ∉ name) (hne : name ≠ []) :
    steps (before ++ Byte.slash :: name) = before.parts ++ [name] := by
  have hlast : (before ++ Byte.slash :: name).getLast? = name.getLast? := by
    rw [List.getLast?_append, List.getLast?_cons_of_ne_nil hne]
    rw [List.getLast?_eq_some_getLast hne]
    rfl
  have hother : name.getLast? ≠ some Byte.slash := fun hend => hslash (List.mem_of_getLast? hend)
  unfold steps
  rw [hlast, if_neg (by simpa using hother), List.append_nil]
  show Path.parts (before ++ Byte.slash :: name) = _
  rw [Path.parts_append, Path.parts_of_not_mem hslash hne]

/-- A name put behind a path is its last step. -/
theorem steps_join (base : Path) (hslash : Byte.slash ∉ name) (hne : name ≠ []) :
    ∃ front, steps (Path.join base name) = front ++ [name] := by
  unfold Path.join
  rw [if_neg (by simp [Path.isAbsolute_of_not_mem hslash])]
  split
  · rename_i hbase
    rcases Bool.or_eq_true_iff.mp hbase with hempty | hend
    · have hlast : name.getLast? ≠ some Byte.slash := fun hend => hslash (List.mem_of_getLast? hend)
      refine ⟨[], ?_⟩
      obtain rfl : base = [] := List.isEmpty_iff.mp hempty
      unfold steps
      rw [List.nil_append, if_neg (by simpa using hlast), List.append_nil]
      exact Path.parts_of_not_mem hslash hne
    · obtain ⟨before, rfl⟩ := List.getLast?_eq_some_iff.mp (beq_iff_eq.mp hend)
      exact ⟨_, (congrArg steps (List.append_assoc before [Byte.slash] name)).trans
        (steps_append_name before hslash hne)⟩
  · exact ⟨_, (congrArg steps (List.append_assoc base [Byte.slash] name)).trans
      (steps_append_name base hslash hne)⟩

/-- What is known of a temporary file that was made. -/
structure Made (sys : System) (target : Path) (temporary : Temporary) : Prop where
  drawn : sys.freshName target = some temporary.place.name
  dir : sys.tree.IsDir temporary.place.dir
  node : temporary.place.node = some sys.tree.nodes.length

theorem createTemporary_ok (h : sys.createTemporary target = .ok (temporary, sys')) :
    sys.Made target temporary ∧
      sys' = { sys with tree := sys.tree.beside temporary.place.dir temporary.place.name [] } := by
  unfold createTemporary at h
  split at h
  · cases h
  · rename_i dir hdir
    split at h
    · cases h
    · rename_i name hname
      dsimp only at h
      split at h
      · rename_i place sys'' hmade
        cases h
        obtain ⟨-, -, k, hk⟩ := freshName_some hname
        have hslash : Byte.slash ∉ name := hk ▸ slash_not_mem_temporaryName k
        have hne : name ≠ [] := by
          obtain ⟨rest, hrest⟩ := temporaryName_cons k
          rw [hk, hrest]
          exact List.cons_ne_nil _ _
        obtain ⟨-, -, hmade⟩ := FileTree.bind_eq_ok hmade
        split at hmade
        · cases hmade
        · obtain ⟨reached, hreached, hmade⟩ := FileTree.bind_eq_ok hmade
          obtain ⟨⟨id, tree⟩, hcreate, hmade⟩ := FileTree.bind_eq_ok hmade
          obtain ⟨hisDir, hid, htree⟩ := FileTree.create_ok hcreate
          cases hmade
          have hlast : reached.name = name := by
            obtain ⟨front, hfront⟩ := steps_join dir hslash hne
            exact name_of_steps hreached hfront
          refine ⟨⟨?_, hisDir, congrArg some hid⟩, ?_⟩
          · rw [hname]
            exact congrArg some hlast.symm
          · exact congrArg (fun tree => { sys with tree }) htree
      · cases h

theorem renameTemporary_ok (h : sys.renameTemporary temporary target = .ok sys') :
    ∃ place tree, sys.targetPlace target = .ok place ∧ sys.tree.rename temporary.place place = .ok tree ∧
      sys' = { sys with tree } := by
  obtain ⟨place, hplace, h⟩ := FileTree.bind_eq_ok h
  obtain ⟨tree, hrenamed, h⟩ := FileTree.bind_eq_ok h
  cases h
  exact ⟨place, tree, hplace, hrenamed, rfl⟩

/-- The files with a temporary file that has some content. -/
def filesWith (sys : System) (temporary : Temporary) (bytes : Bytes) : FileTree :=
  sys.tree.beside temporary.place.dir temporary.place.name bytes

namespace Made

variable (h : sys₀.Made target temporary)
include h

theorem preserved (bytes : Bytes) : sys₀.tree.Preserved (sys₀.filesWith temporary bytes) fun dir name =>
    dir = temporary.place.dir ∧ name = temporary.place.name :=
  FileTree.beside_preserved h.dir bytes

theorem fillTemporary (hsys : sys.tree = sys₀.filesWith temporary bytes) (bytes' : Bytes) :
    (sys.fillTemporary temporary bytes').tree = sys₀.filesWith temporary bytes' := by
  unfold System.fillTemporary
  rw [h.node]
  dsimp only
  rw [hsys]
  exact FileTree.setContent_beside h.dir.lt bytes bytes'

theorem discardTemporary (hsys : sys.tree = sys₀.filesWith temporary bytes) :
    sys₀.tree.Untouched (sys.discardTemporary temporary).tree := by
  have hfresh := FileTree.child?_of_mentions (freshName_some h.drawn).1 temporary.place.dir
  unfold System.discardTemporary
  rw [hsys, filesWith, FileTree.dropEntry_beside h.dir hfresh]
  exact FileTree.addNode_untouched bytes

variable (hclosed : sys₀.tree.Closed) (hcwd : sys₀.cwd < sys₀.tree.nodes.length)
include hclosed hcwd

/-- The target is where it was before there was a temporary file. -/
theorem targetPlace (hsys : sys.tree = sys₀.filesWith temporary bytes) (hsame : sys.cwd = sys₀.cwd) :
    sys.targetPlace target = .ok place ↔ sys₀.targetPlace target = .ok place := by
  obtain ⟨hname, htarget, -⟩ := freshName_some h.drawn
  rw [targetPlace_ok, targetPlace_ok, hsys, hsame,
    (h.preserved bytes).locate_of_fresh hclosed hcwd ?_ false]
  rintro _ _ ⟨-, rfl⟩
  exact ⟨hname, htarget⟩

/-- Renaming the temporary file puts its content under the name of the target. -/
theorem renameTemporary (hsys : sys.tree = sys₀.filesWith temporary data) (hsame : sys.cwd = sys₀.cwd)
    (hrename : sys.renameTemporary temporary target = .ok sys') :
    ∃ place, sys₀.targetPlace target = .ok place ∧ sys₀.tree.Replaced place data sys'.tree := by
  obtain ⟨place, tree, hplace, hrenamed, rfl⟩ := renameTemporary_ok hrename
  rw [h.targetPlace hclosed hcwd hsys hsame] at hplace
  obtain ⟨hreached, hbare, -⟩ := targetPlace_ok.mp hplace
  obtain ⟨hmentions, htarget, -⟩ := freshName_some h.drawn
  have hother : place.name ≠ temporary.place.name := fun hsame =>
    htarget (hsame ▸ name_mem_segments hreached hbare)
  have hends : sys₀.tree.Ends place := by
    rw [FileTree.locate_walk hreached] at hreached
    exact (FileTree.walk_ends hreached).resolve_left hbare
  rw [hsys] at hrenamed
  exact ⟨place, hplace, FileTree.rename_beside h.dir hclosed (FileTree.child?_of_mentions hmentions)
    hother hends h.node hrenamed⟩

/-- The temporary file can be renamed, if the directory of the target may be changed and no directory has its
name. -/
theorem exists_renameTemporary (hsys : sys.tree = sys₀.filesWith temporary bytes)
    (hsame : sys.cwd = sys₀.cwd) (hplace : sys₀.targetPlace target = .ok place)
    (hwritable : sys₀.tree.checkWritable place.dir = .ok ())
    (hfile : ∀ node, place.node.bind sys₀.tree.node? = some node → node.isDirectory = false) :
    ∃ sys', sys.renameTemporary temporary target = .ok sys' := by
  have hpreserved := h.preserved bytes
  have hdir := (FileTree.checkWritable_isDir hwritable).lt
  have hwritable' : sys.tree.checkWritable place.dir = .ok () := by
    rw [hsys, FileTree.checkWritable_of_shape (hpreserved.shape _ hdir), hwritable]
  have hfile' (node : Node) (hnode : place.node.bind sys.tree.node? = some node) :
      node.isDirectory = false := by
    obtain ⟨id, hid, hnode⟩ := Option.bind_eq_some_iff.mp hnode
    have hlt : id < sys₀.tree.nodes.length := by
      obtain ⟨hreached, -, -⟩ := targetPlace_ok.mp hplace
      rw [FileTree.locate_walk hreached] at hreached
      exact FileTree.walk_lt hreached hclosed (FileTree.startOf_lt hclosed hcwd target) hid
    have hshape := hpreserved.shape id hlt
    rw [← hsys, hnode, Option.map_some, eq_comm, Option.map_eq_some_iff] at hshape
    obtain ⟨old, hold, hsame⟩ := hshape
    rw [← FileTree.isDirectory_of_shape hsame]
    exact hfile old (by rw [hid, Option.bind_some, hold])
  obtain ⟨tree, hrenamed⟩ := FileTree.exists_rename h.node hwritable' hfile'
  refine ⟨{ sys with tree }, ?_⟩
  rw [← h.targetPlace hclosed hcwd hsys hsame] at hplace
  simp only [System.renameTemporary, hplace, hrenamed, bind, Except.bind, pure, Except.pure]

end Made

end System

end ScriptExec.Host
