-- SUMMARY: Renaming a file over another one changes one entry, and reads as the old content or the new one.
import ScriptExec.Host.Replacement
import ScriptExec.Proofs.Host.Entries
import ScriptExec.Proofs.Value.Forms

/-!
# Renaming

A file is written under a name that occurs nowhere, so until it is renamed nobody can tell that there is one
(`FileTree.Overlay.locate_of_fresh`). Renaming it changes one entry, that of the target (`FileTree.Replaced`),
so whoever reads a path gets what was there before or all of the new content (`System.readFile_of_replaced`).
-/

namespace ScriptExec.Host

/-! ## Names of temporary files -/

namespace System

variable {sys : System} {target : Path} {name : Bytes}

theorem slash_not_mem_temporaryName (n : Nat) : Byte.slash ∉ temporaryName n := by
  intro h
  unfold temporaryName at h
  rcases List.mem_append.mp h with h | h
  · revert h
    decide
  · split at h
    · revert h
      decide
    · have hdigit := Decimal.isDigit_of_mem_ofNat (List.mem_of_mem_drop h)
      revert hdigit
      decide

theorem temporaryName_cons (n : Nat) : ∃ rest, temporaryName n = 0x2e :: 0x74 :: rest :=
  ⟨_, rfl⟩

theorem firstName_some {isFree : Bytes → Bool} {n tries : Nat} (h : firstName isFree n tries = some name) :
    isFree name = true ∧ ∃ k, name = temporaryName k := by
  induction tries generalizing n with
  | zero => cases h
  | succ tries ih =>
    unfold firstName at h
    split at h
    · rename_i hfree
      cases h
      exact ⟨hfree, n, rfl⟩
    · exact ih h

/-- A name for a temporary file occurs neither in the tree nor in the path of the target. -/
theorem freshName_some (h : sys.freshName target = some name) :
    sys.tree.mentions name = false ∧ name ∉ target.segments ∧ ∃ k, name = temporaryName k := by
  obtain ⟨hfree, hname⟩ := firstName_some h
  rw [Bool.not_eq_true', Bool.or_eq_false_iff] at hfree
  exact ⟨hfree.1, by simpa using hfree.2, hname⟩

end System

namespace FileTree

variable {tree tree' : FileTree} {dir cwd id : NodeId} {name : Bytes} {path : Path} {follow : Bool}
variable {place : Place} {data : Bytes}

theorem child?_of_mentions (h : tree.mentions name = false) (dir : NodeId) : tree.child? dir name = none := by
  unfold child?
  split
  · rename_i parent entries linked hcontent
    obtain ⟨node, hnode, hcontent⟩ := Option.map_eq_some_iff.mp hcontent
    refine List.lookup_eq_none_iff.mpr fun entry hentry => bne_iff_ne.mpr ?_
    rintro rfl
    unfold mentions at h
    have hnot := List.any_eq_false.mp h node (List.mem_of_getElem? hnode)
    rw [hcontent] at hnot
    exact hnot (List.any_eq_true.mpr ⟨entry, hentry, beq_self_eq_true _⟩)
  · rfl

theorem not_mem_steps (hpath : name ∉ path.segments) (hhere : name ≠ Path.here) : name ∉ steps path :=
  fun h => hpath (mem_segments_of_steps h hhere)

/-- A path is followed in the same way through two trees, if all steps are. -/
theorem locate_congr
    (h : tree'.walk follow maxLinks (startOf cwd path) (steps path) =
      tree.walk follow maxLinks (startOf cwd path) (steps path)) :
    tree'.locate cwd follow path = tree.locate cwd follow path := by
  unfold locate
  rw [h]

/-- A path leads where it has led before, if the names whose entries have changed occur nowhere. -/
theorem Overlay.locate_of_fresh {changed : NodeId → Bytes → Prop} (h : Overlay tree tree' changed)
    (hclosed : tree.Closed) (hcwd : cwd < tree.nodes.length)
    (hfresh : ∀ dir name, changed dir name → tree.mentions name = false ∧ name ∉ path.segments)
    (follow : Bool) : tree'.locate cwd follow path = tree.locate cwd follow path := by
  refine locate_congr ?_
  rcases h.walk hclosed follow maxLinks _ (steps path) (startOf_lt hclosed hcwd path) with hsame | hpart
  · exact hsame
  · obtain ⟨links', dir', name', rest, hpart⟩ := hpart
    obtain ⟨hname, hpath⟩ := hfresh dir' name' hpart.changed
    rcases hpart.mentioned with hmem | hmention
    · exact absurd hmem (not_mem_steps hpath hpart.looksUp.not_here)
    · rw [hname] at hmention
      cases hmention

/-! ## The tree while the temporary file is there, and afterwards -/

/-- Nothing of a tree has changed: its nodes are what they were, and no name has come or gone. -/
structure Untouched (tree tree' : FileTree) : Prop where
  nodes : ∀ id < tree.nodes.length, tree'.node? id = tree.node? id
  entry : ∀ dir name, tree'.child? dir name = tree.child? dir name

theorem Untouched.preserved (h : Untouched tree tree') (changed : NodeId → Bytes → Prop) :
    Preserved tree tree' changed where
  shape id hid := by
    rw [h.nodes id hid]
  entry dir name _ := h.entry dir name
  files id node hnode _ := by
    rw [h.nodes id (List.getElem?_eq_some_iff.mp hnode).1]
    exact hnode

/-- One entry of a tree has changed, which was not that of a directory. It leads to a new file. -/
structure Replaced (tree : FileTree) (place : Place) (data : Bytes) (tree' : FileTree) : Prop
    extends Preserved tree tree' fun dir name => dir = place.dir ∧ name = place.name where
  file : tree'.node? tree.nodes.length = some ⟨0o600, .regular data⟩
  name : tree'.child? place.dir place.name = some tree.nodes.length
  old : ∀ id node, tree.child? place.dir place.name = some id → tree.node? id = some node →
    node.isDirectory = false

/-- A tree with a temporary file in a directory. -/
def beside (tree : FileTree) (dir : NodeId) (name bytes : Bytes) : FileTree :=
  tree.withNode dir name ⟨0o600, .regular bytes⟩

theorem node?_beside (hdir : dir < tree.nodes.length) (id : NodeId) (bytes : Bytes) :
    (tree.beside dir name bytes).node? id =
      if id = tree.nodes.length then some ⟨0o600, .regular bytes⟩
      else if dir = id then
        (tree.node? id).map (Node.withEntries · (· ++ [(name, tree.nodes.length)]))
      else tree.node? id := by
  rw [beside, node?_withNode]
  by_cases hnew : id = tree.nodes.length
  · have hne : dir ≠ id := hnew ▸ Nat.ne_of_lt hdir
    rw [if_neg hne, if_pos hnew, if_pos hnew]
  · simp only [if_neg hnew]

theorem beside_isDir (h : tree.IsDir dir) (bytes : Bytes) : (tree.beside dir name bytes).IsDir dir :=
  (h.addNode _).changeEntries _ dir

theorem beside_preserved (h : tree.IsDir dir) (bytes : Bytes) :
    Preserved tree (tree.beside dir name bytes) fun dir' name' => dir' = dir ∧ name' = name :=
  withNode_preserved rfl h

/-- Trees with the same nodes are the same. -/
theorem ext_node? (hnodes : ∀ id, tree'.node? id = tree.node? id) : tree' = tree := by
  obtain ⟨nodes⟩ := tree
  obtain ⟨nodes'⟩ := tree'
  exact congrArg FileTree.mk (List.ext_getElem? hnodes)

/-- Writing to the temporary file changes its content. -/
theorem setContent_beside (hdir : dir < tree.nodes.length) (bytes bytes' : Bytes) :
    (tree.beside dir name bytes).setContent tree.nodes.length (.regular bytes') =
      tree.beside dir name bytes' := by
  refine ext_node? fun id => ?_
  rw [node?_setContent, node?_beside hdir, node?_beside hdir]
  by_cases hnew : tree.nodes.length = id
  · rw [if_pos hnew, if_pos hnew.symm, if_pos hnew.symm]
    rfl
  · rw [if_neg hnew, if_neg (Ne.symm hnew), if_neg (Ne.symm hnew)]

/-- Taking the temporary file away leaves a file without a name. -/
theorem dropEntry_beside (h : tree.IsDir dir) (hname : tree.child? dir name = none) (bytes : Bytes) :
    (tree.beside dir name bytes).dropEntry dir name = (tree.addNode ⟨0o600, .regular bytes⟩).2 := by
  refine ext_node? fun id => ?_
  rw [dropEntry, node?_changeEntries, node?_beside h.lt, node?_addNode]
  by_cases hdir : dir = id
  · subst hdir
    have hold : dir ≠ tree.nodes.length := Nat.ne_of_lt h.lt
    obtain ⟨mode, parent, entries, linked, hnode⟩ := h
    have hentries : tree.entries dir = entries := by simp [FileTree.entries, hnode]
    rw [child?_eq, hentries] at hname
    have hkept : entries.filter (fun entry => entry.1 != name) = entries := by
      refine List.filter_eq_self.mpr fun entry hentry => ?_
      have hother := List.lookup_eq_none_iff.mp hname entry hentry
      exact bne_iff_ne.mpr (Ne.symm (bne_iff_ne.mp hother))
    simp [hold, hnode, Node.withEntries, hkept]
  · rw [if_neg hdir, if_neg hdir]

theorem addNode_untouched (bytes : Bytes) : Untouched tree (tree.addNode ⟨0o600, .regular bytes⟩).2 where
  nodes id hid := by
    rw [node?_addNode, if_neg (Nat.ne_of_lt hid)]
  entry dir name := (addNode_preserved rfl).entry dir name id

theorem isDirectory_of_shape {node node' : Node} (h : node'.shape = node.shape) :
    node'.isDirectory = node.isDirectory := by
  have hdir (node : Node) : node.shape.isDirectory = node.isDirectory := by
    obtain ⟨mode, content⟩ := node
    cases content <;> rfl
  rw [← hdir, h, hdir]

theorem rename_ok {source : Place} (hsource : source.node = some id)
    (h : tree.rename source place = .ok tree') :
    tree.IsDir place.dir ∧ (∀ node, place.node.bind tree.node? = some node → node.isDirectory = false) ∧
      tree' = (tree.putEntry place.dir place.name id).dropEntry source.dir source.name := by
  simp only [rename, hsource, bind, Except.bind, pure, Except.pure] at h
  cases hwritable : tree.checkWritable place.dir with
  | error cause => simp [hwritable] at h
  | ok u =>
    refine ⟨checkWritable_isDir hwritable, ?_⟩
    cases hnode : place.node.bind tree.node? with
    | none =>
      simp only [hwritable, hnode, Except.ok.injEq] at h
      exact ⟨nofun, h.symm⟩
    | some node =>
      cases hfile : node.isDirectory with
      | true => simp [hwritable, hnode, hfile] at h
      | false =>
        simp only [hwritable, hnode, hfile, Bool.false_eq_true, if_false, Except.ok.injEq] at h
        refine ⟨fun node' hnode' => ?_, h.symm⟩
        obtain rfl := Option.some.inj hnode'
        exact hfile

/-- A node can be renamed to a place in a directory that may be changed, if no directory is there. -/
theorem exists_rename {source : Place} (hsource : source.node = some id)
    (hwritable : tree.checkWritable place.dir = .ok ())
    (hfile : ∀ node, place.node.bind tree.node? = some node → node.isDirectory = false) :
    ∃ tree', tree.rename source place = .ok tree' := by
  simp only [rename, hsource, hwritable, bind, Except.bind, pure, Except.pure]
  cases hnode : place.node.bind tree.node? with
  | none => exact ⟨_, rfl⟩
  | some node =>
    simp only [hfile node hnode]
    exact ⟨_, rfl⟩

/-- Renaming the temporary file changes the entry of the target. -/
theorem rename_beside {source : Place} (h : tree.IsDir source.dir) (hclosed : tree.Closed)
    (hfresh : ∀ dir, tree.child? dir source.name = none) (hname : place.name ≠ source.name)
    (hends : tree.Ends place) (hsource : source.node = some tree.nodes.length)
    (hrename : (tree.beside source.dir source.name data).rename source place = .ok tree') :
    Replaced tree place data tree' := by
  have hbeside : tree.Preserved (tree.beside source.dir source.name data) _ := beside_preserved h data
  have hdir := (beside_isDir h data : (tree.beside source.dir source.name data).IsDir source.dir)
  obtain ⟨hthere, hfile, rfl⟩ := rename_ok hsource hrename
  have hnew : (tree.beside source.dir source.name data).node? tree.nodes.length =
      some ⟨0o600, .regular data⟩ := by
    rw [node?_beside h.lt, if_pos rfl]
  have hentry (dir : NodeId) (name : Bytes) :
      (((tree.beside source.dir source.name data).putEntry place.dir place.name
        tree.nodes.length).dropEntry source.dir source.name).child? dir name =
          if dir = place.dir ∧ name = place.name then some tree.nodes.length
          else tree.child? dir name := by
    rw [child?_dropEntry (hdir.putEntry place.dir), child?_putEntry hthere]
    by_cases hplace : place.dir = dir ∧ name = place.name
    · have hnot : ¬(source.dir = dir ∧ name = source.name) := fun hsame =>
        hname (hplace.2.symm.trans hsame.2)
      rw [if_neg hnot, if_pos hplace, if_pos ⟨hplace.1.symm, hplace.2⟩]
    · have hnot : ¬(dir = place.dir ∧ name = place.name) := fun hsame =>
        hplace ⟨hsame.1.symm, hsame.2⟩
      rw [if_neg hplace, if_neg hnot]
      split
      · rename_i hsource
        rw [hsource.2, hfresh dir]
      · rename_i hother
        exact hbeside.entry dir name fun hsame => hother ⟨hsame.1.symm, hsame.2⟩
  refine ⟨⟨⟨?_, ?_⟩, ?_⟩, ?_, ?_, ?_⟩
  · intro id hid
    exact ((shape_changeEntries _ _ _ id).trans (shape_changeEntries _ _ _ id)).trans (hbeside.shape id hid)
  · intro dir name hother
    rw [hentry, if_neg hother]
  · intro id node hnode hnot
    have hkept := hbeside.files id node hnode hnot
    exact file_changeEntries _ (file_changeEntries _ hkept hnot _) hnot _
  · exact file_changeEntries _ (file_changeEntries _ hnew rfl _) rfl _
  · rw [hentry, if_pos ⟨rfl, rfl⟩]
  · intro id node hold hnode
    have hid := hclosed.entry hold
    have hshape := hbeside.shape id hid
    rw [hnode, Option.map_some, Option.map_eq_some_iff] at hshape
    obtain ⟨node', hnode', hsame⟩ := hshape
    rw [← isDirectory_of_shape hsame]
    apply hfile
    rw [hends.node, hold]
    exact hnode'

/-- The entry of a place leads to a symbolic link. -/
def IsLink (tree : FileTree) (place : Place) : Prop :=
  ∃ target, ((tree.child? place.dir place.name).bind tree.node?).map Node.content = some (.symlink target)

/-- Where a path leads after an entry has been replaced: where it has led before, or to the new file. If it
goes on from there it fails, as it has done before unless there was a symbolic link. -/
inductive Rerouted (tree : FileTree) (place : Place) (before : Except IoError Place) :
    Except IoError Place → Prop
  | same : Rerouted tree place before before
  | file : Rerouted tree place before (.ok ⟨place.dir, place.name, some tree.nodes.length⟩)
  | barred (h : tree.IsLink place ∨ ∃ cause, before = .error cause) :
      Rerouted tree place before (.error .notDirectory)

theorem Replaced.walk (h : Replaced tree place data tree') (hclosed : tree.Closed)
    (hdir : dir < tree.nodes.length) (follow : Bool) (links : Nat) (names : List Bytes) :
    Rerouted tree place (tree.walk follow links dir names) (tree'.walk follow links dir names) := by
  rcases h.toOverlay.walk hclosed follow links dir names hdir with hsame | hpart
  · rw [hsame]
    exact .same
  · obtain ⟨links', dir', name, rest, hpart⟩ := hpart
    obtain ⟨rfl, rfl⟩ := hpart.changed
    have hlooks := hpart.looksUp.of_shape (h.shape _ hpart.there)
    rw [hpart.before, hpart.after, walk_file hlooks h.name h.file]
    cases rest with
    | nil => exact .file
    | cons second rest =>
      refine .barred ?_
      by_cases hlink : tree.IsLink place
      · exact .inl hlink
      · refine .inr (walk_barred hpart.looksUp (fun id node hentry hnode => ?_) follow links' rest)
        refine ⟨h.old id node hentry hnode, fun target hcontent => hlink ⟨target, ?_⟩⟩
        rw [hentry, Option.bind_some, hnode]
        exact congrArg some hcontent

theorem Replaced.locate (h : Replaced tree place data tree') (hclosed : tree.Closed)
    (hcwd : cwd < tree.nodes.length) (follow : Bool) (path : Path) :
    Rerouted tree place (tree.locate cwd follow path) (tree'.locate cwd follow path) := by
  unfold FileTree.locate
  split
  · exact .same
  · split
    · exact .same
    · split
      · exact .same
      · exact h.walk hclosed (startOf_lt hclosed hcwd path) follow _ _

/-- The path of the target leads to the new file, unless it went on from a symbolic link that is no more. -/
theorem Replaced.locate_target (h : Replaced tree place data tree') (hclosed : tree.Closed)
    (hcwd : cwd < tree.nodes.length) (htarget : tree.locate cwd false path = .ok place)
    (hname : ¬isBareName place.name) (follow : Bool) :
    tree'.locate cwd follow path = .ok ⟨place.dir, place.name, some tree.nodes.length⟩ ∨
      tree.IsLink place ∧ tree'.locate cwd follow path = .error .notDirectory := by
  have hplain : tree'.locate cwd false path = .ok ⟨place.dir, place.name, some tree.nodes.length⟩ ∨
      tree.IsLink place ∧ tree'.locate cwd false path = .error .notDirectory := by
    have hway := h.locate hclosed hcwd false path
    rw [htarget] at hway
    generalize hreached : tree'.locate cwd false path = reached at hway
    cases hway with
    | same =>
      rw [locate_walk htarget] at hreached
      have hnode := ((walk_ends hreached).resolve_left hname).node
      rw [h.name] at hnode
      rw [← hnode]
      exact .inl rfl
    | file => exact .inl rfl
    | barred hbarred =>
      rcases hbarred with hlink | ⟨cause, hcause⟩
      · exact .inr ⟨hlink, rfl⟩
      · cases hcause
  cases follow with
  | false => exact hplain
  | true =>
    rw [locate_walk htarget] at hplain ⊢
    rcases hplain with hfile | ⟨hlink, hbarred⟩
    · refine .inl (walk_follow hfile fun target hcontent => ?_)
      rw [Option.bind_some, h.file] at hcontent
      cases hcontent
    · exact .inr ⟨hlink, walk_follow_error hbarred⟩

/-! ## Reading -/

/-- A node stays what it was, but for the entries of a directory. -/
theorem Preserved.node? {changed : NodeId → Bytes → Prop} (h : Preserved tree tree' changed)
    (hid : id < tree.nodes.length) :
    tree'.node? id = tree.node? id ∨ ∃ mode parent entries entries' linked,
      tree.node? id = some ⟨mode, .directory parent entries linked⟩ ∧
        tree'.node? id = some ⟨mode, .directory parent entries' linked⟩ := by
  have halike := Node.alike_of_shape (h.shape id hid)
  have hfiles := h.files id
  generalize tree.node? id = node at halike hfiles
  generalize tree'.node? id = node' at halike hfiles
  cases halike with
  | same => exact .inl rfl
  | file => exact .inl (hfiles _ rfl rfl)
  | directory => exact .inr ⟨_, _, _, _, _, rfl, rfl⟩

/-- Open files read as before. -/
theorem Preserved.readNode {changed : NodeId → Bytes → Prop} (h : Preserved tree tree' changed)
    (hid : id < tree.nodes.length) (offset n : Nat) :
    System.readNode tree' id offset n = System.readNode tree id offset n := by
  unfold System.readNode
  rcases h.node? hid with hsame | ⟨_, _, _, _, _, hnode, hnode'⟩
  · rw [hsame]
  · rw [hnode, hnode']
    rfl

/-- What is read at a place. -/
def readPlace (tree : FileTree) (place : Place) : Except IoError Bytes := do
  match place.node.bind tree.node? with
  | none => .error .noEntry
  | some node =>
    System.checkOpen { read := true } node
    match node.content with
    | .regular bytes => return bytes
    | .directory _ _ _ => .error .isDirectory
    | _ => return []

theorem Preserved.readPlace {changed : NodeId → Bytes → Prop} (h : Preserved tree tree' changed)
    (hplace : ∀ id, place.node = some id → id < tree.nodes.length) :
    tree'.readPlace place = tree.readPlace place := by
  unfold FileTree.readPlace
  cases hnode : place.node with
  | none => rfl
  | some id =>
    rw [Option.bind_some, Option.bind_some]
    rcases h.node? (hplace id hnode) with hsame | ⟨_, _, _, _, _, hnode, hnode'⟩
    · rw [hsame]
    · rw [hnode, hnode']
      rfl

end FileTree

namespace System

variable {tree tree' : FileTree} {reader : System} {path : Path} {place : Place} {data : Bytes}

/-- A reader gets what is at the place to which a path leads. -/
theorem readFile_eq (reader : System) (path : Path) :
    reader.readFile path = (checkPath path).bind fun _ =>
      if reader.freeDescriptor?.isSome then
        (reader.tree.locate reader.cwd true path).bind reader.tree.readPlace
      else .error .tooManyFiles := by
  unfold readFile FileTree.resolve
  cases hpath : checkPath path with
  | error cause => rfl
  | ok u =>
    cases hfree : reader.freeDescriptor? with
    | none => rfl
    | some d =>
      simp only [bind, Except.bind, Option.isSome_some, if_true]
      cases hplace : reader.tree.locate reader.cwd true path with
      | error cause => rfl
      | ok place =>
        unfold FileTree.readPlace
        dsimp only
        cases hid : place.node with
        | none => rfl
        | some id =>
          rw [Option.bind_some, Option.bind_some]
          cases hnode : reader.tree.node? id <;> rfl

theorem readFile_through (reader : System) (tree : FileTree) (path : Path) :
    { reader with tree }.readFile path = (checkPath path).bind fun _ =>
      if reader.freeDescriptor?.isSome then (tree.locate reader.cwd true path).bind tree.readPlace
      else .error .tooManyFiles :=
  readFile_eq { reader with tree } path

/-- A path that leads where it has led before reads as before. -/
theorem readFile_of_preserved {changed : NodeId → Bytes → Prop} (h : tree.Preserved tree' changed)
    (hclosed : tree.Closed) (hcwd : reader.cwd < tree.nodes.length)
    (hplace : tree'.locate reader.cwd true path = tree.locate reader.cwd true path) :
    { reader with tree := tree' }.readFile path = { reader with tree }.readFile path := by
  have hread : (tree'.locate reader.cwd true path).bind tree'.readPlace =
      (tree.locate reader.cwd true path).bind tree.readPlace := by
    rw [hplace]
    cases hreached : tree.locate reader.cwd true path with
    | error cause => rfl
    | ok place =>
      rw [FileTree.locate_walk hreached] at hreached
      exact h.readPlace fun id =>
        FileTree.walk_lt hreached hclosed (FileTree.startOf_lt hclosed hcwd path)
  rw [readFile_through, readFile_through, hread]

/-- The new file reads as the new content. -/
theorem readPlace_file (h : tree.Replaced place data tree') :
    tree'.readPlace ⟨place.dir, place.name, some tree.nodes.length⟩ = .ok data := by
  have hopen : checkOpen { read := true } ⟨0o600, .regular data⟩ = .ok () := by
    have hmay : Nat.testBit 0o600 8 = true := by decide
    simp [checkOpen, Node.isDirectory, Node.mayRead, hmay]
  unfold FileTree.readPlace
  rw [Option.bind_some, h.file]
  simp only [hopen]
  rfl

/-- What a reader may get once an entry has been replaced: what it would have got before, or the new content
as a whole. On the way through the replaced entry it may get nothing, as before unless that was a symbolic
link. -/
inductive Glimpse (linked : Prop) (data : Bytes) (before : Except IoError Bytes) :
    Except IoError Bytes → Prop
  | old : Glimpse linked data before before
  | new : Glimpse linked data before (.ok data)
  | barred (h : linked ∨ ∃ cause, before = .error cause) : Glimpse linked data before (.error .notDirectory)

theorem Glimpse.imp {linked linked' : Prop} {before after : Except IoError Bytes}
    (h : Glimpse linked data before after) (himp : linked → linked') : Glimpse linked' data before after := by
  cases h with
  | old => exact .old
  | new => exact .new
  | barred hbarred => exact .barred (hbarred.imp_left himp)

theorem readFile_of_replaced (h : tree.Replaced place data tree') (hclosed : tree.Closed)
    (hcwd : reader.cwd < tree.nodes.length) (path : Path) :
    Glimpse (tree.IsLink place) data ({ reader with tree }.readFile path)
      ({ reader with tree := tree' }.readFile path) := by
  by_cases hsame : tree'.locate reader.cwd true path = tree.locate reader.cwd true path
  · rw [readFile_of_preserved h.toPreserved hclosed hcwd hsame]
    exact .old
  · have hway := h.locate hclosed hcwd true path
    rw [readFile_through, readFile_through]
    cases hpath : checkPath path with
    | error cause => exact .old
    | ok u =>
      dsimp only [Except.bind]
      split
      · generalize tree'.locate reader.cwd true path = reached at hway hsame
        cases hway with
        | same => exact absurd rfl hsame
        | file =>
          dsimp only
          rw [readPlace_file h]
          exact .new
        | barred hbarred =>
          refine .barred (hbarred.imp_right fun ⟨cause, hcause⟩ => ⟨cause, ?_⟩)
          rw [hcause]
      · exact .old

end System

end ScriptExec.Host
