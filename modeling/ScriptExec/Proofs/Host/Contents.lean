-- SUMMARY: The content of one file that is opened, made, emptied and written, and the paths that lead to it.
import ScriptExec.Proofs.Host.Descriptors
import ScriptExec.Proofs.Host.Entries
import ScriptExec.Proofs.Writing

/-!
# The content of a file

As long as nobody changes any other file, a file is where it was: all paths that led to it, or to where it was
made, still do (`FileTree.Stores.locate`). Opening it makes or empties it as the options say
(`FileTree.Stores.openNode`), and writing puts data into its content (`FileTree.Stores.setContent`).
-/

namespace ScriptExec.Host

namespace FileTree

variable {tree tree' tree₀ : FileTree} {dir id cwd : NodeId} {name : Bytes} {at_ : Place} {path : Path}
variable {content : Option Bytes} {bytes : Bytes} {mode : Nat}

/-! ## Changing the bytes of a file -/

section

variable (hnode : tree.node? id = some ⟨mode, .regular bytes⟩) (bytes' : Bytes)
include hnode

theorem node?_setContent_self :
    (tree.setContent id (.regular bytes')).node? id = some ⟨mode, .regular bytes'⟩ := by
  rw [node?_setContent, if_pos rfl, hnode]
  rfl

theorem shape_setContent (id' : NodeId) :
    ((tree.setContent id (.regular bytes')).node? id').map Node.shape = (tree.node? id').map Node.shape := by
  rw [node?_setContent]
  split
  · rename_i heq
    rw [← heq, hnode]
    rfl
  · rfl

theorem child?_setContent (dir : NodeId) (name : Bytes) :
    (tree.setContent id (.regular bytes')).child? dir name = tree.child? dir name := by
  unfold child?
  rw [node?_setContent]
  by_cases heq : id = dir
  · subst heq
    rw [if_pos rfl, hnode]
    rfl
  · rw [if_neg heq]

end

theorem exists_regular (h : tree.bytes? id = some bytes) : ∃ mode, tree.node? id = some ⟨mode, .regular bytes⟩ := by
  unfold bytes? at h
  split at h
  · rename_i hcontent
    cases h
    obtain ⟨⟨mode, content⟩, hnode, rfl⟩ := Option.map_eq_some_iff.mp hcontent
    exact ⟨mode, hnode⟩
  · cases h

/-! ## One file -/

/-- The number that the file at a place has, or gets when it is made. -/
def fileNode (tree : FileTree) (at_ : Place) : NodeId :=
  at_.node.getD tree.nodes.length

/-- The bytes of the regular file at a place. -/
def contentAt (tree : FileTree) (at_ : Place) : Option Bytes :=
  at_.node.bind tree.bytes?

/-- A path leads to the file at a place, or to the place itself if there is no file yet. -/
def LeadsTo (tree : FileTree) (cwd : NodeId) (at_ : Place) (path : Path) : Prop :=
  ∃ place, tree.locate cwd true path = .ok place ∧ place.node = at_.node ∧ (at_.node = none → place = at_)

/-- What has become of a tree in which only one file changes, and the content of that file. -/
inductive Stores (tree₀ : FileTree) (at_ : Place) : Option Bytes → FileTree → Prop
  | missing (h : at_.node = none) : Stores tree₀ at_ none tree₀
  | there {text perm files}
      (overlay : tree₀.Overlay files fun dir name => at_.node = none ∧ dir = at_.dir ∧ name = at_.name)
      (named : files.child? at_.dir at_.name = some (tree₀.fileNode at_))
      (file : files.node? (tree₀.fileNode at_) = some ⟨perm, .regular text⟩) :
      Stores tree₀ at_ (some text) files

/-- A way ends at a name without an entry, or fails there. -/
theorem walk_missing {follow : Bool} {links : Nat} (hlooks : tree.LooksUp dir name)
    (hnone : tree.child? dir name = none) (rest : List Bytes) :
    tree.walk follow links dir (name :: rest) =
      if rest.isEmpty then .ok ⟨dir, name, none⟩ else .error .noEntry := by
  obtain ⟨⟨found, henter⟩, hshort, hhere, habove⟩ := hlooks
  have hstride : tree.stride follow links dir name rest =
      .stop (if rest.isEmpty then .ok ⟨dir, name, none⟩ else .error .noEntry) := by
    simp [stride, henter, hshort, hhere, habove, hnone]
  rw [walk_stride, hstride]

namespace Stores

theorem regular (h : Stores tree₀ at_ (some bytes) tree) :
    ∃ mode, tree.node? (tree₀.fileNode at_) = some ⟨mode, .regular bytes⟩ := by
  cases h with
  | there _ _ file => exact ⟨_, file⟩

/-- All paths that led to the file, or to its place, lead to the file. -/
theorem locate (h : Stores tree₀ at_ (some bytes) tree) (hclosed : tree₀.Closed)
    (hcwd : cwd < tree₀.nodes.length) (hends : tree₀.Ends at_) (hleads : tree₀.LeadsTo cwd at_ path) :
    ∃ place, tree.locate cwd true path = .ok place ∧ place.node = some (tree₀.fileNode at_) := by
  obtain ⟨place, hplace, hnode, hmissing⟩ := hleads
  cases h with
  | there overlay named file =>
    have hstart := startOf_lt hclosed hcwd path
    have hwalk := hplace
    rw [locate_walk hplace] at hwalk
    rw [locate_walk hplace]
    rcases overlay.walk hclosed true maxLinks _ (steps path) hstart with hsame | hpart
    · rw [hsame, hwalk]
      refine ⟨place, rfl, ?_⟩
      cases hthere : at_.node with
      | some id => rw [hnode, fileNode, hthere, Option.getD_some]
      | none =>
        -- the way would have come to the file that is there now
        rw [hwalk] at hsame
        obtain rfl := hmissing hthere
        obtain ⟨dir', -, hbare | hstops⟩ := walk_stops hsame
        · rw [hbare] at hthere
          cases hthere
        · generalize place = reached at *
          cases hstops with
          | here => cases hthere
          | above => cases hthere
          | entry => exact named
    · obtain ⟨links', dir', name', rest, hpart⟩ := hpart
      obtain ⟨hthere, rfl, rfl⟩ := hpart.changed
      have hlooks := hpart.looksUp
      have hnone : tree₀.child? at_.dir at_.name = none := hends.node.symm.trans hthere
      have hbefore := hpart.before
      rw [hwalk, walk_missing hlooks hnone] at hbefore
      rw [hpart.after, walk_file (hlooks.of_shape (overlay.shape _ hpart.there)) named file]
      cases rest with
      | nil => exact ⟨_, rfl, rfl⟩
      | cons second rest => cases hbefore

/-- The entry of the file leads to its content. -/
theorem bytes_child (h : Stores tree₀ at_ content tree) (hends : tree₀.Ends at_) :
    (tree.child? at_.dir at_.name).bind tree.bytes? = content := by
  cases h with
  | missing hmissing =>
    rw [← hends.node, hmissing]
    rfl
  | there _ named file =>
    rw [named, Option.bind_some, bytes?, file]
    rfl

/-- All paths that led to the file, or to its place, lead to its content. -/
theorem contentAt (h : Stores tree₀ at_ content tree) (hclosed : tree₀.Closed)
    (hcwd : cwd < tree₀.nodes.length) (hends : tree₀.Ends at_) (hleads : tree₀.LeadsTo cwd at_ path) :
    ∃ place, tree.locate cwd true path = .ok place ∧ tree.contentAt place = content := by
  cases content with
  | none =>
    cases h with
    | missing hmissing =>
      obtain ⟨place, hplace, hnode, -⟩ := hleads
      refine ⟨place, hplace, ?_⟩
      rw [FileTree.contentAt, hnode, hmissing, Option.bind_none]
  | some text =>
    obtain ⟨place, hplace, hnode⟩ := h.locate hclosed hcwd hends hleads
    obtain ⟨mode, hfile⟩ := h.regular
    refine ⟨place, hplace, ?_⟩
    rw [FileTree.contentAt, hnode, Option.bind_some, bytes?, hfile]
    rfl

theorem setContent (h : Stores tree₀ at_ (some bytes) tree) (bytes' : Bytes) :
    Stores tree₀ at_ (some bytes') (tree.setContent (tree₀.fileNode at_) (.regular bytes')) := by
  cases h with
  | there overlay named file =>
    refine .there ⟨fun id hid => ?_, fun dir name hother => ?_⟩ ?_ (node?_setContent_self file bytes')
    · rw [shape_setContent file, overlay.shape id hid]
    · rw [child?_setContent file, overlay.entry dir name hother]
    · rw [child?_setContent file, named]

/-- The file that is made at a place where none was. -/
theorem withNode (hends : tree₀.Ends at_) (hmissing : at_.node = none) (hdir : tree₀.IsDir at_.dir) :
    Stores tree₀ at_ (some []) (tree₀.withNode at_.dir at_.name ⟨mode, .regular []⟩) := by
  have hnumber : tree₀.fileNode at_ = tree₀.nodes.length := by rw [fileNode, hmissing, Option.getD_none]
  have hpreserved : tree₀.Preserved (tree₀.withNode at_.dir at_.name ⟨mode, .regular []⟩) _ :=
    withNode_preserved rfl hdir
  have hfile : (tree₀.withNode at_.dir at_.name ⟨mode, .regular []⟩).node? (tree₀.fileNode at_) =
      some ⟨mode, .regular []⟩ := by
    rw [node?_withNode, hnumber, if_neg (Nat.ne_of_lt hdir.lt), if_pos rfl]
  refine .there ⟨hpreserved.shape, fun dir name hother => ?_⟩ ?_ hfile
  · exact hpreserved.entry dir name fun hsame => hother ⟨hmissing, hsame⟩
  · rw [child?_withNode rfl hdir, ← hends.node, hmissing, if_pos ⟨rfl, rfl⟩, hnumber]
    rfl

/-- Opening the file makes it if there is none, and empties it if it is to be truncated. -/
theorem openNode {sys : System} {options : OpenOptions} (h : Stores tree₀ at_ content sys.tree)
    (hclosed : tree₀.Closed) (hcwd : sys.cwd < tree₀.nodes.length) (hends : tree₀.Ends at_)
    (hleads : tree₀.LeadsTo sys.cwd at_ path) (hopen : sys.openNode path options mode = .ok (id, tree)) :
    id = tree₀.fileNode at_ ∧ (content = none → options.create = true) ∧
      Stores tree₀ at_ (some (if options.truncate then [] else content.getD [])) tree := by
  unfold System.openNode at hopen
  split at hopen
  · simp only [bind, Except.bind] at hopen
    split at hopen <;> cases hopen
  · cases content with
    | none =>
      generalize htree : sys.tree = files at h hopen
      cases h with
      | missing hmissing =>
        obtain ⟨place, hplace, hnode, hsame⟩ := hleads
        obtain rfl := hsame hmissing
        simp only [hplace, hmissing, bind, Except.bind, Option.bind_none] at hopen
        split at hopen
        · rename_i hcreate
          obtain ⟨hdir, rfl, rfl⟩ := create_ok hopen
          refine ⟨by rw [fileNode, hmissing, Option.getD_none], fun _ => hcreate, ?_⟩
          rw [Option.getD_none, ite_self]
          exact withNode hends hmissing hdir
        · cases hopen
    | some text =>
      obtain ⟨place, hplace, hnode⟩ := h.locate hclosed hcwd hends hleads
      have hkept := h
      generalize htree : sys.tree = files at h hopen hplace hkept
      cases h with
      | there overlay named file =>
        simp only [hplace, hnode, file, bind, Except.bind, pure, Except.pure, Option.bind_some,
          Option.map_some] at hopen
        split at hopen
        · cases hopen
        · cases htruncate : options.truncate with
          | true =>
            rw [htruncate] at hopen
            cases hopen
            exact ⟨rfl, nofun, hkept.setContent []⟩
          | false =>
            rw [htruncate] at hopen
            cases hopen
            exact ⟨rfl, nofun, hkept⟩

end Stores

end FileTree

/-! ## Open files -/

namespace System

variable {sys : System} {d : Nat} {file : OpenFile} {bytes : Bytes} {mode : Nat}

/-- A file that was opened for writing can be written. -/
theorem checkWrite_of_regular (hfile : sys.file? d = some file) (hwritable : file.writable = true)
    (hnode : sys.tree.node? file.node = some ⟨mode, .regular bytes⟩) : sys.checkWrite d = .ok file := by
  unfold checkWrite
  simp [hfile, hwritable, hnode]

theorem writeAll_of_not_writable (hfile : sys.file? d = some file) (hwritable : file.writable = false)
    (data : Bytes) : (sys.writeAll d data).2 = sys := by
  have hcheck : sys.checkWrite d = .error .badDescriptor := by
    unfold checkWrite
    simp [hfile, hwritable]
  unfold writeAll
  rw [hcheck]

theorem writeTo_eq (hnode : sys.tree.node? file.node = some ⟨mode, .regular bytes⟩) (data : Bytes) :
    sys.writeTo d file data =
      let position := if file.append then bytes.length else file.offset
      { sys with tree := sys.tree.setContent file.node (.regular (splice bytes position data)) }.setFile d
        { file with offset := position + data.length } := by
  unfold writeTo writeNode
  rw [hnode]
  rfl

end System

end ScriptExec.Host
