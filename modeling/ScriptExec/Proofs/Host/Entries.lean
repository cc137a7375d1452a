-- SUMMARY: What operations on a file tree change, entry by entry.
import ScriptExec.Proofs.Host.Strides

/-!
# Entries of directories

An operation on a file tree changes a few entries of directories and may add a node, and it leaves all
else as it is (`FileTree.Preserved`). Which entry is found under a name afterwards is told for each of the
elementary changes: taking a name away (`FileTree.child?_dropEntry`), putting a node under it
(`FileTree.child?_putEntry`), and a new node under it (`FileTree.child?_withNode`).
-/

namespace ScriptExec.Host

open Entries (lookup_filter_ne lookup_map_replace)

namespace FileTree

variable {tree tree' : FileTree} {dir id : NodeId} {name : Bytes}

/-! ## Changing the entries of a directory -/

/-- A node is a directory. -/
def IsDir (tree : FileTree) (dir : NodeId) : Prop :=
  ∃ mode parent entries linked, tree.node? dir = some ⟨mode, .directory parent entries linked⟩

theorem checkWritable_isDir (h : tree.checkWritable dir = .ok ()) : tree.IsDir dir := by
  unfold checkWritable at h
  cases hnode : tree.node? dir with
  | none => simp [hnode] at h
  | some node =>
    obtain ⟨mode, content⟩ := node
    cases content with
    | directory parent entries linked => exact ⟨mode, parent, entries, linked, hnode⟩
    | _ => simp [hnode] at h

theorem IsDir.lt (h : tree.IsDir dir) : dir < tree.nodes.length := by
  obtain ⟨_, _, _, _, hnode⟩ := h
  exact (List.getElem?_eq_some_iff.mp hnode).1

/-- The directory with its entries changed. -/
def Node.withEntries (node : Node) (change : List (Bytes × NodeId) → List (Bytes × NodeId)) : Node :=
  { node with
    content := match node.content with
      | .directory parent entries linked => .directory parent (change entries) linked
      | content => content }

section

variable (change : List (Bytes × NodeId) → List (Bytes × NodeId))

theorem node?_changeEntries (tree : FileTree) (dir id : NodeId) :
    (tree.changeEntries dir change).node? id =
      if dir = id then (tree.node? id).map (Node.withEntries · change) else tree.node? id := by
  unfold changeEntries
  by_cases heq : dir = id
  · subst heq
    rw [if_pos rfl]
    rcases hnode : tree.node? dir with _ | ⟨mode, content⟩
    · simp [hnode]
    · cases content <;> simp [hnode, node?_setContent, Node.withEntries]
  · rw [if_neg heq]
    split
    · rw [node?_setContent, if_neg heq]
    · rfl

theorem shape_withEntries (node : Node) : (Node.withEntries node change).shape = node.shape := by
  obtain ⟨mode, content⟩ := node
  cases content <;> rfl

theorem shape_changeEntries (tree : FileTree) (dir id : NodeId) :
    ((tree.changeEntries dir change).node? id).map Node.shape = (tree.node? id).map Node.shape := by
  rw [node?_changeEntries]
  split
  · rw [Option.map_map]
    exact congrArg (fun f => (tree.node? id).map f) (funext (shape_withEntries change))
  · rfl

theorem file_changeEntries {node : Node} (hnode : tree.node? id = some node)
    (hfile : node.isDirectory = false) (dir : NodeId) :
    (tree.changeEntries dir change).node? id = some node := by
  rw [node?_changeEntries, hnode]
  split
  · obtain ⟨mode, content⟩ := node
    cases content with
    | directory => cases hfile
    | _ => rfl
  · rfl

theorem IsDir.changeEntries (h : tree.IsDir dir) (dir' : NodeId) :
    (tree.changeEntries dir' change).IsDir dir := by
  obtain ⟨mode, parent, entries, linked, hnode⟩ := h
  unfold IsDir
  rw [node?_changeEntries, hnode]
  split
  · exact ⟨mode, parent, change entries, linked, rfl⟩
  · exact ⟨mode, parent, entries, linked, rfl⟩

theorem entries_changeEntries (h : tree.IsDir dir) (id : NodeId) :
    (tree.changeEntries dir change).entries id =
      if dir = id then change (tree.entries dir) else tree.entries id := by
  obtain ⟨mode, parent, entries, linked, hnode⟩ := h
  unfold FileTree.entries
  rw [node?_changeEntries]
  by_cases heq : dir = id
  · subst heq
    simp [hnode, Node.withEntries]
  · rw [if_neg heq, if_neg heq]

end

theorem child?_dropEntry (h : tree.IsDir dir) (dir' : NodeId) (name' : Bytes) :
    (tree.dropEntry dir name).child? dir' name' =
      if dir = dir' ∧ name' = name then none else tree.child? dir' name' := by
  rw [child?_eq, child?_eq tree, dropEntry, entries_changeEntries _ h]
  by_cases hdir : dir = dir'
  · subst hdir
    simp only [if_true, lookup_filter_ne, true_and]
  · simp only [hdir, false_and, if_false]

theorem IsDir.putEntry (h : tree.IsDir dir) (dir' : NodeId) : (tree.putEntry dir' name id).IsDir dir :=
  h.changeEntries _ dir'

theorem child?_putEntry (h : tree.IsDir dir) (dir' : NodeId) (name' : Bytes) :
    (tree.putEntry dir name id).child? dir' name' =
      if dir = dir' ∧ name' = name then some id else tree.child? dir' name' := by
  rw [child?_eq, child?_eq tree, putEntry, entries_changeEntries _ h]
  by_cases hdir : dir = dir'
  · subst hdir
    simp only [if_true, true_and]
    split
    · rename_i hthere
      rw [lookup_map_replace]
      split
      · obtain ⟨old, hold⟩ := Option.isSome_iff_exists.mp hthere
        rw [hold]
        rfl
      · rfl
    · rename_i hfree
      have hnone : (tree.entries dir).lookup name = none := Option.not_isSome_iff_eq_none.mp hfree
      rw [List.lookup_append, Entries.lookup_entry]
      by_cases hname : name' = name
      · subst hname
        simp [hnone]
      · simp [hname]
  · simp only [hdir, false_and, if_false]

theorem node?_addNode (tree : FileTree) (node : Node) (id : NodeId) :
    (tree.addNode node).2.node? id = if id = tree.nodes.length then some node else tree.node? id := by
  show (tree.nodes ++ [node])[id]? = _
  split
  · rename_i heq
    rw [heq]
    simp
  · rename_i hne
    rcases Nat.lt_or_ge id tree.nodes.length with hlt | hge
    · exact List.getElem?_append_left hlt
    · have hbeyond : (tree.nodes ++ [node]).length ≤ id := by
        rw [List.length_append, List.length_singleton]
        exact Nat.lt_of_le_of_ne hge (Ne.symm hne)
      have hold : tree.node? id = none := List.getElem?_eq_none hge
      rw [hold]
      exact List.getElem?_eq_none hbeyond

/-! ## Trees with a new node -/

/-- A tree is another one but for some of the entries, and nodes that are new. -/
structure Preserved (tree tree' : FileTree) (changed : NodeId → Bytes → Prop) : Prop
    extends Overlay tree tree' changed where
  files : ∀ id node, tree.node? id = some node → node.isDirectory = false → tree'.node? id = some node

/-- A tree with a new node under a name. -/
def withNode (tree : FileTree) (dir : NodeId) (name : Bytes) (node : Node) : FileTree :=
  (tree.addNode node).2.changeEntries dir (· ++ [(name, tree.nodes.length)])

theorem create_ok {node : Node} (h : tree.create dir name node = .ok (id, tree')) :
    tree.IsDir dir ∧ id = tree.nodes.length ∧ tree' = tree.withNode dir name node := by
  simp only [create, bind, Except.bind, pure, Except.pure] at h
  split at h
  · cases h
  · rename_i hwritable
    cases h
    exact ⟨checkWritable_isDir hwritable, rfl, rfl⟩

theorem IsDir.addNode (h : tree.IsDir dir) (node : Node) : (tree.addNode node).2.IsDir dir := by
  have hold : dir ≠ tree.nodes.length := Nat.ne_of_lt h.lt
  obtain ⟨mode, parent, entries, linked, hnode⟩ := h
  refine ⟨mode, parent, entries, linked, ?_⟩
  rw [node?_addNode, if_neg hold, hnode]

theorem entries_of_not_isDirectory {node : Node} (hnode : tree.node? id = some node)
    (hdir : node.isDirectory = false) : tree.entries id = [] := by
  obtain ⟨mode, content⟩ := node
  cases content with
  | directory => cases hdir
  | _ => simp [entries, hnode]

theorem entries_of_node?_eq (h : tree'.node? id = tree.node? id) : tree'.entries id = tree.entries id := by
  unfold entries
  rw [h]

theorem node?_length (tree : FileTree) : tree.node? tree.nodes.length = none :=
  List.getElem?_eq_none (Nat.le_refl _)

theorem addNode_preserved {node : Node} (hnode : node.isDirectory = false) :
    Preserved tree (tree.addNode node).2 fun _ _ => False where
  shape id hid := by
    rw [node?_addNode, if_neg (Nat.ne_of_lt hid)]
  entry dir name _ := by
    rw [child?_eq, child?_eq]
    by_cases hdir : dir = tree.nodes.length
    · subst hdir
      have hnew : (tree.addNode node).2.node? tree.nodes.length = some node := by
        rw [node?_addNode, if_pos rfl]
      have hold : tree.entries tree.nodes.length = [] := by
        simp [entries, node?_length]
      rw [entries_of_not_isDirectory hnew hnode, hold]
    · have hold : (tree.addNode node).2.node? dir = tree.node? dir := by
        rw [node?_addNode, if_neg hdir]
      rw [entries_of_node?_eq hold]
  files id node hold _ := by
    have hid : id < tree.nodes.length := (List.getElem?_eq_some_iff.mp hold).1
    rw [node?_addNode, if_neg (Nat.ne_of_lt hid)]
    exact hold

theorem child?_withNode {node : Node} (hnode : node.isDirectory = false) (h : tree.IsDir dir)
    (dir' : NodeId) (name' : Bytes) :
    (tree.withNode dir name node).child? dir' name' =
      (tree.child? dir' name').or (if dir = dir' ∧ name' = name then some tree.nodes.length else none) := by
  have hadded : tree.Preserved (tree.addNode node).2 _ := addNode_preserved hnode
  have hsame := hadded.entry
  rw [child?_eq, withNode, entries_changeEntries _ (h.addNode node)]
  by_cases hdir : dir = dir'
  · subst hdir
    have hold := hsame dir name' id
    rw [child?_eq] at hold
    simp only [if_true, true_and]
    rw [List.lookup_append, hold, Entries.lookup_entry]
    rfl
  · have hold := hsame dir' name' id
    rw [child?_eq] at hold
    simp only [hdir, false_and, if_false, Option.or_none]
    exact hold

theorem withNode_preserved {node : Node} (hnode : node.isDirectory = false) (h : tree.IsDir dir) :
    Preserved tree (tree.withNode dir name node) fun dir' name' => dir' = dir ∧ name' = name where
  shape id hid := by
    have hadded : tree.Preserved (tree.addNode node).2 _ := addNode_preserved hnode
    exact (shape_changeEntries _ _ dir id).trans (hadded.shape id hid)
  entry dir' name' hother := by
    have hnot : ¬(dir = dir' ∧ name' = name) := fun hsame => hother ⟨hsame.1.symm, hsame.2⟩
    rw [child?_withNode hnode h, if_neg hnot, Option.or_none]
  files id old hold hfile := by
    have hadded : tree.Preserved (tree.addNode node).2 _ := addNode_preserved hnode
    exact file_changeEntries _ (hadded.files id old hold hfile) hfile dir

theorem node?_withNode (tree : FileTree) (dir : NodeId) (name : Bytes) (node : Node) (id : NodeId) :
    (tree.withNode dir name node).node? id =
      if dir = id then
        (if id = tree.nodes.length then some node else tree.node? id).map
          (Node.withEntries · (· ++ [(name, tree.nodes.length)]))
      else if id = tree.nodes.length then some node else tree.node? id := by
  rw [withNode, node?_changeEntries, node?_addNode]

end FileTree

end ScriptExec.Host
