-- SUMMARY: Files keep their content whatever happens to their names, and a replacement that fails leaves no name.
import ScriptExec.Proofs.Host.Contents
import ScriptExec.Proofs.Host.Replacement

/-!
# Kept files

Operations on names leave the content of all files alone (`FileTree.KeepsFiles`). That holds of replacing a file as
well, and one that fails leaves no trace but a file without a name (`Replacement.replace_leaves`), whatever the tree
looks like: only where paths lead after a success takes a tree that is in order.
-/

namespace ScriptExec.Host

namespace FileTree

/-- All that is not a directory is what it was. -/
def KeepsFiles (tree tree' : FileTree) : Prop :=
  ∀ id node, tree.node? id = some node → node.isDirectory = false → tree'.node? id = some node

variable {tree tree' tree'' : FileTree} {dir id : NodeId} {name bytes : Bytes}

theorem KeepsFiles.refl (tree : FileTree) : KeepsFiles tree tree :=
  fun _ _ hnode _ => hnode

theorem KeepsFiles.trans (h : KeepsFiles tree tree') (h' : KeepsFiles tree' tree'') : KeepsFiles tree tree'' :=
  fun id node hnode hfile => h' id node (h id node hnode hfile) hfile

theorem KeepsFiles.bytes? (h : KeepsFiles tree tree') (hbytes : tree.bytes? id = some bytes) :
    tree'.bytes? id = some bytes := by
  obtain ⟨mode, hnode⟩ := exists_regular hbytes
  unfold FileTree.bytes?
  rw [h id _ hnode rfl]
  rfl

theorem Preserved.keepsFiles {changed : NodeId → Bytes → Prop} (h : Preserved tree tree' changed) :
    KeepsFiles tree tree' :=
  h.files

theorem Untouched.refl (tree : FileTree) : Untouched tree tree :=
  ⟨fun _ _ => rfl, fun _ _ => rfl⟩

theorem Untouched.of_eq (h : tree' = tree) : Untouched tree tree' :=
  h ▸ .refl tree

theorem Untouched.keepsFiles (h : Untouched tree tree') : KeepsFiles tree tree' := by
  intro id node hnode _
  rw [h.nodes id (List.getElem?_eq_some_iff.mp hnode).1]
  exact hnode

theorem changeEntries_keepsFiles (tree : FileTree) (dir : NodeId)
    (change : List (Bytes × NodeId) → List (Bytes × NodeId)) : KeepsFiles tree (tree.changeEntries dir change) :=
  fun _ _ hnode hfile => file_changeEntries change hnode hfile dir

/-- Renaming a file changes names only. -/
theorem rename_keepsFiles {source target : Place} (h : tree.rename source target = .ok tree') :
    KeepsFiles tree tree' := by
  cases hsource : source.node with
  | none =>
    simp only [rename, hsource] at h
    cases h
  | some id =>
    obtain ⟨-, -, rfl⟩ := rename_ok hsource h
    exact (changeEntries_keepsFiles _ _ _).trans (changeEntries_keepsFiles _ _ _)

theorem unlink_keepsFiles {path : Path} (h : tree.unlink dir path = .ok tree') : KeepsFiles tree tree' := by
  obtain ⟨place, -, h⟩ := bind_eq_ok h
  split at h
  · cases h
  · split at h
    · cases h
    · split at h
      · cases h
      · obtain ⟨-, -, h⟩ := bind_eq_ok h
        cases h
        exact changeEntries_keepsFiles _ _ _

end FileTree

namespace System

variable {sys : System} {path : Path} {options : OpenOptions} {mode : Nat} {id : NodeId} {tree : FileTree}

theorem removeFile_keepsFiles {sys' : System} (h : sys.removeFile path = .ok sys') :
    sys.tree.KeepsFiles sys'.tree := by
  obtain ⟨-, -, h⟩ := FileTree.bind_eq_ok h
  obtain ⟨tree, htree, h⟩ := FileTree.bind_eq_ok h
  cases h
  exact FileTree.unlink_keepsFiles htree

/-- Opening a file may empty that file, and does nothing to any other one. -/
theorem openNode_keeps (h : sys.openNode path options mode = .ok (id, tree)) :
    sys.tree.KeepsFiles tree ∨ options.truncate = true ∧
      tree = sys.tree.setContent id (.regular []) := by
  unfold openNode at h
  split at h
  · obtain ⟨-, -, h⟩ := FileTree.bind_eq_ok h
    cases h
  · obtain ⟨place, -, h⟩ := FileTree.bind_eq_ok h
    split at h
    · obtain ⟨-, -, h⟩ := FileTree.bind_eq_ok h
      split at h
      · rename_i htruncate _
        cases h
        exact .inr ⟨htruncate, rfl⟩
      · cases h
        exact .inl (.refl _)
    · split at h
      · obtain ⟨hdir, -, rfl⟩ := FileTree.create_ok h
        exact .inl (FileTree.withNode_preserved rfl hdir).keepsFiles
      · cases h

end System

/-! ## Replacing files -/

namespace Replacement

variable {sys sys₀ : System} {target : Path} {data : Bytes} {stage : Stage} {tree : FileTree}

/-- The files at each stage of a replacement, in whatever order they were at its start. -/
inductive Trail (sys₀ : System) (target : Path) : Stage → FileTree → Prop
  | creating : Trail sys₀ target .creating sys₀.tree
  | filling {made writing bytes} (h : sys₀.Made target made) :
      Trail sys₀ target (.filling made writing) (sys₀.filesWith made bytes)
  | syncing {made bytes} (h : sys₀.Made target made) :
      Trail sys₀ target (.syncing made) (sys₀.filesWith made bytes)
  | committing {made bytes} (h : sys₀.Made target made) :
      Trail sys₀ target (.committing made) (sys₀.filesWith made bytes)
  | discarding {made e bytes} (h : sys₀.Made target made) :
      Trail sys₀ target (.discarding made e) (sys₀.filesWith made bytes)
  | failed {e files} (h : sys₀.tree.Untouched files) : Trail sys₀ target (.finished (.error e)) files
  | renamed {files} (h : sys₀.tree.KeepsFiles files) : Trail sys₀ target (.finished (.ok ())) files

theorem Trail.step (h : Trail sys₀ target stage sys.tree) (hframe : sys₀.Frames sys) :
    Trail sys₀ target (step target data stage sys).1 (step target data stage sys).2.tree := by
  generalize htree : sys.tree = tree at h
  cases h with
  | creating =>
    simp only [Replacement.step]
    split
    · rename_i temporary sys' hcreate
      obtain ⟨made, hfiles⟩ := hframe.made htree hcreate
      rw [hfiles]
      exact .filling made
    · rw [htree]
      exact .failed (.refl _)
  | filling made =>
    simp only [Replacement.step]
    split
    · split <;> rw [htree]
      · exact .discarding made
      · exact .syncing made
    · dsimp only
      rw [made.fillTemporary ((System.answerWrite_tree _ _).trans htree)]
      exact .filling made
  | syncing made =>
    have hsynced := sys.sync_tree
    simp only [Replacement.step]
    split <;> rename_i hsync <;> rw [hsync] at hsynced <;> dsimp only at hsynced ⊢ <;>
      rw [hsynced, htree]
    · exact .discarding made
    · exact .committing made
  | @committing temporary bytes made =>
    simp only [Replacement.step]
    split
    · rename_i sys' hrename
      obtain ⟨place, tree, -, hrenamed, rfl⟩ := System.renameTemporary_ok hrename
      rw [htree] at hrenamed
      exact .renamed ((made.preserved bytes).keepsFiles.trans (FileTree.rename_keepsFiles hrenamed))
    · rw [htree]
      exact .discarding made
  | discarding made => exact .failed (made.discardTemporary htree)
  | failed hsame => exact .failed (htree ▸ hsame)
  | renamed hkept => exact .renamed (htree ▸ hkept)

/-- A replacement goes its way to the end. -/
theorem Trail.run (h : Trail sys₀ target stage sys.tree) (hframe : sys₀.Frames sys) :
    Trail sys₀ target (.finished (run target data stage sys).1) (run target data stage sys).2.tree := by
  fun_induction Replacement.run target data stage sys with
  | case1 stage sys result hresult =>
    cases stage with
    | finished last =>
      obtain rfl := Option.some.inj hresult
      exact h
    | _ => cases hresult
  | case2 stage sys hgoing ih => exact ih (h.step hframe) (hframe.trans (step_frames target data stage sys))

/-- Replacing a file keeps the content of all files that there were, and leaves everything as it was if it fails. -/
theorem replace_leaves (sys : System) (target : Path) (data : Bytes) :
    sys.tree.KeepsFiles (sys.replace target data).2.tree ∧
      ∀ e, (sys.replace target data).1 = .error e → sys.tree.Untouched (sys.replace target data).2.tree := by
  have hend : Trail sys target (.finished (sys.replace target data).1) (sys.replace target data).2.tree :=
    Trail.run .creating (.refl sys)
  generalize (sys.replace target data).2.tree = files at hend
  generalize (sys.replace target data).1 = result at hend
  cases hend with
  | failed hsame => exact ⟨hsame.keepsFiles, fun _ _ => hsame⟩
  | renamed hkept => exact ⟨hkept, nofun⟩

end Replacement

end ScriptExec.Host
