-- SUMMARY: Following a path is going to the directory of its last name and looking that name up there.
import ScriptExec.Host.FileTree

/-!
# Following paths

A path is followed in two parts: the names before the last one lead to a directory (`approach`), in which
the last name is looked up (`walk_append_last`). What a symbolic link stands for is put in its place, so
each name is one `hop`, after which other names may have to be followed first. Names lead to the same node
whether others come after them or not (`approach_target`).
-/

namespace ScriptExec.Host.FileTree

/-- Follows a name that others come after. The answer tells how many symbolic links may still be
followed, where to go on, and by which names first. -/
def hop (tree : FileTree) (links : Nat) (dir : NodeId) (name : Bytes) :
    Except IoError (Nat × NodeId × List Bytes) :=
  match tree.enter dir with
  | .error cause => .error cause
  | .ok (parent, entries) =>
    if maxName < name.length then .error (tree.tooLong dir)
    else if name == Path.here then .ok (links, dir, [])
    else if name == Path.above then .ok (links, parent, [])
    else
      match entries.lookup name with
      | none => .error .noEntry
      | some id =>
        match (tree.node? id).map Node.content with
        | some (.symlink target) =>
          match links with
          | 0 => .error .tooManyLinks
          | links + 1 => .ok (links, startOf dir target, steps target)
        | _ => .ok (links, id, [])

variable {tree : FileTree} {follow : Bool} {links links' : Nat} {dir dir' id : NodeId}
variable {name last : Bytes} {names front : List Bytes} {place : Place} {cause : IoError}

theorem bind_eq_ok {ε α β : Type} {x : Except ε α} {f : α → Except ε β} {b : β}
    (h : x.bind f = .ok b) : ∃ a, x = .ok a ∧ f a = .ok b := by
  cases x with
  | error e => cases h
  | ok a => exact ⟨a, rfl, h⟩

/-- A hop uses up a link, or puts no names in front. -/
theorem hop_lt (h : tree.hop links dir name = .ok (links', dir', front)) :
    links' < links ∨ links' = links ∧ front = [] := by
  unfold hop at h
  split at h
  · cases h
  · split at h
    · cases h
    · split at h
      · cases h
        exact .inr ⟨rfl, rfl⟩
      · split at h
        · cases h
          exact .inr ⟨rfl, rfl⟩
        · split at h
          · cases h
          · split at h
            · split at h
              · cases h
              · cases h
                exact .inl (Nat.lt_succ_self _)
            · cases h
              exact .inr ⟨rfl, rfl⟩

/-- Follows names that others come after: how many symbolic links may still be followed, and the
directory that is reached. -/
def approach (tree : FileTree) (links : Nat) (dir : NodeId) :
    List Bytes → Except IoError (Nat × NodeId)
  | [] => .ok (links, dir)
  | name :: rest =>
    match _h : tree.hop links dir name with
    | .error cause => .error cause
    | .ok (links', dir', front) => approach tree links' dir' (front ++ rest)
termination_by names => (links, names.length)
decreasing_by
  rcases hop_lt _h with hless | ⟨rfl, rfl⟩
  · exact .left _ _ hless
  · exact .right _ (Nat.lt_succ_self _)

theorem walk_cons (hnames : names ≠ []) :
    tree.walk follow links dir (name :: names) =
      (tree.hop links dir name).bind fun next =>
        tree.walk follow next.1 next.2.1 (next.2.2 ++ names) := by
  rw [walk, hop]
  cases tree.enter dir with
  | error cause => rfl
  | ok found =>
    obtain ⟨parent, entries⟩ := found
    have hmore : names.isEmpty = false := by simpa using hnames
    simp only [hmore, Bool.false_eq_true, if_false, Bool.false_and]
    split
    · rfl
    · split
      · rfl
      · split
        · rfl
        · cases entries.lookup name with
          | none => rfl
          | some id =>
            dsimp only
            generalize (tree.node? id).map Node.content = content
            rcases content with _ | (_ | _ | target | _ | _ | _)
            case some.symlink => cases links <;> rfl
            all_goals rfl

theorem walk_append_last (tree : FileTree) (follow : Bool) (links : Nat) (dir : NodeId)
    (names : List Bytes) (last : Bytes) :
    tree.walk follow links dir (names ++ [last]) =
      (tree.approach links dir names).bind fun reached => tree.walk follow reached.1 reached.2 [last] := by
  fun_induction approach tree links dir names with
  | case1 => rfl
  | case2 links dir name rest cause hhop =>
    rw [List.cons_append, walk_cons (by simp), hhop]
    rfl
  | case3 links dir name rest links' dir' front hhop ih =>
    rw [List.cons_append, walk_cons (by simp), hhop, ← ih, List.append_assoc]
    rfl

theorem approach_append (tree : FileTree) (links : Nat) (dir : NodeId) (names more : List Bytes) :
    tree.approach links dir (names ++ more) =
      (tree.approach links dir names).bind fun reached => tree.approach reached.1 reached.2 more := by
  fun_induction approach tree links dir names with
  | case1 => rfl
  | case2 links dir name rest cause hhop =>
    rw [List.cons_append, approach]
    split <;> simp_all [Except.bind]
  | case3 links dir name rest links' dir' front hhop ih =>
    rw [List.cons_append, approach]
    split <;> simp_all [Except.bind]

/-- The node at a place, for a way that has to lead to one. -/
def target (place : Place) : Except IoError NodeId :=
  match place.node with
  | some id => .ok id
  | none => .error .noEntry

theorem walk_nil_target (tree : FileTree) (links : Nat) (dir : NodeId) :
    (tree.walk true links dir []).bind target = .ok dir := by
  rw [walk]
  rfl

/-- A last name, with links followed to the end, is a hop towards its node. -/
theorem walk_last_target (tree : FileTree) (links : Nat) (dir : NodeId) (last : Bytes) :
    (tree.walk true links dir [last]).bind target =
      (tree.hop links dir last).bind fun next => (tree.walk true next.1 next.2.1 next.2.2).bind target := by
  rw [walk, hop]
  cases tree.enter dir with
  | error cause => rfl
  | ok found =>
    obtain ⟨parent, entries⟩ := found
    simp only [List.isEmpty_nil, if_true, Bool.not_true, Bool.and_false, Bool.false_eq_true, if_false]
    split
    · rfl
    · split
      · exact (tree.walk_nil_target ..).symm
      · split
        · exact (tree.walk_nil_target ..).symm
        · cases entries.lookup last with
          | none => rfl
          | some id =>
            dsimp only
            generalize (tree.node? id).map Node.content = content
            rcases content with _ | (_ | _ | target' | _ | _ | _)
            case some.symlink =>
              cases links with
              | zero => rfl
              | succ links => simp [Except.bind]
            all_goals exact (tree.walk_nil_target ..).symm

theorem walk_target_cons (tree : FileTree) (links : Nat) (dir : NodeId) (name : Bytes) (names : List Bytes) :
    (tree.walk true links dir (name :: names)).bind target =
      (tree.hop links dir name).bind fun next =>
        (tree.walk true next.1 next.2.1 (next.2.2 ++ names)).bind target := by
  cases names with
  | nil => simp only [walk_last_target, List.append_nil]
  | cons second names =>
    rw [walk_cons (List.cons_ne_nil second names)]
    cases tree.hop links dir name <;> rfl

/-- Names lead before others where they lead by themselves, with links followed to the end. -/
theorem approach_target (tree : FileTree) (links : Nat) (dir : NodeId) (names : List Bytes) :
    (tree.approach links dir names).map Prod.snd = (tree.walk true links dir names).bind target := by
  fun_induction approach tree links dir names with
  | case1 links dir => exact (tree.walk_nil_target ..).symm
  | case2 links dir name rest cause hhop =>
    rw [walk_target_cons, hhop]
    rfl
  | case3 links dir name rest links' dir' front hhop ih =>
    rw [walk_target_cons, hhop, ih]
    rfl

theorem approach_of_walk (h : tree.walk true links dir names = .ok place)
    (hnode : place.node = some id) : ∃ left, tree.approach links dir names = .ok (left, id) := by
  have htarget := tree.approach_target links dir names
  rw [h] at htarget
  cases happroach : tree.approach links dir names with
  | error cause => simp [happroach, Except.map, Except.bind, target, hnode] at htarget
  | ok reached =>
    simp only [happroach, Except.map, Except.bind, target, hnode, Except.ok.injEq] at htarget
    exact ⟨reached.1, by rw [← htarget]⟩

/-- Where a last name is looked up is where it is found, if links are not followed. -/
theorem walk_last_dir (h : tree.walk false links dir [last] = .ok place) : place.dir = dir := by
  rw [walk] at h
  cases henter : tree.enter dir with
  | error cause => simp [henter] at h
  | ok found =>
    simp only [henter, List.isEmpty_nil, if_true, Bool.not_false, Bool.and_true] at h
    split at h
    · cases h
    · split at h
      · cases h
        rfl
      · split at h
        · cases h
          rfl
        · split at h
          · cases h
            rfl
          · split at h <;> cases h <;> rfl

/-- A last name that is found with links followed is found without that. -/
theorem walk_last_unfollowed (h : tree.walk true links dir [last] = .ok place) :
    ∃ found, tree.walk false links dir [last] = .ok found := by
  rw [walk] at h ⊢
  cases henter : tree.enter dir with
  | error cause => simp [henter] at h
  | ok found =>
    simp only [henter, List.isEmpty_nil, if_true, Bool.not_false, Bool.and_true] at h ⊢
    split at h
    · cases h
    · rename_i hshort
      rw [if_neg hshort]
      split
      · exact ⟨_, rfl⟩
      · split
        · exact ⟨_, rfl⟩
        · split
          · exact ⟨_, rfl⟩
          · split <;> exact ⟨_, rfl⟩

theorem ne_nil_of_locate {path : Path} (h : tree.locate dir follow path = .ok place) : path ≠ [] := by
  rintro rfl
  cases h

theorem not_mem_nul_of_locate {path : Path} (h : tree.locate dir follow path = .ok place) : Byte.nul ∉ path := by
  intro hnul
  unfold locate at h
  rw [if_pos (List.contains_iff_mem.mpr hnul)] at h
  cases h

theorem length_lt_of_locate {path : Path} (h : tree.locate dir follow path = .ok place) : path.length < maxPath := by
  refine Nat.lt_of_not_le fun hlong => ?_
  unfold locate at h
  rw [if_pos hlong] at h
  split at h
  · cases h
  · split at h <;> cases h

/-- What is neither empty nor refused for its text is followed by its steps. -/
theorem locate_of_accepted {path : Path} (hne : path ≠ []) (hnul : Byte.nul ∉ path)
    (hshort : path.length < maxPath) :
    tree.locate dir follow path = tree.walk follow maxLinks (startOf dir path) (steps path) := by
  rw [locate, if_neg (by simpa using hnul), if_neg (by simpa using hne), if_neg (Nat.not_le.mpr hshort)]

/-- A path that leads somewhere in one tree is followed by its steps in all of them. -/
theorem locate_walk {path : Path} (h : tree.locate dir follow path = .ok place) (tree' : FileTree)
    (cwd : NodeId) (follow' : Bool) :
    tree'.locate cwd follow' path = tree'.walk follow' maxLinks (startOf cwd path) (steps path) :=
  locate_of_accepted (ne_nil_of_locate h) (not_mem_nul_of_locate h) (length_lt_of_locate h)

end ScriptExec.Host.FileTree
