-- SUMMARY: Following a path as one stride after the other, through a tree and through one that is nearly the same.
import ScriptExec.Proofs.Host.Walk
import ScriptExec.Proofs.Lookup

/-!
# Strides

Following a path is one stride after the other, each by one name of it (`FileTree.walk_stride`). Where the
way goes on after a stride is the data that inductions over ways follow (`FileTree.walk_induction`).

Two trees are compared that differ in a few entries of directories and in the bytes of files
(`FileTree.Overlay`): whoever follows a path through both goes the same way until an entry is looked up
that has changed (`FileTree.Overlay.walk`).
-/

namespace ScriptExec.Host

namespace Node

/-- What following a path can tell of a node, besides the entries that it has as a directory. -/
def shape (node : Node) : Node :=
  { node with
    content := match node.content with
      | .regular _ => .regular []
      | .directory parent _ linked => .directory parent [] linked
      | content => content }

end Node

namespace FileTree

/-- The entries of a directory; other nodes have none. -/
def entries (tree : FileTree) (dir : NodeId) : List (Bytes × NodeId) :=
  match (tree.node? dir).map Node.content with
  | some (.directory _ entries _) => entries
  | _ => []

/-- A name is looked up in a directory: it may be searched, and the name is one of an entry. -/
structure LooksUp (tree : FileTree) (dir : NodeId) (name : Bytes) : Prop where
  enters : ∃ found, tree.enter dir = .ok found
  short : ¬maxName < name.length
  not_here : name ≠ Path.here
  not_above : name ≠ Path.above

/-- There is a top directory, and all that a directory leads to is there. -/
structure Closed (tree : FileTree) : Prop where
  root : 0 < tree.nodes.length
  parent : ∀ {dir found}, tree.enter dir = .ok found → found.1 < tree.nodes.length
  entry : ∀ {dir name id}, tree.child? dir name = some id → id < tree.nodes.length

/-- Whether a node, if it is a directory, leads to nodes below a number only. -/
def Node.leadsBelow (node : Node) (n : Nat) : Bool :=
  match node.content with
  | .directory parent entries _ => decide (parent < n) && entries.all fun entry => decide (entry.2 < n)
  | _ => true

/-- A tree is another one but for some of the entries, the bytes of files, and nodes that are new. -/
structure Overlay (tree tree' : FileTree) (changed : NodeId → Bytes → Prop) : Prop where
  shape : ∀ id < tree.nodes.length, (tree'.node? id).map Node.shape = (tree.node? id).map Node.shape
  entry : ∀ dir name, ¬changed dir name → tree'.child? dir name = tree.child? dir name

variable {tree tree' : FileTree} {changed : NodeId → Bytes → Prop}
variable {follow : Bool} {links : Nat} {dir id : NodeId} {name : Bytes} {names : List Bytes}

/-! ## What shapes tell -/

theorem child?_eq (tree : FileTree) (dir : NodeId) (name : Bytes) :
    tree.child? dir name = (tree.entries dir).lookup name := by
  unfold child? entries
  rcases (tree.node? dir).map Node.content with _ | (_ | _ | _ | _ | _ | _) <;> rfl

theorem enter_entries {found : NodeId × List (Bytes × NodeId)} (h : tree.enter dir = .ok found) :
    found.2 = tree.entries dir := by
  unfold enter at h
  unfold entries
  cases hnode : tree.node? dir with
  | none => simp [hnode] at h
  | some node =>
    obtain ⟨mode, content⟩ := node
    cases content with
    | directory parent entries linked =>
      simp only [hnode] at h
      split at h
      · cases h
        rfl
      · cases h
    | _ => simp [hnode] at h

theorem closed_of_nodes (hroot : 0 < tree.nodes.length)
    (h : tree.nodes.all (Node.leadsBelow · tree.nodes.length) = true) : tree.Closed := by
  have hnode {dir : NodeId} {node : Node} (hnode : tree.node? dir = some node) :
      Node.leadsBelow node tree.nodes.length = true :=
    List.all_eq_true.mp h node (List.mem_of_getElem? hnode)
  refine ⟨hroot, ?_, ?_⟩
  · intro dir found henter
    unfold enter at henter
    split at henter
    · rename_i node hthere
      have hbelow := hnode hthere
      unfold Node.leadsBelow at hbelow
      split at henter
      · rename_i parent entries linked hcontent
        rw [hcontent, Bool.and_eq_true] at hbelow
        split at henter <;> cases henter
        exact of_decide_eq_true hbelow.1
      · cases henter
    · cases henter
  · intro dir name id hentry
    unfold child? at hentry
    split at hentry
    · rename_i parent entries linked hcontent
      obtain ⟨node, hthere, hcontent⟩ := Option.map_eq_some_iff.mp hcontent
      have hbelow := hnode hthere
      unfold Node.leadsBelow at hbelow
      rw [hcontent, Bool.and_eq_true] at hbelow
      exact of_decide_eq_true (List.all_eq_true.mp hbelow.2 _ (Entries.mem_of_lookup hentry))
    · cases hentry

/-- Nodes of one shape are the same, or files with different bytes, or directories with different entries. -/
inductive Node.Alike : Option Node → Option Node → Prop
  | same {node} : Alike node node
  | file {mode bytes bytes'} : Alike (some ⟨mode, .regular bytes⟩) (some ⟨mode, .regular bytes'⟩)
  | directory {mode parent entries entries' linked} :
      Alike (some ⟨mode, .directory parent entries linked⟩) (some ⟨mode, .directory parent entries' linked⟩)

theorem Node.alike_of_shape {node node' : Option Node} (h : node'.map Node.shape = node.map Node.shape) :
    Node.Alike node node' := by
  cases node with
  | none =>
    obtain rfl : node' = none := Option.map_eq_none_iff.mp h
    exact .same
  | some node =>
    obtain ⟨node', rfl, hshape⟩ := Option.map_eq_some_iff.mp h
    obtain ⟨mode, content⟩ := node
    obtain ⟨mode', content'⟩ := node'
    obtain ⟨rfl, hcontent⟩ : mode' = mode ∧ _ := Node.mk.inj hshape
    cases content <;> cases content' <;> simp only [reduceCtorEq] at hcontent
    case regular.regular => exact .file
    case directory.directory =>
      obtain ⟨rfl, -, rfl⟩ := Content.directory.inj hcontent
      exact .directory
    all_goals
      cases hcontent
      exact .same

section

variable (h : (tree'.node? id).map Node.shape = (tree.node? id).map Node.shape)
include h

theorem enter_of_shape : tree'.enter id = (tree.enter id).map fun found => (found.1, tree'.entries id) := by
  have halike := Node.alike_of_shape h
  unfold enter entries
  generalize tree.node? id = node at halike
  generalize tree'.node? id = node' at halike
  cases halike with
  | file => rfl
  | @directory mode =>
    by_cases hmay : mode.testBit 6 = true <;> simp [Node.mayExecute, hmay, Except.map]
  | same =>
    rcases node with _ | ⟨mode, content⟩
    · rfl
    · cases content with
      | directory parent entries linked =>
        by_cases hmay : mode.testBit 6 = true <;> simp [Node.mayExecute, hmay, Except.map]
      | _ => rfl

theorem tooLong_of_shape : tree'.tooLong id = tree.tooLong id := by
  have halike := Node.alike_of_shape h
  unfold tooLong
  generalize tree.node? id = node at halike
  generalize tree'.node? id = node' at halike
  cases halike with
  | same | file => rfl
  | @directory _ _ _ _ linked => cases linked <;> rfl

theorem checkWritable_of_shape : tree'.checkWritable id = tree.checkWritable id := by
  have halike := Node.alike_of_shape h
  unfold checkWritable
  generalize tree.node? id = node at halike
  generalize tree'.node? id = node' at halike
  cases halike <;> rfl

end

/-! ## Strides -/

/-- What comes of looking at the next name on a way: the end of it, or where and by which names to go on. -/
inductive Stride
  | stop (answer : Except IoError Place)
  | goOn (links : Nat) (dir : NodeId) (names : List Bytes)

/-- Going to a node by a name, which others may follow. -/
def Stride.pass (links : Nat) (dir : NodeId) (name : Bytes) (rest : List Bytes) (id : NodeId) : Stride :=
  if rest.isEmpty then .stop (.ok ⟨dir, name, some id⟩) else .goOn links id rest

/-- Looks at one name of a way. -/
def stride (tree : FileTree) (follow : Bool) (links : Nat) (dir : NodeId) (name : Bytes)
    (rest : List Bytes) : Stride :=
  match tree.enter dir with
  | .error cause => .stop (.error cause)
  | .ok (parent, _) =>
    if maxName < name.length then .stop (.error (tree.tooLong dir))
    else if name = Path.here then .pass links dir name rest dir
    else if name = Path.above then .pass links dir name rest parent
    else
      match tree.child? dir name with
      | none => .stop (if rest.isEmpty then .ok ⟨dir, name, none⟩ else .error .noEntry)
      | some id =>
        match (tree.node? id).map Node.content with
        | some (.symlink target) =>
          if rest.isEmpty && !follow then .stop (.ok ⟨dir, name, some id⟩)
          else
            match links with
            | 0 => .stop (.error .tooManyLinks)
            | links + 1 => .goOn links (startOf dir target) (steps target ++ rest)
        | _ => .pass links dir name rest id

/-- A way is one stride after the other. -/
theorem walk_stride (tree : FileTree) (follow : Bool) (links : Nat) (dir : NodeId) (name : Bytes)
    (rest : List Bytes) :
    tree.walk follow links dir (name :: rest) =
      match tree.stride follow links dir name rest with
      | .stop answer => answer
      | .goOn links dir names => tree.walk follow links dir names := by
  rw [walk, stride]
  cases henter : tree.enter dir with
  | error cause => rfl
  | ok found =>
    obtain ⟨parent, entries⟩ := found
    obtain rfl : entries = tree.entries dir := enter_entries henter
    have hpass (id : NodeId) :
        (match Stride.pass links dir name rest id with
          | .stop answer => answer
          | .goOn links dir names => tree.walk follow links dir names) =
          if rest.isEmpty then .ok ⟨dir, name, some id⟩ else tree.walk follow links id rest := by
      cases rest <;> rfl
    dsimp only
    split
    · rfl
    · simp only [beq_iff_eq]
      split
      · exact (hpass dir).symm
      · split
        · exact (hpass parent).symm
        · rw [child?_eq]
          cases (tree.entries dir).lookup name with
          | none => rfl
          | some id =>
            dsimp only
            rcases (tree.node? id).map Node.content with _ | (_ | _ | target | _ | _ | _)
            case some.symlink =>
              dsimp only
              split
              · rfl
              · cases links <;> rfl
            all_goals exact (hpass id).symm

/-- What looking at a name can come to. -/
inductive Strode (tree : FileTree) (follow : Bool) (links : Nat) (dir : NodeId) (name : Bytes)
    (rest : List Bytes) : Stride → Prop
  | fails (cause : IoError) : Strode tree follow links dir name rest (.stop (.error cause))
  | here (h : name = Path.here) : Strode tree follow links dir name rest (.pass links dir name rest dir)
  | above {found} (henter : tree.enter dir = .ok found) (h : name = Path.above) :
      Strode tree follow links dir name rest (.pass links dir name rest found.1)
  | missing (hlooks : tree.LooksUp dir name) (hentry : tree.child? dir name = none) (hlast : rest = []) :
      Strode tree follow links dir name rest (.stop (.ok ⟨dir, name, none⟩))
  | entry {next} (hlooks : tree.LooksUp dir name) (hentry : tree.child? dir name = some next) :
      Strode tree follow links dir name rest (.pass links dir name rest next)
  | unfollowed {next} (hlooks : tree.LooksUp dir name) (hentry : tree.child? dir name = some next)
      (hlast : rest = []) : Strode tree follow links dir name rest (.stop (.ok ⟨dir, name, some next⟩))
  | link {next target left} (hlinks : links = left + 1) (hentry : tree.child? dir name = some next)
      (hlink : (tree.node? next).map Node.content = some (.symlink target))
      (hfollow : rest = [] → follow = true) :
      Strode tree follow links dir name rest (.goOn left (startOf dir target) (steps target ++ rest))

theorem strode (tree : FileTree) (follow : Bool) (links : Nat) (dir : NodeId) (name : Bytes)
    (rest : List Bytes) :
    Strode tree follow links dir name rest (tree.stride follow links dir name rest) := by
  unfold stride
  split
  · exact .fails _
  · rename_i parent entries henter
    split
    · exact .fails _
    · rename_i hshort
      split
      · rename_i hhere
        exact .here hhere
      · rename_i hhere
        split
        · rename_i habove
          exact .above henter habove
        · rename_i habove
          have hlooks : tree.LooksUp dir name := ⟨⟨_, henter⟩, hshort, hhere, habove⟩
          split
          · rename_i hentry
            split
            · rename_i hlast
              exact .missing hlooks hentry (List.isEmpty_iff.mp hlast)
            · exact .fails _
          · rename_i next hentry
            split
            · rename_i target hlink
              split
              · rename_i hlast
                exact .unfollowed hlooks hentry (List.isEmpty_iff.mp (Bool.and_eq_true_iff.mp hlast).1)
              · rename_i hfollow
                split
                · exact .fails _
                · refine .link rfl hentry hlink fun hlast => ?_
                  simpa [hlast] using hfollow
            · exact .entry hlooks hentry

theorem Stride.pass_goOn {id : NodeId} {links' : Nat} {dir' : NodeId} {names' : List Bytes}
    (h : Stride.pass links dir name names id = .goOn links' dir' names') :
    links' = links ∧ dir' = id ∧ names' = names := by
  unfold Stride.pass at h
  split at h
  · cases h
  · cases h
    exact ⟨rfl, rfl, rfl⟩

/-- Where a way goes on. -/
inductive GoesOn (tree : FileTree) (links : Nat) (dir : NodeId) (name : Bytes) (rest : List Bytes) :
    Nat → NodeId → List Bytes → Prop
  | here : GoesOn tree links dir name rest links dir rest
  | above {found} (h : tree.enter dir = .ok found) : GoesOn tree links dir name rest links found.1 rest
  | entry {next} (h : tree.child? dir name = some next) : GoesOn tree links dir name rest links next rest
  | link {next target left} (hlinks : links = left + 1) (hentry : tree.child? dir name = some next)
      (hlink : (tree.node? next).map Node.content = some (.symlink target)) :
      GoesOn tree links dir name rest left (startOf dir target) (steps target ++ rest)

theorem stride_goesOn {rest : List Bytes} {links' : Nat} {dir' : NodeId} {names' : List Bytes}
    (h : tree.stride follow links dir name rest = .goOn links' dir' names') :
    GoesOn tree links dir name rest links' dir' names' := by
  have hstrode := tree.strode follow links dir name rest
  generalize tree.stride follow links dir name rest = stride at h hstrode
  cases hstrode with
  | fails | missing | unfollowed => cases h
  | here =>
    obtain ⟨rfl, rfl, rfl⟩ := Stride.pass_goOn h
    exact .here
  | above henter =>
    obtain ⟨rfl, rfl, rfl⟩ := Stride.pass_goOn h
    exact .above henter
  | entry hlooks hentry =>
    obtain ⟨rfl, rfl, rfl⟩ := Stride.pass_goOn h
    exact .entry hentry
  | link hlinks hentry hlink =>
    cases h
    exact .link hlinks hentry hlink

/-- What holds of a way if it holds of the rest of it after every stride holds of all ways. -/
theorem walk_induction {motive : Nat → NodeId → List Bytes → Prop} (tree : FileTree) (follow : Bool)
    (nil : ∀ links dir, motive links dir [])
    (cons : ∀ links dir name rest,
      (∀ links' dir' names', tree.stride follow links dir name rest = .goOn links' dir' names' →
        motive links' dir' names') → motive links dir (name :: rest))
    (links : Nat) (dir : NodeId) (names : List Bytes) : motive links dir names := by
  match names with
  | [] => exact nil links dir
  | name :: rest =>
    refine cons links dir name rest fun links' dir' names' h => ?_
    have hless : links' < links ∨ links' = links ∧ names'.length < rest.length + 1 := by
      cases stride_goesOn h with
      | here | above | entry => exact .inr ⟨rfl, Nat.lt_succ_self _⟩
      | link hlinks => exact .inl (by omega)
    exact walk_induction tree follow nil cons links' dir' names'
termination_by (links, names.length)
decreasing_by
  rcases hless with hlinks | ⟨rfl, hnames⟩
  · exact .left _ _ hlinks
  · exact .right _ hnames

theorem LooksUp.of_shape (h : tree.LooksUp dir name)
    (hshape : (tree'.node? dir).map Node.shape = (tree.node? dir).map Node.shape) : tree'.LooksUp dir name := by
  obtain ⟨found, henter⟩ := h.enters
  refine ⟨⟨(found.1, tree'.entries dir), ?_⟩, h.short, h.not_here, h.not_above⟩
  rw [enter_of_shape hshape, henter]
  rfl

/-! ## Following paths -/

theorem mem_segments_of_steps {path : Path} (h : name ∈ steps path) (hhere : name ≠ Path.here) :
    name ∈ path.segments := by
  rcases List.mem_append.mp h with h | h
  · exact (List.mem_filter.mp h).1
  · split at h
    · exact absurd (List.mem_singleton.mp h) hhere
    · cases h

theorem mentions_of_symlink {target : Path} (hlink : (tree.node? id).map Node.content = some (.symlink target))
    (hname : name ∈ steps target) (hhere : name ≠ Path.here) : tree.mentions name = true := by
  obtain ⟨node, hnode, hcontent⟩ := Option.map_eq_some_iff.mp hlink
  have hsegment := mem_segments_of_steps hname hhere
  unfold mentions
  rw [List.any_eq_true]
  refine ⟨node, List.mem_of_getElem? hnode, ?_⟩
  rw [hcontent]
  simpa using hsegment

theorem startOf_lt (hclosed : tree.Closed) (hdir : dir < tree.nodes.length) (path : Path) :
    startOf dir path < tree.nodes.length := by
  unfold startOf
  split
  · exact hclosed.root
  · exact hdir

/-- A tree that is closed is not left. -/
theorem Closed.goesOn {rest : List Bytes} {links' : Nat} {dir' : NodeId} {names' : List Bytes}
    (hclosed : tree.Closed) (hdir : dir < tree.nodes.length)
    (h : GoesOn tree links dir name rest links' dir' names') : dir' < tree.nodes.length := by
  cases h with
  | here => exact hdir
  | above henter => exact hclosed.parent henter
  | entry hentry => exact hclosed.entry hentry
  | link => exact startOf_lt hclosed hdir _

/-- Looking at a name comes to the same in two trees, unless it is one whose entry has changed. -/
theorem Overlay.stride (h : Overlay tree tree' changed) (hclosed : tree.Closed)
    (hdir : dir < tree.nodes.length) (hsame : tree.LooksUp dir name → ¬changed dir name) (follow : Bool)
    (links : Nat) (rest : List Bytes) :
    tree'.stride follow links dir name rest = tree.stride follow links dir name rest := by
  unfold FileTree.stride
  rw [enter_of_shape (h.shape dir hdir), tooLong_of_shape (h.shape dir hdir)]
  cases henter : tree.enter dir with
  | error cause => rfl
  | ok found =>
    dsimp only [Except.map]
    split
    · rfl
    · rename_i hshort
      split
      · rfl
      · rename_i hhere
        split
        · rfl
        · rename_i habove
          rw [h.entry dir name (hsame ⟨⟨found, henter⟩, hshort, hhere, habove⟩)]
          cases hentry : tree.child? dir name with
          | none => rfl
          | some id =>
            have hshape := h.shape id (hclosed.entry hentry)
            have halike := Node.alike_of_shape hshape
            dsimp only
            generalize tree.node? id = node at halike
            generalize tree'.node? id = node' at halike
            cases halike <;> rfl

/-- The ways through two trees by the same names have come to an entry that has changed. -/
structure Parting (tree tree' : FileTree) (changed : NodeId → Bytes → Prop) (follow : Bool)
    (links : Nat) (dir : NodeId) (names : List Bytes) (links' : Nat) (dir' : NodeId) (name : Bytes)
    (rest : List Bytes) : Prop where
  changed : changed dir' name
  there : dir' < tree.nodes.length
  looksUp : tree.LooksUp dir' name
  mentioned : name ∈ names ∨ tree.mentions name = true
  before : tree.walk follow links dir names = tree.walk follow links' dir' (name :: rest)
  after : tree'.walk follow links dir names = tree'.walk follow links' dir' (name :: rest)

/-- Whoever follows names through a tree and through what lies over it goes the same way, until an entry
is looked up that has changed. -/
theorem Overlay.walk (h : Overlay tree tree' changed) (hclosed : tree.Closed) (follow : Bool)
    (links : Nat) (dir : NodeId) (names : List Bytes) (hdir : dir < tree.nodes.length) :
    tree'.walk follow links dir names = tree.walk follow links dir names ∨
      ∃ links' dir' name rest,
        Parting tree tree' changed follow links dir names links' dir' name rest := by
  induction links, dir, names using walk_induction tree follow with
  | nil links dir =>
    left
    rw [FileTree.walk, FileTree.walk]
  | cons links dir name rest ih =>
    by_cases hchanged : tree.LooksUp dir name ∧ changed dir name
    · exact .inr ⟨links, dir, name, rest, hchanged.2, hdir, hchanged.1, .inl List.mem_cons_self, rfl, rfl⟩
    · have hstride := h.stride hclosed hdir (fun hlooks hch => hchanged ⟨hlooks, hch⟩) follow links rest
      rw [walk_stride, walk_stride, hstride]
      cases hnext : tree.stride follow links dir name rest with
      | stop answer => exact .inl rfl
      | goOn links' dir' names' =>
        have hgoes := stride_goesOn hnext
        rcases ih links' dir' names' hnext (hclosed.goesOn hdir hgoes) with hsame | hpart
        · exact .inl hsame
        · obtain ⟨links'', dir'', name', rest', hpart⟩ := hpart
          refine .inr ⟨links'', dir'', name', rest', hpart.changed, hpart.there, hpart.looksUp, ?_, ?_, ?_⟩
          · rcases hpart.mentioned with hmem | hmention
            · cases hgoes with
              | here | above | entry => exact .inl (List.mem_cons_of_mem _ hmem)
              | link hlinks hentry hlink =>
                rcases List.mem_append.mp hmem with hmem | hmem
                · exact .inr (mentions_of_symlink hlink hmem hpart.looksUp.not_here)
                · exact .inl (List.mem_cons_of_mem _ hmem)
            · exact .inr hmention
          · rw [walk_stride, hnext]
            exact hpart.before
          · rw [walk_stride, hstride, hnext]
            exact hpart.after

/-! ## Where ways end -/

/-- A way that ends with a name that is looked up ends where the entry leads, if it leads anywhere. -/
structure Ends (tree : FileTree) (place : Place) : Prop where
  looksUp : tree.LooksUp place.dir place.name
  node : place.node = tree.child? place.dir place.name

/-- The names of places that have no entry. -/
def isBareName (name : Bytes) : Prop :=
  name = [] ∨ name = Path.here ∨ name = Path.above

variable {place : Place} {rest : List Bytes}

/-- Where the last name of a way leads. -/
inductive StopsAt (tree : FileTree) (dir : NodeId) : Place → Prop
  | here : StopsAt tree dir ⟨dir, Path.here, some dir⟩
  | above {found} (h : tree.enter dir = .ok found) : StopsAt tree dir ⟨dir, Path.above, some found.1⟩
  | entry {last} (h : tree.LooksUp dir last) : StopsAt tree dir ⟨dir, last, tree.child? dir last⟩

theorem Stride.pass_stop (h : Stride.pass links dir name rest id = .stop (.ok place)) :
    rest = [] ∧ place = ⟨dir, name, some id⟩ := by
  unfold Stride.pass at h
  split at h
  · rename_i hrest
    cases h
    exact ⟨List.isEmpty_iff.mp hrest, rfl⟩
  · cases h

theorem stride_stop_ok (h : tree.stride follow links dir name rest = .stop (.ok place)) :
    rest = [] ∧ place.name = name ∧ StopsAt tree dir place := by
  have hstrode := tree.strode follow links dir name rest
  generalize tree.stride follow links dir name rest = stride at h hstrode
  cases hstrode with
  | fails | link => cases h
  | here hhere =>
    obtain ⟨hrest, rfl⟩ := Stride.pass_stop h
    subst hhere
    exact ⟨hrest, rfl, .here⟩
  | above henter habove =>
    obtain ⟨hrest, rfl⟩ := Stride.pass_stop h
    subst habove
    exact ⟨hrest, rfl, .above henter⟩
  | missing hlooks hentry hrest =>
    cases h
    exact ⟨hrest, rfl, hentry ▸ .entry hlooks⟩
  | entry hlooks hentry =>
    obtain ⟨hrest, rfl⟩ := Stride.pass_stop h
    exact ⟨hrest, rfl, hentry ▸ .entry hlooks⟩
  | unfollowed hlooks hentry hrest =>
    cases h
    exact ⟨hrest, rfl, hentry ▸ .entry hlooks⟩

/-- A way ends where it has come to, or where its last name leads. -/
theorem walk_stops (h : tree.walk follow links dir names = .ok place) :
    ∃ dir', (tree.Closed → dir < tree.nodes.length → dir' < tree.nodes.length) ∧
      (place = ⟨dir', [], some dir'⟩ ∨ StopsAt tree dir' place) := by
  induction links, dir, names using walk_induction tree follow with
  | nil links dir =>
    rw [walk] at h
    cases h
    exact ⟨dir, fun _ hdir => hdir, .inl rfl⟩
  | cons links dir name rest ih =>
    rw [walk_stride] at h
    split at h
    · rename_i answer hstride
      subst h
      exact ⟨dir, fun _ hdir => hdir, .inr (stride_stop_ok hstride).2.2⟩
    · rename_i hstride
      obtain ⟨dir', hdir', hstops⟩ := ih _ _ _ hstride h
      exact ⟨dir', fun hclosed hdir => hdir' hclosed (hclosed.goesOn hdir (stride_goesOn hstride)), hstops⟩

theorem walk_ends (h : tree.walk follow links dir names = .ok place) :
    isBareName place.name ∨ tree.Ends place := by
  obtain ⟨dir', -, rfl | hstops⟩ := walk_stops h
  · exact .inl (.inl rfl)
  · cases hstops with
    | here => exact .inl (.inr (.inl rfl))
    | above => exact .inl (.inr (.inr rfl))
    | entry hlooks => exact .inr ⟨hlooks, rfl⟩

/-- What a way through a closed tree leads to is there. -/
theorem walk_lt (h : tree.walk follow links dir names = .ok place) (hclosed : tree.Closed)
    (hdir : dir < tree.nodes.length) (hnode : place.node = some id) : id < tree.nodes.length := by
  obtain ⟨dir', hthere, rfl | hstops⟩ := walk_stops h
  · cases hnode
    exact hthere hclosed hdir
  · cases hstops with
    | here =>
      cases hnode
      exact hthere hclosed hdir
    | above henter =>
      cases hnode
      exact hclosed.parent henter
    | entry => exact hclosed.entry hnode

/-- A last name that is not followed ends the way. -/
theorem stride_last (tree : FileTree) (links : Nat) (dir : NodeId) (name : Bytes) :
    ∃ answer, tree.stride false links dir name [] = .stop answer := by
  have hstrode := tree.strode false links dir name []
  generalize tree.stride false links dir name [] = stride at hstrode
  cases hstrode with
  | link _ _ _ hfollow => cases hfollow rfl
  | _ => exact ⟨_, rfl⟩

theorem walk_name_of_last (h : tree.walk false links dir [name] = .ok place) : place.name = name := by
  obtain ⟨answer, hstride⟩ := stride_last tree links dir name
  rw [walk_stride, hstride] at h
  subst h
  exact (stride_stop_ok hstride).2.1

/-- It only makes a difference at a symbolic link whether a last name is followed. -/
theorem stride_follow (tree : FileTree) (links : Nat) (dir : NodeId) (name : Bytes) (rest : List Bytes) :
    tree.stride true links dir name rest = tree.stride false links dir name rest ∨
      ∃ id target, (tree.node? id).map Node.content = some (.symlink target) ∧
        tree.stride false links dir name rest = .stop (.ok ⟨dir, name, some id⟩) := by
  unfold stride
  split
  · exact .inl rfl
  · split
    · exact .inl rfl
    · split
      · exact .inl rfl
      · split
        · exact .inl rfl
        · split
          · exact .inl rfl
          · rename_i id hentry
            split
            · rename_i target hlink
              cases rest with
              | nil => exact .inr ⟨id, target, hlink, rfl⟩
              | cons => exact .inl rfl
            · exact .inl rfl

/-- A way that follows its last name leads where the one does that does not, unless that ends at a symbolic
link. -/
theorem walk_follow_or (tree : FileTree) (links : Nat) (dir : NodeId) (names : List Bytes) :
    tree.walk true links dir names = tree.walk false links dir names ∨
      ∃ place target, tree.walk false links dir names = .ok place ∧
        (place.node.bind tree.node?).map Node.content = some (.symlink target) := by
  induction links, dir, names using walk_induction tree false with
  | nil links dir =>
    left
    rw [walk, walk]
  | cons links dir name rest ih =>
    rw [walk_stride, walk_stride]
    rcases stride_follow tree links dir name rest with hsame | ⟨id, target, hlink, hstop⟩
    · rw [hsame]
      cases hstride : tree.stride false links dir name rest with
      | stop answer => exact .inl rfl
      | goOn links' dir' names' => exact ih _ _ _ hstride
    · rw [hstop]
      exact .inr ⟨_, target, rfl, hlink⟩

theorem walk_follow (h : tree.walk false links dir names = .ok place)
    (hlink : ∀ target, (place.node.bind tree.node?).map Node.content ≠ some (.symlink target)) :
    tree.walk true links dir names = .ok place := by
  rcases tree.walk_follow_or links dir names with hsame | ⟨reached, target, hreached, hcontent⟩
  · exact hsame.trans h
  · rw [h] at hreached
    cases hreached
    exact absurd hcontent (hlink target)

theorem walk_follow_error {cause : IoError} (h : tree.walk false links dir names = .error cause) :
    tree.walk true links dir names = .error cause := by
  rcases tree.walk_follow_or links dir names with hsame | ⟨reached, target, hreached, -⟩
  · exact hsame.trans h
  · rw [h] at hreached
    cases hreached

/-- A way fails that has names left at a node that is neither a directory nor a symbolic link. -/
theorem walk_barred {second : Bytes} (hlooks : tree.LooksUp dir name)
    (hnode : ∀ id node, tree.child? dir name = some id → tree.node? id = some node →
      node.isDirectory = false ∧ ∀ target, node.content ≠ .symlink target)
    (follow : Bool) (links : Nat) (rest : List Bytes) :
    ∃ cause, tree.walk follow links dir (name :: second :: rest) = .error cause := by
  obtain ⟨⟨found, henter⟩, hshort, hhere, habove⟩ := hlooks
  cases hentry : tree.child? dir name with
  | none =>
    have hstop : tree.stride follow links dir name (second :: rest) = .stop (.error .noEntry) := by
      simp [stride, henter, hshort, hhere, habove, hentry]
    rw [walk_stride, hstop]
    exact ⟨_, rfl⟩
  | some id =>
    have hgoOn : tree.stride follow links dir name (second :: rest) = .goOn links id (second :: rest) := by
      have hlink : ∀ target, (tree.node? id).map Node.content ≠ some (.symlink target) := by
        intro target hcontent
        obtain ⟨node, hthere, hlink⟩ := Option.map_eq_some_iff.mp hcontent
        exact (hnode id node hentry hthere).2 target hlink
      simp only [stride, henter, hshort, hhere, habove, hentry, if_false]
      rfl
    have hnot : ∃ cause, tree.enter id = .error cause := by
      cases hthere : tree.node? id with
      | none => exact ⟨.noEntry, by simp [enter, hthere]⟩
      | some node =>
        have hdir := (hnode id node hentry hthere).1
        obtain ⟨mode, content⟩ := node
        cases content with
        | directory => cases hdir
        | _ => exact ⟨.notDirectory, by simp [enter, hthere]⟩
    obtain ⟨cause, hcause⟩ := hnot
    rw [walk_stride, hgoOn]
    dsimp only
    rw [walk_stride, stride, hcause]
    exact ⟨_, rfl⟩

/-- A way that comes to a file ends there, or fails if names are left. -/
theorem walk_file {mode : Nat} {bytes : Bytes} (hlooks : tree.LooksUp dir name)
    (hentry : tree.child? dir name = some id) (hnode : tree.node? id = some ⟨mode, .regular bytes⟩)
    (follow : Bool) (links : Nat) (rest : List Bytes) :
    tree.walk follow links dir (name :: rest) =
      if rest.isEmpty then .ok ⟨dir, name, some id⟩ else .error .notDirectory := by
  obtain ⟨⟨found, henter⟩, hshort, hhere, habove⟩ := hlooks
  have hstride : tree.stride follow links dir name rest = .pass links dir name rest id := by
    simp [stride, henter, hshort, hhere, habove, hentry, hnode]
  rw [walk_stride, hstride]
  cases rest with
  | nil => rfl
  | cons second rest =>
    have hnot : tree.enter id = .error .notDirectory := by simp [enter, hnode]
    show tree.walk follow links id (second :: rest) = .error .notDirectory
    rw [walk_stride, stride, hnot]

end FileTree

end ScriptExec.Host
