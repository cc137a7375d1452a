-- SUMMARY: What a call of a builtin does to the handles of its context and to the files under them.
import ScriptExec.Builtin.Call
import ScriptExec.Proofs.Executor.OpenFiles
import ScriptExec.Proofs.Host.Replacement

/-!
# Handles in calls

A call opens a file, closes one, moves the position of one, or has nothing to do with open files
(`Handling`). Builtins that get a handle serve the file under it if the context has opened it
(`Serves`), and fail otherwise without touching anything (`perform_unknown`).
-/

namespace ScriptExec

open Host

namespace HandleTable

variable {table : HandleTable} {i : Int64} {d e : Nat}

theorem find?_eq_some : table.find? i = some d ↔ i.toInt = d ∧ d ∈ table.handles := by
  unfold find?
  cases i.toInt with
  | ofNat n =>
    simp only [Int.ofNat_eq_natCast, List.contains_eq_mem, decide_eq_true_eq, Option.ite_none_right_eq_some,
      Option.some.injEq, Int.natCast_inj]
    constructor
    · rintro ⟨hn, rfl⟩
      exact ⟨rfl, hn⟩
    · rintro ⟨rfl, hn⟩
      exact ⟨hn, rfl⟩
  | negSucc n => simp

theorem find?_eq_none (h : ∀ d ∈ table.handles, i.toInt ≠ d) : table.find? i = none := by
  rw [Option.eq_none_iff_forall_not_mem]
  intro d hd
  obtain ⟨hi, hmem⟩ := find?_eq_some.mp hd
  exact h d hmem hi

@[simp]
theorem mem_insert : e ∈ (table.insert d).handles ↔ e = d ∨ e ∈ table.handles :=
  mem_insertInto d e table.handles

@[simp]
theorem mem_erase : e ∈ (table.erase d).handles ↔ e ∈ table.handles ∧ e ≠ d := by
  simp [erase]

/-- A handle that leads to a file is not negative. -/
theorem not_neg_of_find? (h : table.find? i = some d) : ¬i < 0 := by
  obtain ⟨hi, -⟩ := find?_eq_some.mp h
  rw [Int64.lt_iff_toInt_lt, hi]
  simp

end HandleTable

namespace Builtin

/-- The builtins that get a handle. -/
def takesHandle : Builtin → Bool
  | .fileClose | .fileRead | .fileWrite | .fileSeek => true
  | _ => false

/-- The integer that a call gives for a handle. -/
def handle (builtin : Builtin) (args : CallArgs) : Int64 :=
  match builtin with
  | .fileClose => args.intByNum 0 (-1)
  | _ => args.intByName "fp" (-1)

end Builtin

namespace Builtins

variable {builtin : Builtin} {runtime : Runtime} {args : CallArgs} {b : Builtins} {w : World} {d : Nat}

/-! ## Handles that a context does not have -/

/-- A builtin that gets a handle without a file fails, and does no more than say so. -/
theorem perform_unknown (hbuiltin : builtin.takesHandle = true)
    (hunknown : b.table.find? (builtin.handle args) = none) :
    ∃ text, perform builtin runtime args b w = b.fail text w := by
  cases builtin with
  | fileClose =>
    simp only [Builtin.handle] at hunknown
    simp only [perform, fileClose, hunknown]
    split <;> exact ⟨_, rfl⟩
  | fileRead =>
    simp only [Builtin.handle] at hunknown
    simp only [perform, fileRead, hunknown]
    split <;> exact ⟨_, rfl⟩
  | fileWrite =>
    simp only [Builtin.handle] at hunknown
    simp only [perform, fileWrite, hunknown]
    split <;> exact ⟨_, rfl⟩
  | fileSeek =>
    simp only [Builtin.handle] at hunknown
    simp only [perform, fileSeek, hunknown]
    split
    · exact ⟨_, rfl⟩
    · split <;> exact ⟨_, rfl⟩
  | _ => cases hbuiltin

/-! ## Handles that a context has -/

/-- What a builtin does with the file under its handle. -/
inductive Serves (args : CallArgs) (sys : System) (d : Nat) : Builtin → Option Value → System → Prop
  | close : Serves args sys d .fileClose (some (.int 0)) (sys.close d)
  | read {bytes sys'} (h : sys.read d (lengthOf (args.intByName "length" 0)) = .ok (bytes, sys')) :
      Serves args sys d .fileRead (some (.data bytes)) sys'
  /-- The file cannot be read, so there is nothing to give. -/
  | unreadable {cause} (h : sys.read d (lengthOf (args.intByName "length" 0)) = .error cause) :
      Serves args sys d .fileRead (some (.data [])) sys
  | write {data} (h : args.bytesByName? "data" = some data) :
      Serves args sys d .fileWrite (some (.int (Int64.ofNat (sys.writeAll d data).1.count)))
        (sys.writeAll d data).2
  | noData (h : args.bytesByName? "data" = none) : Serves args sys d .fileWrite none sys
  | seek {sys'} (hoffset : 0 ≤ (args.intByName "offset" 0).toInt)
      (h : sys.seek d (args.intByName "offset" 0).toInt.toNat = .ok sys') :
      Serves args sys d .fileSeek (some (.int 0)) sys'
  | unsought {cause} (hoffset : 0 ≤ (args.intByName "offset" 0).toInt)
      (h : sys.seek d (args.intByName "offset" 0).toInt.toNat = .error cause) :
      Serves args sys d .fileSeek none sys
  | badOffset (hoffset : (args.intByName "offset" 0).toInt < 0) : Serves args sys d .fileSeek none sys

@[simp]
theorem fail_sys (text : String) : (b.fail text w).world.sys = w.sys :=
  World.tell_sys w _ _ _ text

theorem perform_serves (hbuiltin : builtin.takesHandle = true)
    (hfound : b.table.find? (builtin.handle args) = some d) :
    Serves args w.sys d builtin (perform builtin runtime args b w).value
      (perform builtin runtime args b w).world.sys := by
  have hhandle := HandleTable.not_neg_of_find? hfound
  cases builtin with
  | fileClose =>
    simp only [Builtin.handle] at hfound hhandle
    simp only [perform, fileClose, if_neg hhandle, hfound]
    exact .close
  | fileRead =>
    simp only [Builtin.handle] at hfound hhandle
    simp only [perform, fileRead, if_neg hhandle, hfound]
    split
    · rename_i hread
      exact .read hread
    · rename_i hread
      simp only [give, apply_ite World.sys, World.record_sys, ite_self]
      exact .unreadable hread
  | fileWrite =>
    simp only [Builtin.handle] at hfound hhandle
    simp only [perform, fileWrite, hhandle, decide_false]
    cases hdata : args.bytesByName? "data" with
    | none =>
      simp only [fail_sys]
      exact .noData hdata
    | some data =>
      simp only [hfound, give]
      split
      · simp only [Executor.error, World.tell_sys]
        exact .write hdata
      · exact .write hdata
  | fileSeek =>
    simp only [Builtin.handle] at hfound hhandle
    simp only [perform, fileSeek, if_neg hhandle, hfound]
    by_cases hoffset : args.intByName "offset" 0 < 0
    · simp only [if_pos hoffset, fail_sys]
      rw [Int64.lt_iff_toInt_lt] at hoffset
      exact .badOffset hoffset
    · simp only [if_neg hoffset]
      rw [Int64.lt_iff_toInt_lt] at hoffset
      split
      · rename_i hseek
        exact .seek (Int.not_lt.mp hoffset) hseek
      · rename_i hseek
        simp only [fail_sys]
        exact .unsought (Int.not_lt.mp hoffset) hseek
  | _ => cases hbuiltin

/-- Only closing does more to a file than to move its position. -/
theorem Serves.moves {sys sys' : System} {value : Option Value} (h : Serves args sys d builtin value sys')
    (hbuiltin : builtin ≠ .fileClose) : System.Moves d sys sys' := by
  cases h with
  | close => exact absurd rfl hbuiltin
  | read hread => exact System.read_moves hread
  | write => exact System.writeAll_moves _
  | seek _ hseek => exact System.seek_moves hseek
  | unreadable | noData | unsought | badOffset => exact .stays rfl

/-! ## All calls -/

/-- What a call does to the handles of its context and to the open files. -/
inductive Handling (builtin : Builtin) (args : CallArgs) (b : Builtins) (w : World) (called : Called) : Prop
  | keeps (hfailed : builtin = .fileOpen ∨ builtin = .fileClose → called.value = none)
      (htable : called.builtins.table = b.table)
      (hfiles : called.world.sys.openFiles = w.sys.openFiles)
  | opens {name mode} {d : Nat} {node tree} (hbuiltin : builtin = .fileOpen)
      (hname : args.textByName? "name" = some name) (hmode : args.textByName? "mode" = some mode)
      (hnode : w.sys.openNode (utf8 name) (openOptions mode) newFileMode = .ok (node, tree))
      (hfirst : System.firstDescriptor ≤ d) (hlimit : d < w.sys.limit) (hfree : w.sys.file? d = none)
      (hvalue : called.value = some (.int (Int64.ofNat d)))
      (htable : called.builtins.table = b.table.insert d)
      (hfiles : called.world.sys.openFiles = (w.sys.setFile d ((openOptions mode).file node)).openFiles)
  | closes {d : Nat} (hbuiltin : builtin = .fileClose) (hfound : b.table.find? (builtin.handle args) = some d)
      (hvalue : called.value = some (.int 0)) (htable : called.builtins.table = b.table.erase d)
      (hsys : called.world.sys = w.sys.close d)
  | moves {d : Nat} (hopen : builtin ≠ .fileOpen) (hclose : builtin ≠ .fileClose)
      (hfound : b.table.find? (builtin.handle args) = some d) (htable : called.builtins.table = b.table)
      (hmoves : System.Moves d w.sys called.world.sys)

/-- A call that fails keeps everything. -/
theorem Handling.fail (text : String) : Handling builtin args b w (b.fail text w) :=
  .keeps (fun _ => rfl) rfl (congrArg System.openFiles (fail_sys text))

theorem fileOpen_handling (hsys : w.sys.WellNumbered) :
    Handling .fileOpen args b w (b.fileOpen args w) := by
  unfold fileOpen
  cases hname : args.textByName? "name" with
  | none => exact .fail _
  | some name =>
    cases hmode : args.textByName? "mode" with
    | none => exact .fail _
    | some mode =>
      dsimp only
      cases hopen : w.sys.openFile (utf8 name) (openOptions mode) newFileMode with
      | error cause => exact .fail _
      | ok opened =>
        obtain ⟨d, sys⟩ := opened
        obtain ⟨hfirst, hlimit, hfree, node, tree, hnode, rfl⟩ := System.openFile_ok hsys hopen
        dsimp only
        split
        · rename_i sys' hstat
          refine .keeps (fun _ => rfl) rfl ?_
          -- the descriptor was free, so closing it again leaves what was there before
          obtain rfl := (congrArg Prod.snd hstat).symm
          simp only [fail_sys]
          exact Prod.ext (System.filter_insertDescriptor hfree) rfl
        · rename_i sys' hstat
          obtain rfl := (congrArg Prod.snd hstat).symm
          exact .opens rfl hname hmode hnode hfirst hlimit hfree rfl rfl rfl

/-- The builtins that neither open nor close anything leave the context as it is. -/
theorem perform_builtins (hopen : builtin ≠ .fileOpen) (hclose : builtin ≠ .fileClose) :
    (perform builtin runtime args b w).builtins = b := by
  cases builtin with
  | fileOpen => exact absurd rfl hopen
  | fileClose => exact absurd rfl hclose
  | pread => simp only [perform, pread]; split <;> [rfl; (split <;> rfl)]
  | findInPath => simp only [perform, findInPath]; split <;> rfl
  | fread => simp only [perform, fread]; split <;> [rfl; (split <;> rfl)]
  | fwrite => simp only [perform, fwrite]; split <;> [(split <;> rfl); rfl]
  | unlink => simp only [perform, unlink]; split <;> [rfl; (split <;> rfl)]
  | getTmpDir => simp only [perform, getTmpDir]; split <;> rfl
  | fileStat => simp only [perform, fileStat]; split <;> [rfl; (split <;> rfl)]
  | fileRead => simp only [perform, fileRead]; split <;> [rfl; (split <;> [(split <;> rfl); rfl])]
  | fileWrite => simp only [perform, fileWrite]; split <;> [(split <;> rfl); rfl]
  | fileSeek =>
    simp only [perform, fileSeek]
    split <;> [rfl; (split <;> [rfl; (split <;> [rfl; (split <;> rfl)])])]

/-- The builtins for programs and for whole files leave the open files alone. -/
theorem perform_openFiles (hbuiltin : builtin.takesHandle = false) (hopen : builtin ≠ .fileOpen) :
    (perform builtin runtime args b w).world.sys.openFiles = w.sys.openFiles := by
  cases builtin with
  | fileOpen => exact absurd rfl hopen
  | fileClose | fileRead | fileWrite | fileSeek => cases hbuiltin
  | pread =>
    simp only [perform, pread]
    split
    · simp only [fail_sys]
    · rename_i req _
      have hlaunch := b.executor.launchBlocking_openFiles w runtime req
      split <;> rename_i heq <;> rw [heq] at hlaunch
      · exact hlaunch
      · simp only [fail_sys, World.record_sys]
        exact hlaunch
  | findInPath =>
    simp only [perform, findInPath]
    split
    · simp only [fail_sys]
    · simp only [give, Executor.find_sys]
  | fread =>
    simp only [perform, fread]
    split
    · simp only [fail_sys]
    · split
      · rfl
      · simp only [fail_sys]
  | fwrite =>
    simp only [perform, fwrite]
    split
    · rename_i data name _ _
      have hreplace := Replacement.replace_openFiles (utf8 name) data w.sys
      split <;> rename_i heq <;> rw [heq] at hreplace
      · exact hreplace
      · simp only [fail_sys]
        exact hreplace
    · simp only [fail_sys]
  | unlink =>
    simp only [perform, unlink]
    split
    · simp only [fail_sys]
    · split
      · rename_i hremove
        exact System.removeFile_openFiles hremove
      · simp only [fail_sys]
  | getTmpDir =>
    simp only [perform, getTmpDir]
    split
    · rfl
    · simp only [fail_sys]
  | fileStat =>
    simp only [perform, fileStat]
    split
    · simp only [fail_sys]
    · split <;> rfl

theorem fileClose_handling : Handling .fileClose args b w (b.fileClose args w) := by
  unfold fileClose
  dsimp only
  split
  · exact .fail _
  · split
    · rename_i d hfound
      exact .closes rfl hfound rfl rfl rfl
    · exact .fail _

theorem perform_handling (hsys : w.sys.WellNumbered) :
    Handling builtin args b w (perform builtin runtime args b w) := by
  by_cases hopen : builtin = .fileOpen
  · subst hopen
    exact fileOpen_handling hsys
  by_cases hclose : builtin = .fileClose
  · subst hclose
    exact fileClose_handling
  have htable : (perform builtin runtime args b w).builtins.table = b.table :=
    congrArg Builtins.table (perform_builtins hopen hclose)
  have hneither : ¬(builtin = .fileOpen ∨ builtin = .fileClose) := not_or.mpr ⟨hopen, hclose⟩
  cases hbuiltin : builtin.takesHandle with
  | false => exact .keeps (fun heither => absurd heither hneither) htable (perform_openFiles hbuiltin hopen)
  | true =>
    cases hfound : b.table.find? (builtin.handle args) with
    | none =>
      obtain ⟨text, htext⟩ := @perform_unknown _ runtime _ _ w hbuiltin hfound
      rw [htext]
      exact .fail text
    | some d =>
      have hserves := @perform_serves _ runtime _ _ w _ hbuiltin hfound
      exact .moves hopen hclose hfound htable (hserves.moves hclose)

/-! ## Calls by name -/

theorem ofName?_name (builtin : Builtin) : Builtin.ofName? builtin.name = some builtin := by
  cases builtin <;> rfl

theorem eq_name_of_ofName? {name : String} (h : Builtin.ofName? name = some builtin) :
    name = builtin.name := by
  have hfound := List.find?_some h
  exact (beq_iff_eq.mp hfound).symm

/-- Builtins have different names. -/
theorem name_injective {other : Builtin} (h : builtin.name = other.name) : builtin = other :=
  Option.some.inj ((ofName?_name builtin).symm.trans (h ▸ ofName?_name other))

/-- The record of a call. -/
def callRecord : Log.Record := .of .trace "builtins" ["builtin"] "calling builtin"

theorem call_of_name {name : String} (h : Builtin.ofName? name = some builtin) :
    b.call name runtime args w = perform builtin runtime args b (w.record callRecord) := by
  simp only [call, h]
  rfl

theorem call_of_unknown {name : String} (h : Builtin.ofName? name = none) :
    b.call name runtime args w = b.fail s!"{name}: unknown builtin" w := by
  simp only [call, h]

end Builtins

end ScriptExec
