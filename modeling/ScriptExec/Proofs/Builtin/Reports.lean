-- SUMMARY: What a call of a builtin tells scripts: one error, at the end, if it gives nothing.
import ScriptExec.Proofs.Builtin.Handles
import ScriptExec.Proofs.Executor.Reports
import ScriptExec.Proofs.Writing

/-!
# Reports of calls

A call that gives nothing has told why, in one error that comes last (`call_reports_failures`): what the
call lacks (`Builtin.missing?`), or what could not be done (`Refusal`). The one call that gives nothing and
says nothing asks for the status of a file that has none. A call that gives a value reports errors about
something else at most: that not everything was written, or that a launch could not go back to its
directory.
-/

namespace ScriptExec

open Host

/-- What a call without some of its arguments is told. -/
def Builtin.missing? (builtin : Builtin) (args : CallArgs) : Option String :=
  match builtin with
  | .pread =>
    if (args.textByName? "cmd").isNone || (args.byName? "argv").isNone then
      some "pread() usage: cmd:..., argv:..."
    else none
  | .findInPath => if (args.textByNum? 0).isNone then some "find_in_path() usage: cmd" else none
  | .fread => if (args.textByNum? 0).isNone then some "fread: need one argument (file name)" else none
  | .fwrite =>
    if (args.bytesByName? "data").isNone || (args.textByName? "file").isNone then
      some "fwrite: need two arguments 'data' and 'file'"
    else none
  | .unlink => if (args.textByNum? 0).isNone then some "unlink: need one argument (file name)" else none
  | .getTmpDir => none
  | .fileStat =>
    if (args.textByNum? 0).isNone then some "file_stat: need one argument (file name)" else none
  | .fileOpen =>
    if (args.textByName? "name").isNone then some "file_open: need file name argument"
    else if (args.textByName? "mode").isNone then some "file_open: need file mode argument"
    else none
  | .fileClose =>
    if Builtin.fileClose.handle args < 0 then some "file_close: need file pointer argument" else none
  | .fileRead =>
    if Builtin.fileRead.handle args < 0 then some "file_read: need file pointer argument" else none
  | .fileWrite =>
    if (args.bytesByName? "data").isNone || Builtin.fileWrite.handle args < 0 then
      some "file_write: need two arguments 'fp' and 'data'"
    else none
  | .fileSeek =>
    if Builtin.fileSeek.handle args < 0 then some "file_seek: need one arguments 'fp'" else none

namespace Builtins

variable (runtime : Runtime) (args : CallArgs) (b : Builtins) (w : World)

/-- Why a call that has all its arguments cannot be carried out, and what it is told. -/
inductive Refusal : Builtin → String → Prop
  | notArray {argv} (hargv : args.byName? "argv" = some argv) (h : argv.asArray? = none) :
      Refusal .pread s!"pread: argv element must be an array ({argv.typeName})"
  | launch {req e} (hreq : preadRequest args = .ok req)
      (h : (b.executor.launchBlocking runtime req w).1 = .error e) : Refusal .pread s!"pread: {e.message}"
  | read {name cause} (hname : args.textByNum? 0 = some name)
      (h : w.sys.readFile (utf8 name) = .error cause) : Refusal .fread s!"fread: {name}: {cause.message}"
  | replace {data name e} (hdata : args.bytesByName? "data" = some data)
      (hname : args.textByName? "file" = some name) (h : (w.sys.replace (utf8 name) data).1 = .error e) :
      Refusal .fwrite s!"fwrite: {name}: {replaceMessage e}"
  | remove {name cause} (hname : args.textByNum? 0 = some name)
      (h : w.sys.removeFile (utf8 name) = .error cause) :
      Refusal .unlink s!"unlink({name}): {cause.message}"
  | tmpDir (h : w.sys.isUsable (utf8 (tmpDir w.sys)) = false) :
      Refusal .getTmpDir s!"get_tmp_dir(): {tmpDir w.sys} not available - check your installation"
  | openFile {name mode cause} (hname : args.textByName? "name" = some name)
      (hmode : args.textByName? "mode" = some mode)
      (h : w.sys.openFile (utf8 name) (openOptions mode) newFileMode = .error cause) :
      Refusal .fileOpen s!"file_open: {name}: possible symlink attack!?! {cause.message}"
  | statOpen {name mode d sys cause} (hname : args.textByName? "name" = some name)
      (hmode : args.textByName? "mode" = some mode)
      (hopen : w.sys.openFile (utf8 name) (openOptions mode) newFileMode = .ok (d, sys))
      (h : sys.statOpen.1 = some cause) :
      Refusal .fileOpen s!"file_open: {name}: possible symlink attack!?! {cause.message}"
  | unknownHandle {builtin} (htakes : builtin.takesHandle = true)
      (h : b.table.find? (builtin.handle args) = none) :
      Refusal builtin s!"{builtin.name}: unknown file pointer {(builtin.handle args).toInt}"
  | badOffset {offset} (hoffset : args.intByName "offset" 0 = offset) (h : offset.toInt < 0) :
      Refusal .fileSeek s!"fseek: invalid offset {offset.toInt}"
  | seek {d cause} (hfound : b.table.find? (Builtin.fileSeek.handle args) = some d)
      (h : w.sys.seek d (args.intByName "offset" 0).toInt.toNat = .error cause) :
      Refusal .fileSeek s!"fseek: {cause.message}"

/-- The text describes why the call of a builtin fails. -/
def Describes (builtin : Builtin) (text : String) : Prop :=
  match builtin.missing? args with
  | some missing => text = missing
  | none => Refusal runtime args b w builtin text

/-- What a call of a builtin gives, and what it has told when it is over. -/
inductive Reporting : Builtin → Option Value → List Telling → Prop
  | gives {builtin v} (hpread : builtin ≠ .pread) (hwrite : builtin ≠ .fileWrite) :
      Reporting builtin (some v) []
  | fails {builtin text} (hpread : builtin ≠ .pread) (h : Describes runtime args b w builtin text) :
      Reporting builtin none [(.error, b.executor.sink.shown text)]
  | notThere {name} (hname : args.textByNum? 0 = some name) (h : w.sys.sizeOf? (utf8 name) = none) :
      Reporting .fileStat none []
  | wrote {data} (hdata : args.bytesByName? "data" = some data) :
      Reporting .fileWrite (some (.int (Int64.ofNat data.length))) []
  | stopped {data n cause} (hdata : args.bytesByName? "data" = some data) (hless : n < data.length) :
      Reporting .fileWrite (some (.int (Int64.ofNat n)))
        [(.error, b.executor.sink.shown s!"file_write: write() failed - {IoError.message cause}")]
  | noRequest {text text'} (hreq : preadRequest args = .error text')
      (h : Describes runtime args b w .pread text) :
      Reporting .pread none [(.error, b.executor.sink.shown text)]
  | ran {req v news} (hreq : preadRequest args = .ok req)
      (hnews : errorsIn news = (b.executor.failedReturn? w req runtime).toList.map fun failed =>
        b.executor.sink.shown (Launch.restoreError failed.1 failed.2)) :
      Reporting .pread (some v) news
  | notRun {req text news} (hreq : preadRequest args = .ok req)
      (hnews : errorsIn news = (b.executor.failedReturn? w req runtime).toList.map fun failed =>
        b.executor.sink.shown (Launch.restoreError failed.1 failed.2))
      (h : Describes runtime args b w .pread text) :
      Reporting .pread none (news ++ [(.error, b.executor.sink.shown text)])

/-- A call has told what fits its value. -/
def Reports (builtin : Builtin) (called : Called) : Prop :=
  ∃ news, called.world.told b.executor.sink = w.told b.executor.sink ++ news ∧
    Reporting runtime args b w builtin called.value news

variable {runtime : Runtime} {args : CallArgs} {b : Builtins} {w : World} {builtin : Builtin}

theorem Describes.missing {text : String} (h : builtin.missing? args = some text) :
    Describes runtime args b w builtin text := by
  unfold Describes
  rw [h]

theorem Describes.refusal {text : String} (hgiven : builtin.missing? args = none)
    (h : Refusal runtime args b w builtin text) : Describes runtime args b w builtin text := by
  unfold Describes
  rw [hgiven]
  exact h

theorem fail_told (text : String) (w : World) :
    (b.fail text w).world.told b.executor.sink =
      w.told b.executor.sink ++ [(.error, b.executor.sink.shown text)] :=
  World.told_error w _ _ text

/-- A call that does nothing but fail. -/
theorem Reports.fail {text : String} {w' : World} (hpread : builtin ≠ .pread)
    (hw : w'.told b.executor.sink = w.told b.executor.sink)
    (h : Describes runtime args b w builtin text) : Reports runtime args b w builtin (b.fail text w') :=
  ⟨_, (fail_told text w').trans (congrArg (· ++ _) hw), .fails hpread h⟩

/-- A call that gives a value without a word. -/
theorem Reports.give {v : Value} {b' : Builtins} {w' : World}
    (hw : w'.told b.executor.sink = w.told b.executor.sink) (hpread : builtin ≠ .pread)
    (hwrite : builtin ≠ .fileWrite) : Reports runtime args b w builtin (b'.give v w') :=
  ⟨[], hw.trans (List.append_nil _).symm, .gives hpread hwrite⟩

/-! ## One lemma for each builtin -/

theorem describes_of_no_request {text : String} (h : preadRequest args = .error text) :
    Describes runtime args b w .pread text := by
  unfold preadRequest at h
  split at h
  · rename_i cmd argv hcmd hargv
    split at h
    · cases h
    · rename_i harray
      cases h
      exact .refusal (by simp [Builtin.missing?, hcmd, hargv]) (.notArray hargv harray)
  · rename_i hmissing
    cases h
    apply Describes.missing
    unfold Builtin.missing?
    cases hcmd : args.textByName? "cmd" with
    | none => rfl
    | some cmd =>
      cases hargv : args.byName? "argv" with
      | none => rfl
      | some argv => exact absurd hargv (hmissing cmd argv hcmd)

theorem missing?_of_request {req : Request} (h : preadRequest args = .ok req) :
    Builtin.pread.missing? args = none := by
  unfold preadRequest at h
  split at h
  · rename_i hcmd hargv
    simp [Builtin.missing?, hcmd, hargv]
  · cases h

theorem pread_reports : Reports runtime args b w .pread (b.pread runtime args w) := by
  unfold pread
  cases hreq : preadRequest args with
  | error text =>
    exact ⟨_, fail_told text w, .noRequest hreq (describes_of_no_request hreq)⟩
  | ok req =>
    dsimp only
    obtain ⟨news, htold, hnews⟩ := b.executor.launchBlocking_told w req runtime
    cases hlaunch : b.executor.launchBlocking runtime req w with
    | mk outcome w' =>
      rw [hlaunch] at htold
      cases outcome with
      | ok bytes => exact ⟨news, htold, .ran hreq hnews⟩
      | error e =>
        have hdescribes : Describes runtime args b w .pread s!"pread: {e.message}" :=
          .refusal (missing?_of_request hreq) (.launch hreq (by rw [hlaunch]))
        refine ⟨_, ?_, .notRun hreq hnews hdescribes⟩
        rw [← List.append_assoc, ← htold]
        exact (fail_told _ _).trans
          (congrArg (· ++ _) (World.told_record_of_ne _ _ (Log.Record.of_target_ne _ _ _ _)))

theorem findInPath_reports : Reports runtime args b w .findInPath (b.findInPath args w) := by
  unfold findInPath
  cases hname : args.textByNum? 0 with
  | none => exact .fail (by decide) rfl (.missing (by simp [Builtin.missing?, hname]))
  | some cmd => exact .give (b.executor.find_told w cmd) (by decide) (by decide)

theorem fread_reports : Reports runtime args b w .fread (b.fread args w) := by
  unfold fread
  cases hname : args.textByNum? 0 with
  | none => exact .fail (by decide) rfl (.missing (by simp [Builtin.missing?, hname]))
  | some name =>
    dsimp only
    cases hread : w.sys.readFile (utf8 name) with
    | ok content => exact .give rfl (by decide) (by decide)
    | error cause =>
      exact .fail (by decide) rfl (.refusal (by simp [Builtin.missing?, hname]) (.read hname hread))

theorem fwrite_reports : Reports runtime args b w .fwrite (b.fwrite args w) := by
  unfold fwrite
  cases hdata : args.bytesByName? "data" with
  | none => exact .fail (by decide) rfl (.missing (by simp [Builtin.missing?, hdata]))
  | some data =>
    cases hname : args.textByName? "file" with
    | none => exact .fail (by decide) rfl (.missing (by simp [Builtin.missing?, hname]))
    | some name =>
      dsimp only
      cases hreplace : w.sys.replace (utf8 name) data with
      | mk result sys =>
        cases result with
        | ok _ => exact .give rfl (by decide) (by decide)
        | error e =>
          have hgiven : Builtin.fwrite.missing? args = none := by simp [Builtin.missing?, hdata, hname]
          have hfails : Reports runtime args b w .fwrite
              (b.fail s!"fwrite: {name}: {replaceMessage e}" { w with sys }) :=
            .fail (by decide) rfl (.refusal hgiven (.replace hdata hname (by rw [hreplace])))
          exact hfails

theorem unlink_reports : Reports runtime args b w .unlink (b.unlink args w) := by
  unfold unlink
  cases hname : args.textByNum? 0 with
  | none => exact .fail (by decide) rfl (.missing (by simp [Builtin.missing?, hname]))
  | some name =>
    dsimp only
    cases hremove : w.sys.removeFile (utf8 name) with
    | ok sys => exact .give rfl (by decide) (by decide)
    | error cause =>
      exact .fail (by decide) rfl (.refusal (by simp [Builtin.missing?, hname]) (.remove hname hremove))

theorem getTmpDir_reports : Reports runtime args b w .getTmpDir (b.getTmpDir w) := by
  unfold getTmpDir
  dsimp only
  split
  · exact .give rfl (by decide) (by decide)
  · rename_i hunusable
    exact .fail (by decide) rfl (.refusal rfl (.tmpDir (Bool.eq_false_iff.mpr hunusable)))

theorem fileStat_reports : Reports runtime args b w .fileStat (b.fileStat args w) := by
  unfold fileStat
  cases hname : args.textByNum? 0 with
  | none => exact .fail (by decide) rfl (.missing (by simp [Builtin.missing?, hname]))
  | some name =>
    dsimp only
    cases hsize : w.sys.sizeOf? (utf8 name) with
    | some size => exact .give rfl (by decide) (by decide)
    | none => exact ⟨[], (List.append_nil _).symm, .notThere hname hsize⟩

theorem fileOpen_reports : Reports runtime args b w .fileOpen (b.fileOpen args w) := by
  unfold fileOpen
  cases hname : args.textByName? "name" with
  | none => exact .fail (by decide) rfl (.missing (by simp [Builtin.missing?, hname]))
  | some name =>
    cases hmode : args.textByName? "mode" with
    | none => exact .fail (by decide) rfl (.missing (by simp [Builtin.missing?, hname, hmode]))
    | some mode =>
      have hgiven : Builtin.fileOpen.missing? args = none := by simp [Builtin.missing?, hname, hmode]
      dsimp only
      cases hopen : w.sys.openFile (utf8 name) (openOptions mode) newFileMode with
      | error cause => exact .fail (by decide) rfl (.refusal hgiven (.openFile hname hmode hopen))
      | ok opened =>
        obtain ⟨d, sys⟩ := opened
        dsimp only
        split
        · rename_i hstat
          exact .fail (by decide) rfl (.refusal hgiven (.statOpen hname hmode hopen (congrArg Prod.fst hstat)))
        · exact .give (World.told_record_of_ne _ _ (Log.Record.of_target_ne _ _ _ _)) (by decide) (by decide)

/-- A handle that is not negative and leads to no file. -/
theorem Reports.unknownHandle (htakes : builtin.takesHandle = true) (hgiven : builtin.missing? args = none)
    (h : b.table.find? (builtin.handle args) = none) :
    Reports runtime args b w builtin
      (b.fail s!"{builtin.name}: unknown file pointer {(builtin.handle args).toInt}" w) := by
  refine .fail ?_ rfl (.refusal hgiven (.unknownHandle htakes h))
  rintro rfl
  cases htakes

theorem fileClose_reports : Reports runtime args b w .fileClose (b.fileClose args w) := by
  unfold fileClose
  dsimp only
  split
  · rename_i hneg
    exact .fail (by decide) rfl (.missing (if_pos hneg))
  · rename_i hneg
    split
    · exact .give rfl (by decide) (by decide)
    · rename_i hunknown
      exact .unknownHandle rfl (if_neg hneg) hunknown

theorem fileRead_reports : Reports runtime args b w .fileRead (b.fileRead args w) := by
  unfold fileRead
  dsimp only
  split
  · rename_i hneg
    exact .fail (by decide) rfl (.missing (if_pos hneg))
  · rename_i hneg
    split
    · split
      · exact .give rfl (by decide) (by decide)
      · refine .give ?_ (by decide) (by decide)
        split
        · rfl
        · exact World.told_record_of_ne _ _ (Log.Record.of_target_ne _ _ _ _)
    · rename_i hunknown
      exact .unknownHandle rfl (if_neg hneg) hunknown

theorem fileSeek_reports : Reports runtime args b w .fileSeek (b.fileSeek args w) := by
  unfold fileSeek
  dsimp only
  split
  · rename_i hneg
    exact .fail (by decide) rfl (.missing (if_pos hneg))
  · rename_i hneg
    have hgiven : Builtin.fileSeek.missing? args = none := if_neg hneg
    split
    · rename_i hoffset
      rw [Int64.lt_iff_toInt_lt] at hoffset
      exact .fail (by decide) rfl (.refusal hgiven (.badOffset rfl hoffset))
    · split
      · rename_i hunknown
        exact .unknownHandle rfl hgiven hunknown
      · rename_i hfound
        split
        · exact .give rfl (by decide) (by decide)
        · rename_i hseek
          exact .fail (by decide) rfl (.refusal hgiven (.seek hfound hseek))

theorem fileWrite_reports : Reports runtime args b w .fileWrite (b.fileWrite args w) := by
  unfold fileWrite
  dsimp only
  cases hdata : args.bytesByName? "data" with
  | none => exact .fail (by decide) rfl (.missing (by simp [Builtin.missing?, hdata]))
  | some data =>
    cases hneg : decide (args.intByName "fp" (-1) < 0) with
    | true =>
      have hneg' : Builtin.fileWrite.handle args < 0 := of_decide_eq_true hneg
      have hmissing : Builtin.fileWrite.missing? args =
          some "file_write: need two arguments 'fp' and 'data'" := by
        simp [Builtin.missing?, hneg']
      exact .fail (by decide) rfl (.missing hmissing)
    | false =>
      have hneg' : ¬Builtin.fileWrite.handle args < 0 := of_decide_eq_false hneg
      have hgiven : Builtin.fileWrite.missing? args = none := by
        unfold Builtin.missing?
        simp only [hdata, hneg', Option.isNone_some, decide_false, Bool.or_self, Bool.false_eq_true, if_false]
      dsimp only
      cases hfound : b.table.find? (args.intByName "fp" (-1)) with
      | none => exact .unknownHandle rfl hgiven hfound
      | some d =>
        dsimp only
        rcases System.writeAll_count w.sys d data with ⟨hdone, hall⟩ | ⟨⟨cause, hstopped⟩, hless⟩
        · rw [hdone, hall]
          exact ⟨[], (List.append_nil _).symm, .wrote hdata⟩
        · rw [hstopped]
          exact ⟨_, World.told_error _ _ _ _, .stopped hdata hless⟩

theorem perform_reports : Reports runtime args b w builtin (perform builtin runtime args b w) := by
  cases builtin with
  | pread => exact pread_reports
  | findInPath => exact findInPath_reports
  | fread => exact fread_reports
  | fwrite => exact fwrite_reports
  | unlink => exact unlink_reports
  | getTmpDir => exact getTmpDir_reports
  | fileStat => exact fileStat_reports
  | fileOpen => exact fileOpen_reports
  | fileClose => exact fileClose_reports
  | fileRead => exact fileRead_reports
  | fileWrite => exact fileWrite_reports
  | fileSeek => exact fileSeek_reports

/-! ## Calls by name -/

/-- The text describes why the call of a name fails. -/
def DescribesCall (runtime : Runtime) (args : CallArgs) (b : Builtins) (w : World) (name text : String) :
    Prop :=
  match Builtin.ofName? name with
  | some builtin => Describes runtime args b w builtin text
  | none => text = s!"{name}: unknown builtin"

/-- The call asks for the status of a file that has none. -/
def AsksInVain (name : String) (args : CallArgs) (w : World) : Prop :=
  name = "file_stat" ∧ ∃ file, args.textByNum? 0 = some file ∧ w.sys.sizeOf? (utf8 file) = none

/-- The error of a call that launches a program and cannot go back to its directory. -/
def returnErrors (runtime : Runtime) (args : CallArgs) (b : Builtins) (w : World) (name : String) :
    List String :=
  match Builtin.ofName? name, preadRequest args with
  | some .pread, .ok req => (b.executor.failedReturn? w req runtime).toList.map fun failed =>
      b.executor.sink.shown (Launch.restoreError failed.1 failed.2)
  | _, _ => []

theorem describesCall_of_name {name text : String} (h : Builtin.ofName? name = some builtin) :
    DescribesCall runtime args b w name text ↔ Describes runtime args b w builtin text := by
  unfold DescribesCall
  rw [h]

theorem returnErrors_of_request {name : String} {req : Request} (h : Builtin.ofName? name = some .pread)
    (hreq : preadRequest args = .ok req) :
    returnErrors runtime args b w name = (b.executor.failedReturn? w req runtime).toList.map fun failed =>
      b.executor.sink.shown (Launch.restoreError failed.1 failed.2) := by
  unfold returnErrors
  rw [h, hreq]

theorem returnErrors_of_error {name text : String} (h : preadRequest args = .error text) :
    returnErrors runtime args b w name = [] := by
  unfold returnErrors
  rw [h]
  split
  · rename_i heq
    cases heq
  · rfl

theorem returnErrors_of_ne {name : String} (h : name ≠ "pread") : returnErrors runtime args b w name = [] := by
  unfold returnErrors
  split
  · rename_i hname _
    exact absurd (eq_name_of_ofName? hname) h
  · rfl

variable {text : String} {news : List Telling} {v : Value}

theorem not_asksInVain (h : Describes runtime args b w builtin text) :
    ¬AsksInVain builtin.name args w := by
  rintro ⟨hname, file, hfile, -⟩
  have hstat : builtin = .fileStat := name_injective hname
  subst hstat
  have hgiven : Builtin.fileStat.missing? args = none := by simp [Builtin.missing?, hfile]
  unfold Describes at h
  rw [hgiven] at h
  cases h with
  | unknownHandle htakes => cases htakes

/-- A call that gives nothing ends with an error that says why, or asks in vain. -/
theorem Reporting.nothing (h : Reporting runtime args b w builtin none news) :
    AsksInVain builtin.name args w ∧ news = [] ∨
      ¬AsksInVain builtin.name args w ∧ ∃ before text,
        news = before ++ [(.error, b.executor.sink.shown text)] ∧
        Describes runtime args b w builtin text ∧
        errorsIn before = returnErrors runtime args b w builtin.name ∧
        (builtin.name ≠ "pread" → before = []) := by
  cases h with
  | notThere hname hsize => exact .inl ⟨⟨rfl, _, hname, hsize⟩, rfl⟩
  | fails hpread hdescribes =>
    refine .inr ⟨not_asksInVain hdescribes, [], _, rfl, hdescribes, ?_, fun _ => rfl⟩
    exact (returnErrors_of_ne fun hname => hpread (name_injective (hname : _ = Builtin.pread.name))).symm
  | noRequest hreq hdescribes =>
    exact .inr ⟨not_asksInVain hdescribes, [], _, rfl, hdescribes, (returnErrors_of_error hreq).symm,
      fun _ => rfl⟩
  | @notRun _ _ before hreq hnews hdescribes =>
    refine .inr ⟨not_asksInVain hdescribes, before, _, rfl, hdescribes, ?_, fun hne => absurd rfl hne⟩
    rw [hnews, returnErrors_of_request (ofName?_name .pread) hreq]

/-- The errors of a call that gives a value are about something else. -/
theorem Reporting.something (h : Reporting runtime args b w builtin (some v) news) :
    (builtin.name ≠ "pread" → builtin.name ≠ "file_write" → news = []) ∧
      (builtin.name = "pread" → errorsIn news = returnErrors runtime args b w builtin.name) ∧
      (builtin.name = "file_write" → ∃ data n, args.bytesByName? "data" = some data ∧
        v = .int (Int64.ofNat n) ∧ (n = data.length ∧ news = [] ∨
          n < data.length ∧ ∃ cause : IoError,
            news = [(.error, b.executor.sink.shown s!"file_write: write() failed - {cause.message}")])) := by
  cases h with
  | gives hpread hwrite =>
    refine ⟨fun _ _ => rfl, fun hname => ?_, fun hname => ?_⟩
    · exact absurd (name_injective (hname : _ = Builtin.pread.name)) hpread
    · exact absurd (name_injective (hname : _ = Builtin.fileWrite.name)) hwrite
  | wrote hdata => exact ⟨fun _ _ => rfl, nofun, fun _ => ⟨_, _, hdata, rfl, .inl ⟨rfl, rfl⟩⟩⟩
  | @stopped data n cause hdata hless =>
    exact ⟨fun _ hwrite => absurd rfl hwrite, nofun,
      fun _ => ⟨data, n, hdata, rfl, .inr ⟨hless, cause, rfl⟩⟩⟩
  | ran hreq hnews =>
    refine ⟨fun hpread => absurd rfl hpread, fun _ => ?_, nofun⟩
    rw [hnews, returnErrors_of_request (ofName?_name .pread) hreq]

theorem Reporting.warns {value : Option Value} (h : Reporting runtime args b w builtin value news)
    (htext : (.warning, text) ∈ news) : builtin.name = "pread" := by
  cases h with
  | gives | notThere | wrote => cases htext
  | fails | stopped => exact nomatch List.mem_singleton.mp htext
  | noRequest | ran | notRun => rfl

/-- A call gives nothing just when it ends with an error that says why, but for a status that is asked for
in vain. The only errors besides are that not everything was written, and that a launch could not go back
to its directory; and only launches warn. -/
theorem call_reports_failures (name : String) (runtime : Runtime) (args : CallArgs) (b : Builtins)
    (w : World) :
    let sink := b.executor.sink
    let called := b.call name runtime args w
    let w₁ := w.record callRecord
    ∃ news, called.world.told sink = w.told sink ++ news ∧
      (called.value = none →
        AsksInVain name args w ∧ news = [] ∨
        ¬AsksInVain name args w ∧ ∃ before text, news = before ++ [(.error, sink.shown text)] ∧
          DescribesCall runtime args b w₁ name text ∧
          errorsIn before = returnErrors runtime args b w₁ name ∧ (name ≠ "pread" → before = [])) ∧
      (∀ v, called.value = some v →
        (name ≠ "pread" → name ≠ "file_write" → news = []) ∧
        (name = "pread" → errorsIn news = returnErrors runtime args b w₁ name) ∧
        (name = "file_write" → ∃ data n, args.bytesByName? "data" = some data ∧
          v = .int (Int64.ofNat n) ∧ (n = data.length ∧ news = [] ∨
            n < data.length ∧ ∃ cause : IoError,
              news = [(.error, sink.shown s!"file_write: write() failed - {cause.message}")]))) ∧
      ∀ text, (.warning, text) ∈ news → name = "pread" := by
  intro sink called w₁
  cases hname : Builtin.ofName? name with
  | none =>
    have hnot : ∀ builtin : Builtin, name ≠ builtin.name := by
      rintro builtin rfl
      exact nomatch (ofName?_name builtin).symm.trans hname
    have hcalled : called = b.fail s!"{name}: unknown builtin" w := call_of_unknown hname
    have hdescribes : DescribesCall runtime args b w₁ name s!"{name}: unknown builtin" := by
      unfold DescribesCall
      rw [hname]
    rw [hcalled]
    refine ⟨_, fail_told _ w, fun _ => .inr ⟨fun h => hnot .fileStat h.1, [], _, rfl, hdescribes, ?_,
      fun _ => rfl⟩, nofun, ?_⟩
    · exact (returnErrors_of_ne (hnot .pread)).symm
    · intro text htext
      exact nomatch List.mem_singleton.mp htext
  | some builtin =>
    have hcalled : called = perform builtin runtime args b w₁ := call_of_name hname
    have hsame : w₁.told sink = w.told sink := World.told_record_of_ne _ _ (Log.Record.of_target_ne _ _ _ _)
    obtain ⟨news, htold, hreporting⟩ := @perform_reports runtime args b w₁ builtin
    rw [hcalled]
    refine ⟨news, htold.trans (congrArg (· ++ news) hsame), ?_⟩
    obtain rfl := eq_name_of_ofName? hname
    refine ⟨fun hnone => ?_, fun v hv => ?_, fun text => hreporting.warns⟩
    · rw [hnone] at hreporting
      simp only [describesCall_of_name hname]
      exact hreporting.nothing
    · rw [hv] at hreporting
      exact hreporting.something

end Builtins

end ScriptExec
