-- SUMMARY: Which configurations are accepted, and that launches and the log go by every value of an accepted one.
import Mathlib
import ScriptExec.Program
import ScriptExec.Proofs.Bytes
import ScriptExec.Proofs.Executor.Spawning
import ScriptExec.Proofs.Launch.Arguments
import ScriptExec.Proofs.Launch.Reading
import ScriptExec.Proofs.Log.Level
import ScriptExec.Proofs.SearchPath

/-!
# Accepted configurations

A configuration is accepted if all its items are within their ranges, and otherwise the first one that is not is told
(`validate_eq_ok_iff`, `validate_eq_error_iff`). Its values are looked at again where they are used: the multiplexer
has no chunks without bytes, a launcher may have no search path, and a level that cannot be read counts as none. None of
this changes a value that was accepted (`accepted_values_take_effect`).
-/

namespace ScriptExec

open Launch (Event trace)

namespace Config

/-! ## Items -/

/-- What has a range, in the order in which the ranges are checked. -/
inductive Item
  | chunkSize
  | searchPath
  | level
  deriving DecidableEq

namespace Item

def all : List Item := [.chunkSize, .searchPath, .level]

variable (config : Config)

/-- The item is within its range. -/
def Holds : Item → Prop
  | .chunkSize => 1 ≤ config.exec.chunkSize ∧ config.exec.chunkSize ≤ 1048576
  | .searchPath => ∀ path, config.exec.searchPath = some path → ∃ c ∈ path.toList, Text.isBlank c = false
  | .level => ∀ text, config.log.level = some text → ∃ level : Log.Level, level.WrittenAs text

/-- What is told about an item out of its range. -/
def complaint : Item → String
  | .chunkSize => s!"[exec].chunk_size must be in 1..={maxChunkSize} (got {config.exec.chunkSize})"
  | .searchPath => "[exec].search_path must not be empty when set"
  | .level =>
    let text := config.log.level.getD ""
    s!"[log].level must be one of error, warn, info, debug, trace (got {Text.quoted text})"

/-- The item is out of its range, and none is that comes before it. -/
def FirstViolated (item : Item) : Prop :=
  ∃ before after, all = before ++ item :: after ∧
    (∀ earlier ∈ before, earlier.Holds config) ∧ ¬item.Holds config

/-- Whether the check of an item fails. -/
def fails : Item → Bool
  | .chunkSize => config.exec.chunkSize == 0 || maxChunkSize < config.exec.chunkSize
  | .searchPath => config.exec.searchPath.any fun path => (Text.trim path).isEmpty
  | .level => config.log.level.any fun level => (Log.Level.ofText? level).isNone

theorem mem_all (item : Item) : item ∈ all := by
  cases item <;> decide

variable {config}

theorem not_blank_iff {path : String} :
    ¬Text.Blank path.toList ↔ ∃ c ∈ path.toList, Text.isBlank c = false := by
  simp [Text.Blank]

theorem fails_iff {item : Item} : item.fails config = true ↔ ¬item.Holds config := by
  cases item with
  | chunkSize =>
    have hmax : maxChunkSize = 1048576 := rfl
    simp only [fails, Holds, Bool.or_eq_true, beq_iff_eq, decide_eq_true_eq]
    omega
  | searchPath =>
    simp only [fails, Holds, ← not_blank_iff, ← Text.isEmpty_trim_iff]
    cases config.exec.searchPath <;> simp
  | level =>
    simp only [fails, Holds, ← Log.Level.ofText?_eq_some_iff]
    cases config.log.level <;> simp [Option.eq_none_iff_forall_ne_some]

end Item

/-! ## Acceptance -/

variable {config accepted : Config} {e : ProgramError}

/-- The check fails for the first item that fails. -/
theorem check_eq (config : Config) :
    config.check = match Item.all.find? (·.fails config) with
      | some item => .error (.config (item.complaint config))
      | none => .ok () := by
  obtain ⟨⟨drop, chunk, searchPath⟩, ⟨level⟩⟩ := config
  cases hchunk : chunk == 0 || decide (maxChunkSize < chunk) with
  | true =>
    simp only [check, Item.all, List.find?_cons, Item.fails, hchunk]
    rfl
  | false =>
    simp only [check, Item.all, List.find?_cons, Item.fails, hchunk]
    cases searchPath with
    | none =>
      cases level with
      | none => rfl
      | some text =>
        cases hlevel : (Log.Level.ofText? text).isNone <;> simp only [Option.any_some, hlevel] <;> rfl
    | some path =>
      cases hpath : (Text.trim path).isEmpty with
      | true =>
        simp only [Option.any_some, hpath]
        rfl
      | false =>
        cases level with
        | none =>
          simp only [Option.any_some, hpath]
          rfl
        | some text =>
          cases hlevel : (Log.Level.ofText? text).isNone <;> simp only [Option.any_some, hpath, hlevel] <;> rfl

theorem validate_eq_ok_iff :
    config.validate = .ok accepted ↔ accepted = config ∧ ∀ item : Item, item.Holds config := by
  have hall : (∀ item : Item, item.Holds config) ↔ Item.all.find? (·.fails config) = none := by
    rw [List.find?_eq_none]
    constructor
    · intro hholds item _ hfails
      exact Item.fails_iff.mp hfails (hholds item)
    · intro hnone item
      exact not_not.mp fun hnot => hnone item item.mem_all (Item.fails_iff.mpr hnot)
  unfold validate
  rw [hall, check_eq]
  cases Item.all.find? (·.fails config) with
  | none => exact ⟨fun h => ⟨(Except.ok.inj h).symm, rfl⟩, fun h => h.1 ▸ rfl⟩
  | some item => exact ⟨nofun, nofun⟩

theorem find?_fails_iff {item : Item} :
    Item.all.find? (·.fails config) = some item ↔ item.FirstViolated config := by
  rw [List.find?_eq_some_iff_append]
  constructor
  · rintro ⟨hfails, before, after, hall, hbefore⟩
    refine ⟨before, after, hall, ?_, Item.fails_iff.mp hfails⟩
    intro earlier hearlier
    have hpasses := hbefore earlier hearlier
    by_contra hnot
    rw [Item.fails_iff.mpr hnot] at hpasses
    cases hpasses
  · rintro ⟨before, after, hall, hbefore, hnot⟩
    refine ⟨Item.fails_iff.mpr hnot, before, after, hall, ?_⟩
    intro earlier hearlier
    rw [Bool.not_eq_true', ← Bool.not_eq_true, Item.fails_iff, not_not]
    exact hbefore earlier hearlier

theorem validate_eq_error_iff :
    config.validate = .error e ↔
      ∃ item : Item, item.FirstViolated config ∧ e = .config (item.complaint config) := by
  simp only [← find?_fails_iff]
  unfold validate
  rw [check_eq]
  cases Item.all.find? (·.fails config) with
  | none => exact ⟨nofun, nofun⟩
  | some item =>
    constructor
    · intro h
      exact ⟨item, rfl, (Except.error.inj h).symm⟩
    · rintro ⟨_, hitem, rfl⟩
      rw [← Option.some.inj hitem]
      rfl

/-- A configuration that says nothing is accepted. -/
theorem validate_default : validate {} = .ok {} :=
  validate_eq_ok_iff.mpr ⟨rfl, fun item => by cases item <;> simp [Item.Holds, Multiplexer.defaultChunkSize]⟩

/-- Whatever is loaded has been accepted. -/
theorem validate_of_load {files : Files} {path : Option Path} (h : loadOrDefault files path = .ok config) :
    config.validate = .ok config := by
  have hloaded : ∀ path, loadValid files path = .ok config → config.validate = .ok config := by
    intro path h
    unfold loadValid at h
    cases hload : load files path with
    | error cause =>
      rw [hload] at h
      cases h
    | ok raw =>
      rw [hload] at h
      obtain ⟨rfl, -⟩ := validate_eq_ok_iff.mp h
      exact h
  unfold loadOrDefault at h
  split at h
  · exact hloaded _ h
  · split at h
    · exact hloaded _ h
    · cases h
      exact validate_default

/-! ## Effects -/

/-- The log level that a configuration asks for: the one that is written in it, or `info` if none is. -/
def AsksFor (config : Config) (level : Log.Level) : Prop :=
  match config.log.level with
  | some text => level.WrittenAs text
  | none => level = .info

/-- Launches and the log go by the values of the configuration, as they are given in it. -/
structure InEffect (config : Config) : Prop where
  /-- No value of a launch is put right. -/
  launcher : ∃ hpos : 0 < config.exec.chunkSize, (Executor.ofConfig config.exec).launcher =
    { multiplexer := ⟨config.exec.chunkSize, hpos⟩
      searchPath := config.exec.searchPath
      privilegesDropped := config.exec.dropPrivileges }
  /-- A launch fails without a drain, or has the outcome of one drain in pieces of the chunk size. -/
  chunkSize : ∀ m : Multiplexer, m.chunkSize = config.exec.chunkSize →
    let executor := Executor.ofConfig config.exec
    ∀ req w, let events := trace executor.collaborators executor.launcher req w
      (Event.drains events = [] ∧ ∃ e, (executor.launch req w).1 = .error e) ∨
        ∃ child outputs, Event.drains events = [(config.exec.chunkSize, child, outputs)] ∧
          (executor.launch req w).1 = (m.drain outputs.a outputs.b outputs.schedule).1
  /-- Commands are looked up in the search path, or in that of the process if there is none. -/
  entries : ∀ sys, ((Executor.ofConfig config.exec).lookup sys).entries =
    match config.exec.searchPath with
    | some path => some (utf8 path)
    | none => sys.envValue? "PATH"
  /-- What is started for a bare name is a file in an entry of the search path. -/
  searchPath : ∀ path, config.exec.searchPath = some path →
    let executor := Executor.ofConfig config.exec
    ∀ (req : Request) w plan answer, '/' ∉ req.cmd.toList →
      (plan, answer) ∈ Event.spawns (trace executor.collaborators executor.launcher req w) →
        w.sys.isExecutableFile plan.program = true ∧ ∃ entry ∈ Lookup.split (utf8 path),
          plan.program = Path.join (Lookup.expandHome (w.sys.envValue? "HOME") entry) (utf8 req.cmd)
  /-- A launch for a user asks for nothing if privileges were dropped; otherwise it starts nothing before it was
  allowed to become that user. -/
  dropPrivileges : let executor := Executor.ofConfig config.exec
    ∀ (req : Request) w user, req.user = some user →
      let events := trace executor.collaborators executor.launcher req w
      if config.exec.dropPrivileges then Event.requests events = []
      else Event.spawns events ≠ [] → ∃ rest, events = .becomeUser user (.ok ()) :: rest
  /-- Where nobody else says what to log, what passes is what the level lets through. -/
  level : ∃ level : Log.Level, (∀ other, config.AsksFor other ↔ other = level) ∧
    (∀ environment : Option String, (∀ text, environment = some text → Text.Blank text.toList) →
      Log.Filter.select none environment config.log.level = .ok (.ofLevel level)) ∧
    ∀ record, (Log.Filter.ofLevel level).passes record = true ↔ record.level.verbosity ≤ level.verbosity
  /-- The log of a run that has loaded the configuration is what the level lets through. -/
  program : ∀ (invocation : CommandLine.Invocation) w,
    loadOrDefault (Program.configFiles w.sys) invocation.config = .ok config → invocation.logLevel = none →
    (∀ value text, w.sys.envValue? Log.Filter.environmentVariable = some value → Utf8.decode? value = some text →
      Text.Blank text.toList) →
    ∃ level, config.AsksFor level ∧
      let finished := Program.run invocation.command config.exec w.cleared
      Program.carryOut invocation w = .ok
        { code := finished.code
          output := finished.output
          log := finished.world.records.reverse.filter fun record => record.level.verbosity ≤ level.verbosity }

/-- A chunk size of at least one is taken as it is. -/
theorem multiplexer_of_chunkSize {exec : ExecSection} {m : Multiplexer} (h : m.chunkSize = exec.chunkSize) :
    (Executor.ofConfig exec).launcher.multiplexer = m := by
  obtain ⟨chunk, hpos⟩ := m
  subst h
  have hmax : max exec.chunkSize 1 = exec.chunkSize := Nat.max_eq_left hpos
  simp only [Executor.ofConfig, Multiplexer.ofChunkSize, hmax]

section

variable {executor : Executor} {req : Request} {w : World} {path : String} {program : Path}

/-- With a search path of its own, an executor finds bare names only in its entries. -/
theorem exists_entry_of_find (hsearch : executor.launcher.searchPath = some path)
    (hbare : '/' ∉ req.cmd.toList) (hfound : (executor.find req.cmd w).1 = some program) :
    ∃ entry ∈ Lookup.split (utf8 path),
      program = Path.join (Lookup.expandHome (w.sys.envValue? "HOME") entry) (utf8 req.cmd) := by
  have hslash : Byte.slash ∉ utf8 req.cmd := mt (slash_mem_utf8 _).mp hbare
  have hlookup : executor.lookup w.sys =
      { entries := some (utf8 path), cwd := some (w.sys.currentDir.toOption.getD Path.root)
        home := w.sys.envValue? "HOME" } := by
    simp only [Executor.lookup, hsearch]
  obtain ⟨hmem, -⟩ := Executor.find_some hfound
  rw [Lookup.candidates_eq_inEntries hslash (Lookup.ne_nil_of_mem_candidates hmem)] at hmem
  obtain ⟨entries, hentries, entry, hentry, rfl⟩ := Lookup.mem_inEntries hmem
  rw [hlookup] at hentries ⊢
  cases hentries
  exact ⟨entry, hentry, rfl⟩

/-- With a search path of its own, an executor starts for a bare name what it finds. -/
theorem find_of_spawns (hsearch : executor.launcher.searchPath = some path)
    (hbare : '/' ∉ req.cmd.toList) {plan : SpawnPlan} {answer : Except IoError Host.Child}
    (hplan : (plan, answer) ∈ Event.spawns (trace executor.collaborators executor.launcher req w)) :
    (executor.find req.cmd w).1 = some plan.program := by
  obtain ⟨last, hsteps, -⟩ := @Launch.run_steps _ _ executor.collaborators.traced executor.launcher req (w, [])
  obtain ⟨l₁, w₁, program, hsteps₁, hstage, rfl, -⟩ := hsteps.spawning_of_mem hplan
  obtain ⟨hlocates, -⟩ := Executor.prepared hsteps₁ hstage
  have hrelative : Path.isAbsolute (utf8 req.cmd) = false :=
    Path.isAbsolute_of_not_mem (mt (slash_mem_utf8 _).mp hbare)
  rw [Executor.ofArgv_program]
  simpa [Executor.Locates, hrelative, hsearch, hbare] using hlocates

end

/-- A level that was accepted is the one the log goes by. -/
theorem exists_asked (hlevel : Item.level.Holds config) :
    ∃ level, (∀ other, config.AsksFor other ↔ other = level) ∧
      (config.log.level.bind Log.Level.ofText?).getD .info = level := by
  unfold AsksFor
  cases hasked : config.log.level with
  | none => exact ⟨.info, fun _ => Iff.rfl, rfl⟩
  | some text =>
    obtain ⟨level, hwritten⟩ := hlevel text hasked
    refine ⟨level, ?_, ?_⟩
    · intro other
      exact ⟨fun h => hwritten.unique h, fun h => h ▸ hwritten⟩
    · rw [Option.bind_some, Log.Level.ofText?_eq_some_iff.mpr hwritten]
      rfl

theorem carryOut_of_load {invocation : CommandLine.Invocation} {w : World} {level : Log.Level}
    (hload : loadOrDefault (Program.configFiles w.sys) invocation.config = .ok config)
    (hselect : Log.Filter.select invocation.logLevel
      ((w.sys.envValue? Log.Filter.environmentVariable).bind Utf8.decode?) config.log.level =
        .ok (.ofLevel level)) :
    let finished := Program.run invocation.command config.exec w.cleared
    Program.carryOut invocation w = .ok
      { code := finished.code
        output := finished.output
        log := finished.world.records.reverse.filter fun record => record.level.verbosity ≤ level.verbosity } := by
  intro finished
  have hpasses : (Log.Filter.ofLevel level).passes =
      fun record => decide (record.level.verbosity ≤ level.verbosity) := by
    funext record
    rw [Bool.eq_iff_iff, Log.Filter.passes_ofLevel, decide_eq_true_iff]
  simp only [Program.carryOut, hload, hselect, bind, Except.bind, hpasses]
  rfl

/-- What is within its ranges is in effect. -/
theorem inEffect (h : ∀ item : Item, item.Holds config) : config.InEffect := by
  obtain ⟨hpos, -⟩ : 1 ≤ config.exec.chunkSize ∧ _ := h .chunkSize
  obtain ⟨level, hasked, hlevel⟩ := exists_asked (h .level)
  have hselect : ∀ environment : Option String, (∀ text, environment = some text → Text.Blank text.toList) →
      Log.Filter.select none environment config.log.level = .ok (.ofLevel level) := by
    intro environment hblank
    rw [Log.Filter.select_of_blank hblank, hlevel]
  exact {
    launcher := by
      have hm : (Executor.ofConfig config.exec).launcher.multiplexer = ⟨config.exec.chunkSize, hpos⟩ :=
        multiplexer_of_chunkSize rfl
      refine ⟨hpos, ?_⟩
      rw [← hm]
      rfl
    chunkSize := by
      intro m hm executor req w
      have honce := (Launch.run_course executor.collaborators executor.launcher req w).drainsOnce
      rwa [multiplexer_of_chunkSize hm, Launch.DrainsOnce, hm] at honce
    entries := by
      intro sys
      unfold Executor.lookup Executor.ofConfig
      cases config.exec.searchPath <;> rfl
    searchPath := by
      intro path hsearch executor req w plan answer hbare hplan
      have hfound : (executor.find req.cmd w).1 = some plan.program := find_of_spawns hsearch hbare hplan
      exact ⟨List.find?_some hfound, exists_entry_of_find hsearch hbare hfound⟩
    dropPrivileges := by
      intro executor req w user huser
      exact (Launch.run_course executor.collaborators executor.launcher req w).becomeUser huser
    level := ⟨level, hasked, hselect, Log.Filter.passes_ofLevel level⟩
    program := by
      intro invocation w hload hnone hblank
      refine ⟨level, (hasked level).mpr rfl, carryOut_of_load hload ?_⟩
      rw [hnone]
      apply hselect
      intro text htext
      obtain ⟨value, hvalue, hdecode⟩ := Option.bind_eq_some_iff.mp htext
      exact hblank value text hvalue hdecode }

/-- Whatever is loaded is in effect, also where there is nothing to load. -/
theorem inEffect_of_load {files : Files} {path : Option Path} (h : loadOrDefault files path = .ok config) :
    config.InEffect :=
  inEffect (validate_eq_ok_iff.mp (validate_of_load h)).2

/-- A configuration is accepted, as it is, if and only if all its items are within their ranges; otherwise the first one
that is not is told. Launches and the log go by every value that was accepted. -/
theorem accepted_values_take_effect (config : Config) :
    (∀ accepted, config.validate = .ok accepted ↔ accepted = config ∧ ∀ item : Item, item.Holds config) ∧
    (∀ e, config.validate = .error e ↔
      ∃ item : Item, item.FirstViolated config ∧ e = .config (item.complaint config)) ∧
    ∀ accepted, config.validate = .ok accepted → accepted.InEffect := by
  refine ⟨fun _ => validate_eq_ok_iff, fun _ => validate_eq_error_iff, ?_⟩
  intro accepted haccepted
  obtain ⟨rfl, hholds⟩ := validate_eq_ok_iff.mp haccepted
  exact inEffect hholds

/-- A configuration with a value for everything, each unlike its default. -/
def narrow : Config where
  exec := { dropPrivileges := true, chunkSize := 3, searchPath := some "/none:/w/bin" }
  log := { level := some "\t WaRNing\n" }

/-- A configuration with two items out of their ranges. -/
def void : Config where
  exec := { chunkSize := 0, searchPath := some "" }

/-- A launch of `tool` for a user, with the narrow configuration. -/
def narrowCalls : List (Event Host.Child) :=
  trace (Executor.ofConfig narrow.exec).collaborators (Executor.ofConfig narrow.exec).launcher
    { cmd := "tool", user := some "nobody" } Executor.toolWorld

theorem narrowCalls_made :
    ((Event.drains narrowCalls).map (·.1), (Event.spawns narrowCalls).map (·.1.program)) =
      ([3], [utf8 "/w/bin/tool"]) := by
  cbv

/-- That launch reads in pieces of three bytes from what it finds in `/w/bin`, without becoming the user. -/
theorem accepted_values_take_effect_of_narrow :
    narrow.validate = .ok narrow ∧
      (Event.drains narrowCalls).map (·.1) = [3] ∧ Event.requests narrowCalls = [] ∧
      (Event.spawns narrowCalls).map (·.1.program) = [utf8 "/w/bin/tool"] ∧
      Log.Filter.select none (some " ") narrow.log.level = .ok (.ofLevel .warn) ∧
      void.validate = .error (.config (Item.complaint void .chunkSize)) := by
  have hwritten : Log.Level.warn.WrittenAs "\t WaRNing\n" := Log.Level.ofText?_eq_some_iff.mp (by cbv)
  have hholds : ∀ item : Item, item.Holds narrow := by
    intro item
    cases item with
    | chunkSize => exact ⟨by decide, by decide⟩
    | searchPath =>
      rintro _ ⟨⟩
      exact ⟨'/', by decide, by decide⟩
    | level =>
      rintro _ ⟨⟩
      exact ⟨.warn, hwritten⟩
  have hvalid : narrow.validate = .ok narrow := ((accepted_values_take_effect narrow).1 _).mpr ⟨rfl, hholds⟩
  have heffect := (accepted_values_take_effect narrow).2.2 narrow hvalid
  obtain ⟨hdrained, hspawned⟩ := Prod.mk.inj narrowCalls_made
  obtain ⟨level, hasked, hselect, -⟩ := heffect.level
  have hwarn : Log.Level.warn = level := (hasked .warn).mp hwritten
  refine ⟨hvalid, hdrained, heffect.dropPrivileges _ _ "nobody" rfl, hspawned, ?_, ?_⟩
  · rw [hwarn]
    apply hselect
    rintro _ ⟨⟩
    exact Text.isEmpty_trim_iff.mp (by cbv)
  · have hfirst : Item.FirstViolated void .chunkSize :=
      ⟨[], _, rfl, List.forall_mem_nil _, fun hholds => absurd hholds.1 (by decide)⟩
    exact ((accepted_values_take_effect void).2.1 _).mpr ⟨.chunkSize, hfirst, rfl⟩

end Config

end ScriptExec
