-- SUMMARY: A command line can ask for any command with any arguments, whatever options stand in front of them.
import Mathlib.Data.List.Nodup
import ScriptExec.Program
import ScriptExec.Proofs.Bytes
import ScriptExec.Proofs.Builtin.Arguments
import ScriptExec.Proofs.Text.Utf8

/-!
# Argument vectors on the command line

The options of `pread` are taken one by one, each of them settled when the next one comes (`Taken.takes`). Then the
command and its arguments are operands: all of them behind `--`, and without it if neither the command nor the first
argument starts with a hyphen (`Taken.operands_taken`). So a command line reads as exactly what it was written for,
and the program that is launched for it gets its arguments as they stand (`parse_pread`).
-/

namespace ScriptExec

theorem Utf8.decode?_utf8 (text : String) : decode? (utf8 text) = some text := by
  have hpieces : pieces (utf8 text) = text.toList.map some := by
    rw [pieces, utf8, piecesOnto_utf8]
    rfl
  simp [decode?, hpieces]

/-- A text starts with a hyphen if its bytes do. -/
theorem head?_utf8_ne_minus {text : String} (h : text.toList.head? ≠ some '-') :
    (utf8 text).head? ≠ some Byte.minus := by
  intro hhead
  unfold utf8 at hhead
  cases hchars : text.toList with
  | nil => simp [hchars] at hhead
  | cons c rest =>
    obtain ⟨b, more, hbytes, -⟩ := Utf8.piece_utf8EncodeChar c []
    rw [hchars, List.flatMap_cons, hbytes] at hhead
    obtain rfl : b = Byte.minus := Option.some.inj hhead
    have hmem : Byte.minus ∈ String.utf8EncodeChar c := hbytes ▸ List.mem_cons_self
    have hval := (mem_utf8EncodeChar (by decide)).mp hmem
    refine h ?_
    rw [hchars, List.head?_cons, show c = '-' from Char.ext (UInt32.toNat_inj.mp hval)]

namespace CommandLine

/-- An option of `pread`, with its value. -/
inductive Setting
  | cd
  | user (name : String)
  | config (path : Path)
  | logLevel (level : Log.Level)
  deriving DecidableEq

namespace Setting

def item : Setting → Item
  | cd => .cd
  | user _ => .user
  | config _ => .config
  | logLevel _ => .logLevel

def longName : Setting → Bytes
  | cd => utf8 "cd"
  | user _ => utf8 "user"
  | config _ => utf8 "config"
  | logLevel _ => utf8 "log-level"

/-- The argument with the value, if there is one. -/
def value : Setting → List Bytes
  | cd => []
  | user name => [utf8 name]
  | config path => [path]
  | logLevel level => [utf8 level.name]

/-- How an option is written. -/
def words (setting : Setting) : List Bytes :=
  (utf8 "--" ++ setting.longName) :: setting.value

/-- A value that is an argument of its own does not start with a hyphen, and a path is not empty. -/
def Plain : Setting → Prop
  | user name => name.toList.head? ≠ some '-'
  | config path => path ≠ [] ∧ path.head? ≠ some Byte.minus
  | cd | logLevel _ => True

instance : DecidablePred Plain
  | user name => inferInstanceAs (Decidable (name.toList.head? ≠ some '-'))
  | config path => inferInstanceAs (Decidable (path ≠ [] ∧ path.head? ≠ some Byte.minus))
  | cd | logLevel _ => isTrue trivial

/-- The values with an option added. -/
def put (values : Values) : Setting → Values
  | cd => { values with cd := true }
  | user name => { values with user := some name }
  | config path => { values with config := some path }
  | logLevel level => { values with logLevel := some level }

end Setting

/-- The values that some options come to. -/
def valuesOf (settings : List Setting) : Values :=
  settings.foldl Setting.put {}

variable {settings : List Setting} {setting : Setting} {st : State}

/-! ## What options come to -/

theorem valuesOf_append (settings : List Setting) (setting : Setting) :
    valuesOf (settings ++ [setting]) = setting.put (valuesOf settings) := by
  rw [valuesOf, List.foldl_append]
  rfl

/-- The values are those of some options, and there are no operands yet. -/
structure Holds (settings : List Setting) (values : Values) : Prop where
  cd : values.cd = true ↔ .cd ∈ settings
  user : ∀ name, values.user = some name ↔ .user name ∈ settings
  config : ∀ path, values.config = some path ↔ .config path ∈ settings
  logLevel : ∀ level, values.logLevel = some level ↔ .logLevel level ∈ settings
  cmd : values.cmd = none
  argv : values.argv = []

theorem Holds.put {values : Values} (h : Holds settings values) (hnew : ∀ s ∈ settings, s.item ≠ setting.item) :
    Holds (settings ++ [setting]) (setting.put values) := by
  obtain ⟨hcd, huser, hconfig, hlevel, hcmd, hargv⟩ := h
  cases setting with
  | cd => constructor <;> simp [Setting.put, huser, hconfig, hlevel, hcmd, hargv]
  | user name =>
    have hnone : ∀ name', .user name' ∉ settings := fun name' hs => hnew _ hs rfl
    refine ⟨by simp [Setting.put, hcd], fun name' => ?_, by simp [Setting.put, hconfig],
      by simp [Setting.put, hlevel], hcmd, hargv⟩
    simp [Setting.put, hnone, @eq_comm _ name]
  | config path =>
    have hnone : ∀ path', .config path' ∉ settings := fun path' hs => hnew _ hs rfl
    refine ⟨by simp [Setting.put, hcd], by simp [Setting.put, huser], fun path' => ?_,
      by simp [Setting.put, hlevel], hcmd, hargv⟩
    simp [Setting.put, hnone, @eq_comm _ path]
  | logLevel level =>
    have hnone : ∀ level', .logLevel level' ∉ settings := fun level' hs => hnew _ hs rfl
    refine ⟨by simp [Setting.put, hcd], by simp [Setting.put, huser], by simp [Setting.put, hconfig],
      fun level' => ?_, hcmd, hargv⟩
    simp [Setting.put, hnone, @eq_comm _ level]

/-- No option is given twice. -/
def Once (settings : List Setting) : Prop :=
  (settings.map Setting.item).Nodup

theorem Once.init (h : Once (settings ++ [setting])) :
    Once settings ∧ ∀ s ∈ settings, s.item ≠ setting.item := by
  unfold Once at h
  rw [List.map_append, List.nodup_append] at h
  exact ⟨h.1, fun s hs => h.2.2 _ (List.mem_map_of_mem hs) _ (List.mem_singleton_self _)⟩

theorem holds_valuesOf (h : Once settings) : Holds settings (valuesOf settings) := by
  induction settings using List.reverseRecOn with
  | nil => constructor <;> simp [valuesOf]
  | append_singleton settings setting ih =>
    rw [valuesOf_append]
    exact (ih h.init.1).put h.init.2

theorem textValue_utf8 (text : String) : textValue (utf8 text) = .ok text := by
  rw [textValue, Utf8.decode?_utf8]

theorem levelValue_name (level : Log.Level) : levelValue (utf8 level.name) = .ok level := by
  rw [levelValue, Utf8.decode?_utf8]
  cases level <;> rfl

/-- A value is taken for an option that has not been given. -/
theorem Holds.store {values : Values} (h : Holds settings values) (hnew : ∀ s ∈ settings, s.item ≠ setting.item)
    (hplain : setting.Plain) : values.store setting.item setting.value = .ok (setting.put values) := by
  cases setting with
  | cd =>
    have hnone : values.cd = false := by
      rw [Bool.eq_false_iff]
      exact fun hcd => hnew _ (h.cd.mp hcd) rfl
    simp [Values.store, Setting.item, hnone, Setting.put]
  | user name =>
    have hnone : values.user = none :=
      Option.eq_none_iff_forall_ne_some.mpr fun name' hname => hnew _ ((h.user name').mp hname) rfl
    simp [Values.store, Setting.item, Setting.value, single, hnone, textValue_utf8, Setting.put]
  | config path =>
    have hnone : values.config = none :=
      Option.eq_none_iff_forall_ne_some.mpr fun path' hpath => hnew _ ((h.config path').mp hpath) rfl
    simp [Values.store, Setting.item, Setting.value, single, hnone, hplain.1, Setting.put]
  | logLevel level =>
    have hnone : values.logLevel = none :=
      Option.eq_none_iff_forall_ne_some.mpr fun level' hlevel => hnew _ ((h.logLevel level').mp hlevel) rfl
    simp [Values.store, Setting.item, Setting.value, single, hnone, levelValue_name, Setting.put]

/-! ## Steps that succeed -/

/-- The values once the pending ones are checked. -/
def State.checked (st : State) : Except Refusal Values :=
  match st.pending with
  | none => .ok st.values
  | some (item, raw) => st.values.store item raw

section

variable {level : Level} {arg : Bytes} {args more : List Bytes} {st₁ st' : State}

theorem takeAll_cons (h : st.take level arg = .ok st₁) :
    st.takeAll level (arg :: args) = st₁.takeAll level args := by
  rw [State.takeAll, List.foldlM_cons, h]
  rfl

theorem takeAll_append (h : st.takeAll level args = .ok st₁) :
    st.takeAll level (args ++ more) = st₁.takeAll level more := by
  rw [State.takeAll] at h
  rw [State.takeAll, List.foldlM_append, h]
  rfl

theorem settle_of_checked {values : Values} (h : st.checked = .ok values) :
    st.settle = .ok { st with values, pending := none } := by
  obtain ⟨earlier, pending, awaiting, verbatim, operands⟩ := st
  cases pending with
  | none =>
    cases h
    rfl
  | some entry => exact congrArg (· >>= _) h

theorem give_of_store {item : Item} {raw : List Bytes} {values : Values} (hsettle : st.settle = .ok st₁)
    (hstore : st₁.values.store item raw = .ok values) :
    st.give item raw = .ok { st₁ with values, awaiting := false } := by
  rw [State.give, hsettle]
  simp only [bind, Except.bind, hstore]
  rfl

theorem await_of_settle (item : Item) (hsettle : st.settle = .ok st₁) :
    st.await item = .ok { st₁ with pending := some (item, []), awaiting := true } := by
  rw [State.await, hsettle]
  rfl

/-- The value an option waits for. -/
theorem take_awaited {item : Item} {raw : List Bytes} (hverbatim : st.verbatim = false) (hplain : Word.of arg = .plain)
    (hawaiting : st.awaiting = true) (hpending : st.pending = some (item, raw)) :
    st.take level arg = .ok { st with pending := some (item, raw ++ [arg]), awaiting := false } := by
  rw [State.take, if_neg (by simp [hverbatim]), hplain]
  simp only [State.plain, hawaiting, hpending]

end

/-! ## Options one by one -/

theorem Word.of_plain {arg : Bytes} (h : arg.head? ≠ some Byte.minus) : Word.of arg = .plain := by
  unfold Word.of
  split
  · exact absurd rfl h
  · exact absurd rfl h
  · exact absurd rfl h
  · rfl

namespace Setting

theorem word_of (setting : Setting) : Word.of (utf8 "--" ++ setting.longName) = .long setting.longName none := by
  cases setting <;> rfl

theorem item?_longName (setting : Setting) : Level.pread.item? setting.longName = some setting.item := by
  cases setting <;> rfl

theorem value_eq (setting : Setting) :
    setting.item.takesValue = false ∧ setting.value = [] ∨
      setting.item.takesValue = true ∧ ∃ arg, setting.value = [arg] := by
  cases setting with
  | cd => exact .inl ⟨rfl, rfl⟩
  | _ => exact .inr ⟨rfl, _, rfl⟩

theorem value_plain (hplain : setting.Plain) : ∀ arg ∈ setting.value, Word.of arg = .plain := by
  intro arg harg
  cases setting with
  | cd => cases harg
  | user name =>
    obtain rfl := List.mem_singleton.mp harg
    exact Word.of_plain (head?_utf8_ne_minus hplain)
  | config path =>
    obtain rfl := List.mem_singleton.mp harg
    exact Word.of_plain hplain.2
  | logLevel level =>
    obtain rfl := List.mem_singleton.mp harg
    cases level <;> rfl

end Setting

/-- Some options have been taken, and no operand; `--` has come or not. -/
structure Taken (settings : List Setting) (escaped : Bool) (st : State) : Prop where
  checked : st.checked = .ok (valuesOf settings)
  awaiting : st.awaiting = false
  verbatim : st.verbatim = escaped
  operands : st.operands = [.cmd, .argv]

theorem taken_start : Taken [] false (.start .pread) :=
  ⟨rfl, rfl, rfl, rfl⟩

theorem Taken.takes (h : Taken settings false st) (honce : Once (settings ++ [setting])) (hplain : setting.Plain) :
    ∃ st', st.takeAll .pread setting.words = .ok st' ∧ Taken (settings ++ [setting]) false st' := by
  have hstore := (holds_valuesOf honce.init.1).store honce.init.2 hplain
  rw [← valuesOf_append] at hstore
  have hname : st.take .pread (utf8 "--" ++ setting.longName) =
      if setting.item.takesValue then st.await setting.item else st.give setting.item [] := by
    rw [State.take, if_neg (by simp [h.verbatim]), setting.word_of]
    simp only [State.long, setting.item?_longName]
  rcases setting.value_eq with ⟨hflag, hvalue⟩ | ⟨hoption, arg, hvalue⟩
  · rw [hvalue] at hstore
    have hgive := hname.trans ((if_neg (by simp [hflag])).trans (give_of_store (settle_of_checked h.checked) hstore))
    rw [Setting.words, hvalue, takeAll_cons hgive]
    exact ⟨_, rfl, rfl, rfl, h.verbatim, h.operands⟩
  · have harg : Word.of arg = .plain := setting.value_plain hplain arg (by simp [hvalue])
    have hawait := hname.trans ((if_pos hoption).trans (await_of_settle setting.item (settle_of_checked h.checked)))
    rw [Setting.words, hvalue, takeAll_cons hawait]
    refine ⟨_, takeAll_cons (take_awaited h.verbatim harg rfl rfl), ?_, rfl, h.verbatim, h.operands⟩
    rw [hvalue] at hstore
    exact hstore

theorem takeAll_settings (honce : Once settings) (hplain : ∀ setting ∈ settings, setting.Plain) :
    ∃ st, (State.start .pread).takeAll .pread (settings.flatMap Setting.words) = .ok st ∧
      Taken settings false st := by
  induction settings using List.reverseRecOn with
  | nil => exact ⟨_, rfl, taken_start⟩
  | append_singleton settings setting ih =>
    obtain ⟨st, htaken, hst⟩ := ih honce.init.1 fun s hs => hplain s (List.mem_append_left _ hs)
    obtain ⟨st', htakes, hst'⟩ := hst.takes honce (hplain setting (by simp))
    refine ⟨st', ?_, hst'⟩
    rw [List.flatMap_append, takeAll_append htaken, List.flatMap_singleton, htakes]

theorem Taken.escape (h : Taken settings false st) :
    ∃ st', st.takeAll .pread [utf8 "--"] = .ok st' ∧ Taken settings true st' := by
  have hescape : st.take .pread (utf8 "--") = .ok { st with verbatim := true } := by
    rw [State.take, if_neg (by simp [h.verbatim]), show Word.of (utf8 "--") = .escape from rfl]
  exact ⟨_, takeAll_cons hescape, h.checked, h.awaiting, rfl, h.operands⟩

/-! ## Operands -/

/-- Behind `--` every text is taken as an operand, and before it one that does not start with a hyphen. -/
def Bare (escaped : Bool) (text : String) : Prop :=
  escaped = true ∨ text.toList.head? ≠ some '-'

theorem take_bare {escaped : Bool} {text : String} (hverbatim : st.verbatim = escaped) (hawaiting : st.awaiting = false)
    (h : Bare escaped text) : st.take .pread (utf8 text) = st.operand (utf8 text) := by
  unfold State.take
  split
  · rfl
  · rename_i hnot
    have hplain : Word.of (utf8 text) = .plain :=
      Word.of_plain (head?_utf8_ne_minus (h.resolve_left (hverbatim ▸ hnot)))
    rw [hplain]
    simp only [State.plain, hawaiting]

/-- The command has been taken, and not settled. -/
structure Commanded (settings : List Setting) (cmd : String) (escaped : Bool) (st : State) : Prop where
  checked : st.checked = .ok { valuesOf settings with cmd := some cmd }
  pending : st.pending = some (.cmd, [utf8 cmd])
  awaiting : st.awaiting = false
  verbatim : st.verbatim = escaped
  operands : st.operands = [.argv]

theorem Taken.command {escaped : Bool} {cmd : String} (h : Taken settings escaped st) (honce : Once settings)
    (hbare : Bare escaped cmd) :
    ∃ st', st.take .pread (utf8 cmd) = .ok st' ∧ Commanded settings cmd escaped st' := by
  have hcmd := (holds_valuesOf honce).cmd
  have hoperand : st.operand (utf8 cmd) = .ok { st with
      values := valuesOf settings, pending := some (.cmd, [utf8 cmd]), awaiting := false, operands := [.argv] } := by
    unfold State.operand
    rw [h.operands, settle_of_checked h.checked]
    rfl
  refine ⟨_, (take_bare h.verbatim h.awaiting hbare).trans hoperand, ?_, rfl, rfl, h.verbatim, rfl⟩
  simp [State.checked, Values.store, single, hcmd, textValue_utf8]

theorem mapM_textValue (texts : List String) : (texts.map utf8).mapM textValue = .ok texts := by
  induction texts with
  | nil => rfl
  | cons text texts ih =>
    rw [List.map_cons, List.mapM_cons, textValue_utf8, ih]
    rfl

/-- Some arguments of the command have been taken, so all that follows are arguments too. -/
structure Argued (settings : List Setting) (cmd : String) (argv : List String) (st : State) : Prop where
  values : st.values = { valuesOf settings with cmd := some cmd }
  pending : st.pending = some (.argv, argv.map utf8)
  verbatim : st.verbatim = true
  operands : st.operands = [.argv]

theorem Commanded.argument {escaped : Bool} {cmd arg : String} (h : Commanded settings cmd escaped st)
    (hbare : Bare escaped arg) :
    ∃ st', st.take .pread (utf8 arg) = .ok st' ∧ Argued settings cmd [arg] st' := by
  have hoperand : st.operand (utf8 arg) = .ok { st with
      values := { valuesOf settings with cmd := some cmd }, pending := some (.argv, [utf8 arg]), awaiting := false
      verbatim := true } := by
    simp only [State.operand, h.operands, h.pending, settle_of_checked h.checked]
    rfl
  exact ⟨_, (take_bare h.verbatim h.awaiting hbare).trans hoperand, rfl, rfl, rfl, h.operands⟩

theorem Argued.arguments {cmd : String} {argv : List String} (h : Argued settings cmd argv st) (more : List String) :
    ∃ st', st.takeAll .pread (more.map utf8) = .ok st' ∧ Argued settings cmd (argv ++ more) st' := by
  induction more generalizing argv st with
  | nil => exact ⟨st, rfl, (List.append_nil argv).symm ▸ h⟩
  | cons arg more ih =>
    have htake : st.take .pread (utf8 arg) = .ok { st with pending := some (.argv, argv.map utf8 ++ [utf8 arg]) } := by
      simp only [State.take, h.verbatim, if_true, State.operand, h.operands, h.pending]
    have hnext : Argued settings cmd (argv ++ [arg]) { st with pending := some (.argv, argv.map utf8 ++ [utf8 arg]) } :=
      ⟨h.values, by rw [List.map_append]; rfl, h.verbatim, h.operands⟩
    obtain ⟨st', htakes, hst'⟩ := ih hnext
    refine ⟨st', (takeAll_cons htake).trans htakes, ?_⟩
    rwa [List.append_assoc] at hst'

theorem Argued.checked {cmd : String} {argv : List String} (h : Argued settings cmd argv st) (honce : Once settings) :
    st.checked = .ok { valuesOf settings with cmd := some cmd, argv } := by
  have hnone := (holds_valuesOf honce).argv
  simp only [State.checked, h.pending, h.values, Values.store, mapM_textValue]
  simp only [hnone, List.nil_append]
  rfl

/-- The operands are the command and its arguments. -/
theorem Taken.operands_taken {escaped : Bool} {cmd : String} {argv : List String} (h : Taken settings escaped st)
    (honce : Once settings) (hcmd : Bare escaped cmd) (hargv : ∀ arg ∈ argv.head?, Bare escaped arg) :
    ∃ st', st.takeAll .pread ((cmd :: argv).map utf8) = .ok st' ∧
      st'.checked = .ok { valuesOf settings with cmd := some cmd, argv } := by
  obtain ⟨st₁, htake, hst₁⟩ := h.command honce hcmd
  cases argv with
  | nil =>
    refine ⟨st₁, takeAll_cons htake, ?_⟩
    rw [hst₁.checked, ← (holds_valuesOf honce).argv]
  | cons arg argv =>
    obtain ⟨st₂, htake₂, hst₂⟩ := hst₁.argument (hargv arg rfl)
    obtain ⟨st₃, htakes, hst₃⟩ := hst₂.arguments argv
    exact ⟨st₃, (takeAll_cons htake).trans ((takeAll_cons htake₂).trans htakes), hst₃.checked honce⟩

/-! ## Command lines -/

/-- What a command line looks like that asks for a launch. -/
def preadLine (settings : List Setting) (escaped : Bool) (cmd : String) (argv : List String) : List Bytes :=
  utf8 "pread" :: (settings.flatMap Setting.words ++ ((if escaped then [utf8 "--"] else []) ++ (cmd :: argv).map utf8))

theorem readLevel_of_checked {level : Level} {args : List Bytes} {values : Values}
    (htaken : (State.start level).takeAll level args = .ok st) (h : st.checked = .ok values) :
    readLevel level args = .ok values := by
  rw [readLevel, htaken]
  simp only [bind, Except.bind, settle_of_checked h]
  rfl

theorem parse_of_values {args : List Bytes} {values : Values} {cmd : String}
    (h : readLevel .pread args = .ok values) (hcmd : values.cmd = some cmd) :
    parse (utf8 "pread" :: args) =
      .ok ⟨values.config, values.logLevel, .pread values.cd values.user cmd values.argv⟩ := by
  have hread : readCommand .pread args =
      .ok ⟨values.config, values.logLevel, .pread values.cd values.user cmd values.argv⟩ := by
    rw [readCommand, h]
    simp only [bind, Except.bind, hcmd]
    rfl
  have hstart : (if (State.start .program).verbatim || (State.start .program).awaiting then none
      else CommandName.of? (utf8 "pread")) = some .pread := rfl
  rw [parse, readProgram, hstart]
  dsimp only
  rw [hread]
  simp [bind, Except.bind, State.settle, State.start, pure, Except.pure]

/-- The plans of a launch have the arguments that it was asked for. -/
theorem argv_of_spawns {σ κ : Type} {c : Collaborators σ κ} {launcher : Launcher} {req : Request} {w : σ}
    {plan : SpawnPlan} {answer : Except IoError κ}
    (h : (plan, answer) ∈ Launch.Event.spawns (Launch.trace c launcher req w)) :
    plan.argv = if req.args.toArgv = [] then [plan.program] else req.args.toArgv := by
  obtain ⟨last, hsteps, -⟩ := @Launch.run_steps _ _ c.traced launcher req (w, [])
  obtain ⟨-, -, program, -, -, rfl, -⟩ := hsteps.spawning_of_mem h
  rw [SpawnPlan.ofArgv_argv, Executor.ofArgv_program]

/-- A command line that names a command and its arguments behind any options, each of them given at most once, is read
as exactly that, behind `--` whatever the command and the arguments are, and without it if neither the command nor the
first argument starts with a hyphen. What the launch then hands to the system has those arguments. -/
theorem parse_pread (honce : Once settings) (hplain : ∀ setting ∈ settings, setting.Plain) {escaped : Bool}
    {cmd : String} {argv : List String} (hcmd : Bare escaped cmd) (hargv : ∀ arg ∈ argv.head?, Bare escaped arg) :
    ∃ config logLevel cd user,
      parse (preadLine settings escaped cmd argv) = .ok ⟨config, logLevel, .pread cd user cmd argv⟩ ∧
      (cd = true ↔ .cd ∈ settings) ∧ (∀ name, user = some name ↔ .user name ∈ settings) ∧
      (∀ path, config = some path ↔ .config path ∈ settings) ∧
      (∀ level, logLevel = some level ↔ .logLevel level ∈ settings) ∧
      ∀ (exec : ExecSection) (w : World) (plan : SpawnPlan) (answer : Except IoError Host.Child),
        (plan, answer) ∈ Launch.Event.spawns (Launch.trace (Executor.ofConfig exec).collaborators
          (Executor.ofConfig exec).launcher (Program.requestOf cd user cmd argv) w) →
        plan.argv = if argv = [] then [plan.program] else argv.map utf8 := by
  obtain ⟨st₁, htaken, hst₁⟩ := takeAll_settings honce hplain
  have hescaped : ∃ st₂, st₁.takeAll .pread (if escaped then [utf8 "--"] else []) = .ok st₂ ∧
      Taken settings escaped st₂ := by
    cases escaped with
    | true => exact hst₁.escape
    | false => exact ⟨st₁, rfl, hst₁⟩
  obtain ⟨st₂, hescape, hst₂⟩ := hescaped
  obtain ⟨st₃, hoperands, hst₃⟩ := hst₂.operands_taken honce hcmd hargv
  have hline : (State.start .pread).takeAll .pread (settings.flatMap Setting.words ++
      ((if escaped then [utf8 "--"] else []) ++ (cmd :: argv).map utf8)) = .ok st₃ := by
    rw [takeAll_append htaken, takeAll_append hescape, hoperands]
  have hholds := holds_valuesOf honce
  have hparse := parse_of_values (readLevel_of_checked hline hst₃) rfl
  refine ⟨_, _, _, _, hparse, hholds.cd, hholds.user, hholds.config, hholds.logLevel, ?_⟩
  intro exec w plan answer hplan
  have hvector : (Program.requestOf (valuesOf settings).cd (valuesOf settings).user cmd argv).args.toArgv =
      argv.map utf8 := by
    simp [Program.requestOf, ArgList.ofList, ArgList.toArgv]
  have hplanned := argv_of_spawns hplan
  simp only [hvector, List.map_eq_nil_iff] at hplanned
  exact hplanned

/-- Options in an unusual order, and a command and arguments that look like options. -/
theorem parse_pread_of_hyphens :
    let settings : List Setting := [.logLevel .debug, .user "né", .cd, .config [0xff]]
    let argv := ["--", "--cd", "", "--user"]
    Once settings ∧ (∀ setting ∈ settings, setting.Plain) ∧ Bare true "-x" ∧ (∀ arg ∈ argv.head?, Bare true arg) ∧
      parse (preadLine settings true "-x" argv) =
        .ok ⟨some [0xff], some .debug, .pread true (some "né") "-x" argv⟩ := by
  intro settings argv
  have honce : Once settings := by unfold Once; decide
  have hplain : ∀ setting ∈ settings, setting.Plain := by decide
  have hcmd : Bare true "-x" := .inl rfl
  have hargv : ∀ arg ∈ argv.head?, Bare true arg := fun _ _ => .inl rfl
  obtain ⟨config, logLevel, cd, user, hparse, hcd, huser, hconfig, hlevel, -⟩ := parse_pread honce hplain hcmd hargv
  refine ⟨honce, hplain, hcmd, hargv, ?_⟩
  rw [hparse, (hconfig [0xff]).mpr (by decide), (hlevel .debug).mpr (by decide), hcd.mpr (by decide),
    (huser "né").mpr (by decide)]

end CommandLine

end ScriptExec
