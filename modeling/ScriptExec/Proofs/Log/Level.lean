-- SUMMARY: How levels are written, and the filter that a level makes.
import Mathlib
import ScriptExec.Log.Filter
import ScriptExec.Proofs.Text.Blank

/-!
# Written levels

A text stands for a level if it is one of the level's names, in letters of either case and between any blanks
(`ofText?_eq_some_iff`). The filter of a level lets through what is at most as verbose, and where neither the command
line nor the environment says anything it is made of what the configuration says (`Filter.select_of_blank`).
-/

namespace ScriptExec.Log

namespace Level

/-- The names of a level, in lower case. -/
def names : Level → List String
  | .error => ["error"]
  | .warn => ["warn", "warning"]
  | .info => ["info"]
  | .debug => ["debug"]
  | .trace => ["trace"]

/-- The text is a name of the level, in letters of either case and with any blanks around it. -/
def WrittenAs (level : Level) (text : String) : Prop :=
  ∃ before word after, text.toList = before ++ word ++ after ∧ Text.Blank before ∧ Text.Blank after ∧
    String.ofList (word.map Char.toLower) ∈ level.names

variable {level other : Level} {text name : String} {c : Char}

theorem ofName?_eq_some_iff : ofName? text = some level ↔ level.name = text := by
  constructor
  · intro hfound
    have hname := List.find?_some (p := fun level : Level => level.name == text) hfound
    exact beq_iff_eq.mp hname
  · rintro rfl
    cases level <;> decide

/-- The level of a text once it is trimmed and its letters are in lower case. -/
theorem mem_names_iff :
    name ∈ level.names ↔ (if name == "warning" then some .warn else ofName? name) = some level := by
  by_cases hlong : name = "warning"
  · subst hlong
    cases level <;> decide
  · have hshort : name ∈ level.names ↔ level.name = name := by
      cases level <;> simp [names, Level.name, hlong, eq_comm]
    rw [if_neg (by simpa using hlong), ofName?_eq_some_iff, hshort]

/-! ## Letters and blanks -/

/-- Only letters have another form in lower case, and no letter is blank. -/
theorem toLower_of_isBlank (h : Text.isBlank c = true) : c.toLower = c := by
  unfold Char.toLower
  split
  · rename_i hupper
    simp only [Text.isBlank, Text.CodeRanges.holds, Text.whiteSpace, List.any_cons, List.any_nil, Bool.or_eq_true,
      Bool.and_eq_true, decide_eq_true_eq, Bool.false_eq_true, or_false] at h
    obtain ⟨hlow, hhigh⟩ := hupper
    have hlow' : 65 ≤ c.toNat := hlow
    have hhigh' : c.toNat ≤ 90 := hhigh
    omega
  · rfl

theorem isBlank_of_mem_names (h : name ∈ level.names) (hc : c ∈ name.toList) : Text.isBlank c = false := by
  have hnames : level.names.all (fun name => name.toList.all fun c => !Text.isBlank c) = true := by
    cases level <;> rfl
  have hname := List.all_eq_true.mp hnames name h
  simpa using List.all_eq_true.mp hname c hc

/-- A word that is a name but for the case of its letters has no blanks. -/
theorem isBlank_of_name {word : List Char} (h : String.ofList (word.map Char.toLower) ∈ level.names)
    (hc : c ∈ word) : Text.isBlank c = false := by
  by_contra hblank
  rw [Bool.not_eq_false] at hblank
  have hmem : c.toLower ∈ (String.ofList (word.map Char.toLower)).toList := by
    rw [String.toList_ofList]
    exact List.mem_map_of_mem hc
  have hlower := isBlank_of_mem_names h hmem
  rw [toLower_of_isBlank hblank, hblank] at hlower
  cases hlower

theorem toLower_eq (text : String) : text.toLower = String.ofList (text.toList.map Char.toLower) := by
  rw [← String.toList_inj, String.toList_ofList]
  exact String.toList_map

theorem ofText?_eq_some_iff : ofText? text = some level ↔ level.WrittenAs text := by
  have hname : ofText? text = some level ↔ (Text.trim text).toLower ∈ level.names := mem_names_iff.symm
  rw [hname, toLower_eq]
  constructor
  · intro h
    obtain ⟨before, after, hbefore, hafter, htext⟩ := Text.exists_trim text
    exact ⟨before, _, after, htext, hbefore, hafter, h⟩
  · rintro ⟨before, word, after, htext, hbefore, hafter, h⟩
    have hword := fun c hc => isBlank_of_name (c := c) h hc
    rwa [Text.trim_between hbefore hafter hword htext, String.toList_ofList]

example : ofText? "\t WaRNing\n" = some .warn := by cbv

theorem WrittenAs.unique (h : level.WrittenAs text) (h' : other.WrittenAs text) : other = level := by
  have hlevel := ofText?_eq_some_iff.mpr h
  rw [ofText?_eq_some_iff.mpr h'] at hlevel
  exact Option.some.inj hlevel

end Level

/-! ## Filters of levels -/

namespace Filter

theorem passes_ofLevel (level : Level) (record : Record) :
    (ofLevel level).passes record = true ↔ record.level.verbosity ≤ level.verbosity := by
  simp [ofLevel, passes, deciding?, Directive.appliesTo, Threshold.admits]

theorem select_of_blank {environment : Option String}
    (h : ∀ text, environment = some text → Text.Blank text.toList) (configured : Option String) :
    select none environment configured = .ok (ofLevel ((configured.bind Level.ofText?).getD .info)) := by
  have hnothing : (environment.map Text.trim).filter (fun text => !text.isEmpty) = none := by
    cases environment with
    | none => rfl
    | some text =>
      have hempty := Text.isEmpty_trim_iff.mpr (h text rfl)
      rw [Option.map_some, Option.filter_some, hempty]
      rfl
  simp only [select, hnothing]

end Filter

end ScriptExec.Log
