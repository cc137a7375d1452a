-- SUMMARY: What trimming leaves of a text: the text between the blanks at its ends.
import Mathlib.Data.List.DropRight
import ScriptExec.Text.Blank

/-!
# Trimmed texts

A text is its trimmed form between blanks (`exists_trim`), and a word without blanks is what trimming leaves of it
between any blanks (`trim_between`).
-/

namespace ScriptExec.Text

/-- Nothing but blank characters. -/
def Blank (cs : List Char) : Prop :=
  ∀ c ∈ cs, isBlank c = true

variable {before word after cs : List Char} {text : String}

theorem dropBlankEnd_append (hafter : Blank after) : dropBlankEnd (cs ++ after) = dropBlankEnd cs := by
  have hreverse : ∀ c ∈ after.reverse, isBlank c = true := fun c hc => hafter c (List.mem_reverse.mp hc)
  unfold dropBlankEnd
  rw [List.reverse_append, List.dropWhile_append_of_pos hreverse]

theorem dropBlankEnd_of_last (hlast : ∀ hne : cs ≠ [], ¬isBlank (cs.getLast hne) = true) : dropBlankEnd cs = cs :=
  List.rdropWhile_eq_self_iff.mpr hlast

theorem toList_trim (text : String) : (trim text).toList = dropBlankEnd (text.toList.dropWhile isBlank) :=
  String.toList_ofList

theorem exists_trim (text : String) :
    ∃ before after, Blank before ∧ Blank after ∧ text.toList = before ++ (trim text).toList ++ after := by
  let rest := text.toList.dropWhile isBlank
  refine ⟨text.toList.takeWhile isBlank, rest.rtakeWhile isBlank, ?_, ?_, ?_⟩
  · intro c hc
    exact List.mem_takeWhile_imp hc
  · intro c hc
    exact List.mem_rtakeWhile_imp hc
  · have hrest : dropBlankEnd rest ++ rest.rtakeWhile isBlank = rest := List.rdropWhile_append_rtakeWhile
    rw [toList_trim, List.append_assoc, hrest, List.takeWhile_append_dropWhile]

theorem trim_between (hbefore : Blank before) (hafter : Blank after)
    (hword : ∀ c ∈ word, isBlank c = false) (htext : text.toList = before ++ word ++ after) :
    trim text = String.ofList word := by
  unfold trim
  rw [htext, List.append_assoc, List.dropWhile_append_of_pos hbefore]
  congr 1
  cases word with
  | nil =>
    have hnothing : after.dropWhile isBlank = [] := List.dropWhile_eq_nil_iff.mpr hafter
    rw [List.nil_append, hnothing]
    rfl
  | cons first word =>
    have hfirst := hword first List.mem_cons_self
    have hkept : ((first :: word) ++ after).dropWhile isBlank = (first :: word) ++ after :=
      List.dropWhile_cons_of_neg (by simp [hfirst])
    rw [hkept, dropBlankEnd_append hafter]
    apply dropBlankEnd_of_last
    intro hne
    simp [hword _ (List.getLast_mem hne)]

/-- Trimming leaves nothing of a text exactly if all of it is blank. -/
theorem isEmpty_trim_iff : (trim text).isEmpty = true ↔ Blank text.toList := by
  rw [String.isEmpty_iff]
  constructor
  · intro hempty
    obtain ⟨before, after, hbefore, hafter, htext⟩ := exists_trim text
    intro c hc
    rw [htext, hempty, String.toList_empty, List.append_nil] at hc
    rcases List.mem_append.mp hc with hc | hc
    · exact hbefore c hc
    · exact hafter c hc
  · intro hblank
    have hends : text.toList = text.toList ++ [] ++ [] := by simp
    exact trim_between hblank (List.forall_mem_nil _) nofun hends

end ScriptExec.Text
