-- SUMMARY: What the guards tell of their slots after any history of operations on guards and tokens.
import ScriptExec.Proofs.Guard.History

/-!
# What guards tell

A guard tells whether its slot is taken and for which child. After any history it tells what the history
says of the tokens on its slot (`guards_follow_history`).
-/

namespace ScriptExec.GuardTable

variable {place : Origin → Nat} {past : History} {table : GuardTable} {o : Origin} {g : Nat}

/-- What the guard `g`, whose slot has the origin `o`, tells after a history. -/
structure Faithful (past : History) (table : GuardTable) (g : Nat) (o : Origin) : Prop where
  busy_iff : (table.slotOf g).isBusy = true ↔ ∃ t, Holds past t o
  one_holder : ∀ t t', Holds past t o → Holds past t' o → t = t'
  acquires : (table.slotOf g).isBusy = false →
    ∃ t, takenFrom? past t = none ∧ (table.perform (.acquire g)).1 = .token t
  refuses : (table.slotOf g).isBusy = true → table.perform (.acquire g) = (.busy, table)
  child_of_holder : ∀ t, Holds past t o → (table.slotOf g).trackedPid? = child? past t
  child_of_none : (∀ t, ¬Holds past t o) → (table.slotOf g).trackedPid? = none
  /-- An operation on another slot, or on none, leaves the slot as it is. -/
  others_keep : ∀ op : Operation, (∀ g' ∈ op.guards, g' < table.guards.length) →
    slotNamed? past op ≠ some o → (table.perform op).2.slotOf g = table.slotOf g

theorem takenWith_isBusy (child : Option Nat) : (takenWith child).isBusy = true := by
  cases child <;> rfl

theorem takenWith_trackedPid? (child : Option Nat) : (takenWith child).trackedPid? = child := by
  cases child <;> rfl

theorem acquire?_takenWith (child : Option Nat) : (takenWith child).acquire? = none := by
  cases child <;> rfl

theorem slotOf_setSlot_of_ne {i j : Nat} (hg : table.guards[g]? = some i) (hne : j ≠ i) (slot : Slot) :
    (table.setSlot j slot).slotOf g = table.slotOf g := by
  simp [slotOf, setSlot, hg, List.getElem?_set_ne hne]

theorem slotOf_guards_append {i : Nat} (hg : table.guards[g]? = some i) (j : Nat) :
    { table with guards := table.guards ++ [j] }.slotOf g = table.slotOf g := by
  have hlt : g < table.guards.length := (List.getElem?_eq_some_iff.mp hg).1
  simp only [slotOf, List.getElem?_append_left hlt]

theorem Accounts.keeps_others (h : Accounts place past table) (ho : (origins past)[g]? = some o)
    (op : Operation) (hguards : ∀ g' ∈ op.guards, g' < table.guards.length)
    (hother : slotNamed? past op ≠ some o) : (table.perform op).2.slotOf g = table.slotOf g := by
  have hat := h.guard_at ho
  have hset : ∀ o' slot, o' ∈ origins past → some o' ≠ some o →
      (table.setSlot (place o') slot).slotOf g = table.slotOf g := by
    intro o' slot ho' hne
    refine slotOf_setSlot_of_ne hat (fun hplace => hne ?_) slot
    rw [h.apart o' (List.mem_cons_of_mem _ ho') o (mem_known ho) hplace]
  cases op with
  | new =>
    let grown : GuardTable := { table with slots := table.slots ++ [.idle] }
    have hgrown : grown.guards[g]? = some (place o) := hat
    have hslots : grown.slots[place o]? = table.slots[place o]? :=
      List.getElem?_append_left (h.place_lt (mem_known ho))
    refine (slotOf_guards_append hgrown _).trans ?_
    simp only [slotOf, hgrown, hat, Option.bind_some, hslots]
  | clone | global => exact slotOf_guards_append hat _
  | acquire g' =>
    obtain ⟨o', ho'⟩ := h.exists_origin (hguards g' List.mem_cons_self)
    simp only [slotNamed?, ho'] at hother
    simp only [perform, acquire, h.guard_at ho', Option.getD_some]
    split
    · exact hset o' _ (List.mem_of_getElem? ho') hother
    · rfl
  | track t pid =>
    rcases h.owned t with ⟨hnone, -⟩ | ⟨o', ht, -, hsome⟩
    · simp only [perform, hnone]
    · simp only [perform, hsome]
      exact hset o' _ (h.known t o' ht) (ht ▸ hother)
  | drop t | panic t =>
    rcases h.owned t with ⟨hnone, -⟩ | ⟨o', ht, -, hsome⟩
    · simp only [perform, release, hnone]
    · simp only [perform, release, hsome]
      exact hset o' _ (h.known t o' ht) (ht ▸ hother)
  | leak | same => rfl

theorem Accounts.faithful (h : Accounts place past table) (ho : (origins past)[g]? = some o) :
    Faithful past table g o := by
  obtain ⟨slot, hslot, hshows⟩ := h.slots o (mem_known ho)
  have hat := h.slotOf_eq ho hslot
  have hkeeps := h.keeps_others ho
  cases hshows with
  | free hfree =>
    refine ⟨?_, fun t _ ht => absurd ht (hfree t), ?_, ?_, fun t ht => absurd ht (hfree t), ?_, hkeeps⟩
    · rw [hat]
      constructor
      · intro hbusy
        cases hbusy
      · rintro ⟨t, ht⟩
        exact absurd ht (hfree t)
    · intro _
      exact ⟨table.tokens.length, h.next_token, by simp [perform, acquire, hat, Slot.acquire?]⟩
    · intro hbusy
      rw [hat] at hbusy
      cases hbusy
    · rw [hat]
      exact fun _ => rfl
  | @taken t ht honly =>
    refine ⟨?_, fun t₁ t₂ h₁ h₂ => (honly t₁ h₁).trans (honly t₂ h₂).symm, ?_, ?_, ?_,
      fun hnone => absurd ht (hnone t), hkeeps⟩
    · rw [hat]
      exact ⟨fun _ => ⟨t, ht⟩, fun _ => takenWith_isBusy _⟩
    · intro hidle
      rw [hat, takenWith_isBusy] at hidle
      cases hidle
    · intro _
      simp only [perform, acquire, hat, acquire?_takenWith]
    · intro t' ht'
      rw [hat, takenWith_trackedPid?, honly t' ht']

/-- After any operations on guards and tokens, each guard tells of its slot what the history says of it:
it is busy while a token acquired on that slot has been neither dropped nor unwound, of which there is at
most one; then nobody else acquires it, and its child is the one that this token noted last. Guards
share a slot if they were made from each other or from the one of the process, no operation changes
another slot than its own, and a slot whose token was lost is refused ever after. -/
theorem guards_follow_history (h : Reaches past table) :
    table.guards.length = (origins past).length ∧
      (∀ g o, (origins past)[g]? = some o → Faithful past table g o) ∧
      (∀ g g', g < table.guards.length → g' < table.guards.length →
        (table.perform (.same g g')).1 =
          .sameSlot (decide ((origins past)[g]? = (origins past)[g']?))) ∧
      ∀ t o, takenFrom? past t = some o → fate? past t = some .leaked →
        ∀ more later, Reaches (more ++ past) later →
          ∀ g, (origins (more ++ past))[g]? = some o → later.perform (.acquire g) = (.busy, later) := by
  obtain ⟨place, haccounts⟩ := h.accounts
  refine ⟨?_, fun g o ho => haccounts.faithful ho, ?_, ?_⟩
  · rw [haccounts.guards, List.length_map]
  · intro g g' hg hg'
    obtain ⟨o, ho⟩ := haccounts.exists_origin hg
    obtain ⟨o', ho'⟩ := haccounts.exists_origin hg'
    have hplace : place o = place o' ↔ o = o' :=
      ⟨haccounts.apart o (mem_known ho) o' (mem_known ho'), congrArg place⟩
    simp only [perform, haccounts.guard_at ho, haccounts.guard_at ho', ho, ho', Option.some.injEq,
      Answer.sameSlot.injEq]
    rw [beq_eq_decide]
    simp [hplace]
  · intro t o ht hleaked more later hlater g hg
    obtain ⟨place', hlater'⟩ := hlater.accounts
    have hfaithful := hlater'.faithful hg
    obtain ⟨ht', hleaked'⟩ := hlater.keeps_leaked ⟨ht, hleaked⟩
    exact hfaithful.refuses (hfaithful.busy_iff.mpr ⟨t, ht', .leaked, hleaked', rfl⟩)

/-- Two guards share a slot whose token has noted a child; the token of the slot of the process is lost. -/
theorem guards_follow_history_shared_and_lost :
    let past : History := [(.leak 1, .done), (.acquire 2, .token 1), (.global, .guard 2),
      (.acquire 1, .busy), (.track 0 77, .done), (.acquire 0, .token 0), (.clone 0, .guard 1)]
    let table : GuardTable :=
      { slots := [.reserved, .tracking 77], guards := [1, 1, 0], tokens := [⟨1, true⟩, ⟨0, false⟩] }
    Reaches past table ∧ Faithful past table 1 (.own 0) ∧ Faithful past table 2 .process ∧
      table.perform (.acquire 2) = (.busy, table) := by
  intro past table
  have hreaches : Reaches past table :=
    ((((((Reaches.start.next (.clone 0) (by decide)).next (.acquire 0) (by decide)).next
      (.track 0 77) (by decide)).next (.acquire 1) (by decide)).next .global (by decide)).next
      (.acquire 2) (by decide)).next (.leak 1) (by decide)
  obtain ⟨-, hfaithful, -, hlost⟩ := guards_follow_history hreaches
  exact ⟨hreaches, hfaithful 1 (.own 0) rfl, hfaithful 2 .process rfl,
    hlost 1 .process rfl rfl [] table hreaches 2 rfl⟩

end ScriptExec.GuardTable
