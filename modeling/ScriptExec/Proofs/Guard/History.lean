-- SUMMARY: What has been done with guards and tokens, and what the slots of the guards show of it.
import Mathlib.Data.List.Basic
import Mathlib.Logic.Function.Basic
import ScriptExec.Guard

/-!
# Histories of guards

All that happens to guards and tokens is a history of operations with their answers (`Reaches`). From it
alone one can tell which guards share a slot (`origins`), on which slot a token was acquired
(`takenFrom?`), what has become of it (`fate?`), and which child it has noted last (`child?`). The table
shows exactly that (`Accounts`): a slot is taken while some token on it has been neither dropped nor
unwound, and there is never more than one such token on a slot.
-/

namespace ScriptExec.GuardTable

/-- What has been done and how it was answered, newest first. -/
abbrev History := List (Operation × Answer)

/-- Where the slot of a guard comes from: it is the one of the whole process, or it was made together with
the guard of a number. -/
inductive Origin
  | process
  | own (g : Nat)
  deriving DecidableEq, Repr

/-- What has become of a token. -/
inductive Fate
  | owned
  | leaked
  /-- Dropped, or unwound with its owner. -/
  | released
  deriving DecidableEq, Repr

/-- Whether a token keeps its slot taken. -/
def Fate.isHeld : Fate → Bool
  | .owned | .leaked => true
  | .released => false

/-- What becomes of a token whose owner parts with it. Nobody else can. -/
def Fate.part (next : Fate) : Option Fate → Option Fate
  | some .owned => some next
  | fate => fate

/-- The origins of all guards, in the order in which they were made. -/
def origins : History → List Origin
  | [] => [.own 0]
  | (.new, _) :: past => origins past ++ [.own (origins past).length]
  | (.clone g, _) :: past => origins past ++ [((origins past)[g]?).getD .process]
  | (.global, _) :: past => origins past ++ [.process]
  | _ :: past => origins past

/-- The origin of the slot on which a token was acquired. -/
def takenFrom? : History → Nat → Option Origin
  | [], _ => none
  | (.acquire g, .token t') :: past, t =>
    if t' = t then (origins past)[g]? else takenFrom? past t
  | _ :: past, t => takenFrom? past t

def fate? : History → Nat → Option Fate
  | [], _ => none
  | (.acquire _, .token t') :: past, t => if t' = t then some .owned else fate? past t
  | (.drop t', _) :: past, t | (.panic t', _) :: past, t =>
    if t' = t then Fate.part .released (fate? past t) else fate? past t
  | (.leak t', _) :: past, t => if t' = t then Fate.part .leaked (fate? past t) else fate? past t
  | _ :: past, t => fate? past t

/-- The child that a token has noted last. -/
def child? : History → Nat → Option Nat
  | [], _ => none
  | (.track t' pid, _) :: past, t =>
    if t' = t ∧ fate? past t = some .owned then some pid else child? past t
  | _ :: past, t => child? past t

/-- The token keeps a slot taken. -/
def Holds (past : History) (t : Nat) (o : Origin) : Prop :=
  takenFrom? past t = some o ∧ ∃ fate, fate? past t = some fate ∧ fate.isHeld = true

/-- The guards that an operation names. -/
def Operation.guards : Operation → List Nat
  | .clone g | .acquire g => [g]
  | .same g h => [g, h]
  | _ => []

/-- The origin of the slot that an operation is about, if it is about one. -/
def slotNamed? (past : History) : Operation → Option Origin
  | .acquire g => (origins past)[g]?
  | .track t _ | .drop t | .leak t | .panic t => takenFrom? past t
  | _ => none

/-- The table to which a history leads. Only guards that are there can be named. -/
inductive Reaches : History → GuardTable → Prop
  | start : Reaches [] initial
  | next {past table} (h : Reaches past table) (op : Operation)
      (hguards : ∀ g ∈ op.guards, g < table.guards.length) :
      Reaches ((op, (table.perform op).1) :: past) (table.perform op).2

/-! ## What the table shows -/

/-- A slot that is taken, with the child that was noted. -/
def takenWith : Option Nat → Slot
  | none => .reserved
  | some pid => .tracking pid

/-- A slot shows whether a token keeps it taken, and which child that token has noted. -/
inductive Shows (past : History) (o : Origin) : Slot → Prop
  | free (h : ∀ t, ¬Holds past t o) : Shows past o .idle
  | taken {t} (h : Holds past t o) (honly : ∀ t', Holds past t' o → t' = t) :
      Shows past o (takenWith (child? past t))

/-- A table accounts for a history: every origin has a place among the slots, every token is on the slot
on which it was acquired, and every slot shows its token. -/
structure Accounts (place : Origin → Nat) (past : History) (table : GuardTable) : Prop where
  guards : table.guards = (origins past).map place
  process : place .process = 0
  young : ∀ k, .own k ∈ origins past → k < (origins past).length
  apart : ∀ o ∈ .process :: origins past, ∀ o' ∈ .process :: origins past, place o = place o' → o = o'
  tokens : ∀ t, table.tokens[t]? =
    (takenFrom? past t).map fun o => ⟨place o, fate? past t == some .owned⟩
  known : ∀ t o, takenFrom? past t = some o → o ∈ origins past
  unborn : ∀ t, takenFrom? past t = none → fate? past t = none ∧ child? past t = none
  slots : ∀ o ∈ .process :: origins past, ∃ slot, table.slots[place o]? = some slot ∧ Shows past o slot

variable {place : Origin → Nat} {past : History} {table : GuardTable} {o : Origin} {g t : Nat}

theorem mem_known (h : (origins past)[g]? = some o) : o ∈ .process :: origins past :=
  List.mem_cons_of_mem _ (List.mem_of_getElem? h)

theorem Accounts.guard_at (h : Accounts place past table) (ho : (origins past)[g]? = some o) :
    table.guards[g]? = some (place o) := by
  rw [h.guards, List.getElem?_map, ho]
  rfl

theorem Accounts.slotOf_eq (h : Accounts place past table) (ho : (origins past)[g]? = some o)
    {slot : Slot} (hslot : table.slots[place o]? = some slot) : table.slotOf g = slot := by
  simp [slotOf, h.guard_at ho, hslot]

theorem Accounts.exists_origin (h : Accounts place past table) (hg : g < table.guards.length) :
    ∃ o, (origins past)[g]? = some o := by
  rw [h.guards, List.length_map] at hg
  exact ⟨_, List.getElem?_eq_getElem hg⟩

/-- A token is owned if it was acquired and its owner has not parted with it. -/
theorem Accounts.owned (h : Accounts place past table) (t : Nat) :
    (table.owned? t = none ∧ fate? past t ≠ some .owned) ∨
      ∃ o, takenFrom? past t = some o ∧ fate? past t = some .owned ∧
        table.owned? t = some ⟨place o, true⟩ := by
  unfold owned?
  rw [h.tokens]
  cases htaken : takenFrom? past t with
  | none =>
    refine .inl ⟨rfl, ?_⟩
    rw [(h.unborn t htaken).1]
    nofun
  | some o =>
    by_cases hfate : fate? past t = some .owned
    · exact .inr ⟨o, rfl, hfate, by simp [hfate, Option.filter]⟩
    · exact .inl ⟨by simp [hfate, Option.filter], hfate⟩

theorem accounts_initial : ∃ place, Accounts place [] initial := by
  refine ⟨fun o => if o = .process then 0 else 1, ?_⟩
  constructor
  · rfl
  · rfl
  · simp [origins]
  · simp [origins]
  · intro t
    rfl
  · nofun
  · exact fun t _ => ⟨rfl, rfl⟩
  · intro o ho
    refine ⟨.idle, ?_, .free fun t hholds => nomatch hholds.1⟩
    simp only [origins, List.mem_cons, List.not_mem_nil, or_false] at ho
    rcases ho with rfl | rfl <;> rfl

/-! ## One operation -/

variable {past' : History} {table' : GuardTable} {slot : Slot} {fate : Fate} {a : Answer}

theorem Fate.part_of_not_owned {now : Option Fate} (h : now ≠ some .owned) : Fate.part fate now = now := by
  unfold Fate.part
  split
  · exact absurd rfl h
  · rfl

/-- What a slot shows only depends on the tokens on it. -/
theorem Shows.congr (h : Shows past o slot) (hholds : ∀ t, Holds past' t o ↔ Holds past t o)
    (hchild : ∀ t, Holds past t o → child? past' t = child? past t) : Shows past' o slot := by
  cases h with
  | free hfree => exact .free fun t ht => hfree t ((hholds t).mp ht)
  | taken ht honly =>
    rw [← hchild _ ht]
    exact .taken ((hholds _).mpr ht) fun t' ht' => honly t' ((hholds t').mp ht')

theorem Holds.congr (htaken : takenFrom? past' t = takenFrom? past t) (hfate : fate? past' t = fate? past t) :
    Holds past' t o ↔ Holds past t o := by
  unfold Holds
  rw [htaken, hfate]

/-- The token that keeps a slot taken is the one that the slot shows. -/
theorem Accounts.shown (h : Accounts place past table) (ht : Holds past t o) :
    table.slots[place o]? = some (takenWith (child? past t)) ∧ ∀ t', Holds past t' o → t' = t := by
  obtain ⟨slot, hslot, hshows⟩ := h.slots o (List.mem_cons_of_mem _ (h.known t o ht.1))
  cases hshows with
  | free hfree => exact absurd ht (hfree t)
  | taken hshown honly =>
    obtain rfl := honly t ht
    exact ⟨hslot, honly⟩

theorem disown_eq_self (h : table.owned? t = none) : table.disown t = table := by
  have hkeep : table.tokens.modify t (fun token => { token with owned := false }) = table.tokens := by
    apply List.ext_getElem?
    intro i
    rw [List.getElem?_modify]
    by_cases hi : t = i
    · subst hi
      unfold owned? at h
      match htoken : table.tokens[t]? with
      | none => rfl
      | some ⟨slot, false⟩ => simp
      | some ⟨slot, true⟩ => simp [htoken] at h
    · simp [hi]
  unfold disown
  rw [hkeep]

/-- An operation that changes neither the table nor what is known of guards and tokens. -/
theorem Accounts.congr (h : Accounts place past table) (horigins : origins past' = origins past)
    (htaken : ∀ t, takenFrom? past' t = takenFrom? past t) (hfate : ∀ t, fate? past' t = fate? past t)
    (hchild : ∀ t, child? past' t = child? past t) : Accounts place past' table where
  guards := horigins ▸ h.guards
  process := h.process
  young := horigins ▸ h.young
  apart := horigins ▸ h.apart
  tokens := by
    intro t
    rw [htaken, hfate]
    exact h.tokens t
  known := by
    intro t o
    rw [htaken, horigins]
    exact h.known t o
  unborn := by
    intro t
    rw [htaken, hfate, hchild]
    exact h.unborn t
  slots := by
    intro o ho
    rw [horigins] at ho
    obtain ⟨slot, hslot, hshows⟩ := h.slots o ho
    exact ⟨slot, hslot, hshows.congr (fun t => Holds.congr (htaken t) (hfate t)) fun t _ => hchild t⟩

/-- A guard on a slot that is there already. -/
theorem Accounts.joins (h : Accounts place past table) (ho : o ∈ .process :: origins past)
    (horigins : origins past' = origins past ++ [o])
    (htaken : ∀ t, takenFrom? past' t = takenFrom? past t) (hfate : ∀ t, fate? past' t = fate? past t)
    (hchild : ∀ t, child? past' t = child? past t) :
    Accounts place past' { table with guards := table.guards ++ [place o] } := by
  have hmem : ∀ o', o' ∈ .process :: origins past' → o' ∈ .process :: origins past := by
    intro o' ho'
    rw [horigins, ← List.cons_append, List.mem_append, List.mem_singleton] at ho'
    rcases ho' with ho' | rfl
    · exact ho'
    · exact ho
  constructor
  case guards => simp [horigins, h.guards]
  case process => exact h.process
  case young =>
    intro k hk
    have hlt : k < (origins past).length := by
      rcases List.mem_cons.mp (hmem _ (List.mem_cons_of_mem _ hk)) with hne | hk
      · cases hne
      · exact h.young k hk
    rw [horigins, List.length_append]
    omega
  case apart => exact fun o₁ h₁ o₂ h₂ => h.apart o₁ (hmem _ h₁) o₂ (hmem _ h₂)
  case tokens =>
    intro t
    rw [htaken, hfate]
    exact h.tokens t
  case known =>
    intro t o' ht
    rw [htaken] at ht
    rw [horigins]
    exact List.mem_append_left _ (h.known t o' ht)
  case unborn =>
    intro t
    rw [htaken, hfate, hchild]
    exact h.unborn t
  case slots =>
    intro o' ho'
    obtain ⟨slot, hslot, hshows⟩ := h.slots o' (hmem _ ho')
    exact ⟨slot, hslot, hshows.congr (fun t => Holds.congr (htaken t) (hfate t)) fun t _ => hchild t⟩

theorem Accounts.place_lt (h : Accounts place past table) (ho : o ∈ .process :: origins past) :
    place o < table.slots.length := by
  obtain ⟨slot, hslot, -⟩ := h.slots o ho
  exact (List.getElem?_eq_some_iff.mp hslot).1

/-- The slot that the next guard would found has no guard yet. -/
theorem Accounts.ne_next_own (h : Accounts place past table) (ho : o ∈ .process :: origins past) :
    o ≠ .own (origins past).length := by
  rintro rfl
  rcases List.mem_cons.mp ho with hne | hknown
  · cases hne
  · exact absurd (h.young _ hknown) (Nat.lt_irrefl _)

/-- A guard on a slot that is made for it. -/
theorem Accounts.founds (h : Accounts place past table) :
    ∃ place', Accounts place' ((.new, a) :: past) (table.perform .new).2 := by
  have hplace : ∀ o ∈ .process :: origins past,
      Function.update place (.own (origins past).length) table.slots.length o = place o :=
    fun o ho => Function.update_of_ne (h.ne_next_own ho) _ _
  have hmem : ∀ o, o ∈ .process :: origins ((.new, a) :: past) →
      o ∈ .process :: origins past ∨ o = .own (origins past).length := by
    intro o ho
    simpa only [origins, List.mem_cons, List.mem_append, List.not_mem_nil, or_false, or_assoc] using ho
  refine ⟨Function.update place (.own (origins past).length) table.slots.length, ?_⟩
  constructor
  case guards =>
    have hmap : (origins past).map
        (Function.update place (.own (origins past).length) table.slots.length) =
        (origins past).map place :=
      List.map_congr_left fun o ho => hplace o (List.mem_cons_of_mem _ ho)
    simp [perform, addGuard, origins, hmap, h.guards]
  case process => exact (hplace _ List.mem_cons_self).trans h.process
  case young =>
    intro k hk
    simp only [origins, List.length_append, List.length_singleton]
    rcases hmem _ (List.mem_cons_of_mem _ hk) with hk | hk
    · rcases List.mem_cons.mp hk with hne | hk
      · cases hne
      · exact Nat.lt_succ_of_lt (h.young k hk)
    · obtain rfl := Origin.own.inj hk
      exact Nat.lt_succ_self _
  case apart =>
    intro o₁ h₁ o₂ h₂ heq
    rcases hmem o₁ h₁ with h₁ | rfl <;> rcases hmem o₂ h₂ with h₂ | rfl
    · rw [hplace o₁ h₁, hplace o₂ h₂] at heq
      exact h.apart o₁ h₁ o₂ h₂ heq
    · rw [hplace o₁ h₁, Function.update_self] at heq
      exact absurd (heq ▸ h.place_lt h₁) (Nat.lt_irrefl _)
    · rw [hplace o₂ h₂, Function.update_self] at heq
      exact absurd (heq ▸ h.place_lt h₂) (Nat.lt_irrefl _)
    · rfl
  case tokens =>
    intro t
    show table.tokens[t]? = (takenFrom? past t).map _
    rw [h.tokens t]
    cases ht : takenFrom? past t with
    | none => rfl
    | some o => exact congrArg some (congrArg (GuardToken.mk · _)
        (hplace o (List.mem_cons_of_mem _ (h.known t o ht))).symm)
  case known =>
    intro t o ht
    exact List.mem_append_left _ (h.known t o ht)
  case unborn => exact h.unborn
  case slots =>
    intro o ho
    rcases hmem o ho with ho | rfl
    · obtain ⟨slot, hslot, hshows⟩ := h.slots o ho
      refine ⟨slot, ?_, hshows.congr (fun t => Iff.rfl) fun t _ => rfl⟩
      rw [hplace o ho]
      exact (List.getElem?_append_left (h.place_lt ho)).trans hslot
    · refine ⟨.idle, ?_, .free ?_⟩
      · rw [Function.update_self]
        exact List.getElem?_concat_length
      · intro t ht
        exact absurd rfl (h.ne_next_own (List.mem_cons_of_mem _ (h.known t _ ht.1)))

/-- An operation on one slot: what it changes is on that slot. -/
theorem Accounts.changes (h : Accounts place past table) (ho : o ∈ origins past)
    (horigins : origins past' = origins past) (hguards : table'.guards = table.guards)
    (hslots : table'.slots = table.slots.set (place o) slot)
    (htokens : ∀ t, table'.tokens[t]? =
      (takenFrom? past' t).map fun o => ⟨place o, fate? past' t == some .owned⟩)
    (htaken : ∀ t, takenFrom? past' t = takenFrom? past t ∨ takenFrom? past' t = some o)
    (hunborn : ∀ t, takenFrom? past' t = none → fate? past' t = none ∧ child? past' t = none)
    (hothers : ∀ o' ≠ o, ∀ t, (Holds past' t o' ↔ Holds past t o') ∧
      (Holds past t o' → child? past' t = child? past t))
    (hshows : Shows past' o slot) : Accounts place past' table' where
  guards := by rw [hguards, horigins, h.guards]
  process := h.process
  young := horigins ▸ h.young
  apart := horigins ▸ h.apart
  tokens := htokens
  known := by
    intro t o' ht
    rw [horigins]
    rcases htaken t with hkeep | hnew
    · exact h.known t o' (hkeep ▸ ht)
    · exact Option.some.inj (hnew.symm.trans ht) ▸ ho
  unborn := hunborn
  slots := by
    intro o' ho'
    rw [horigins] at ho'
    by_cases heq : o' = o
    · subst heq
      refine ⟨slot, ?_, hshows⟩
      rw [hslots]
      exact List.getElem?_set_self (h.place_lt (List.mem_cons_of_mem _ ho))
    · obtain ⟨slot', hslot', hshows'⟩ := h.slots o' ho'
      refine ⟨slot', ?_, hshows'.congr (fun t => (hothers o' heq t).1) fun t => (hothers o' heq t).2⟩
      rw [hslots, List.getElem?_set_ne fun hplace => heq (h.apart o' ho' o (List.mem_cons_of_mem _ ho) hplace.symm)]
      exact hslot'

/-- A token that its owner parts with. What is left of its slot depends on how. -/
theorem Accounts.parts (h : Accounts place past table) (ht : takenFrom? past t = some o)
    (hfate : fate ≠ .owned)
    (hpast : origins past' = origins past ∧ takenFrom? past' = takenFrom? past ∧
      fate? past' = Function.update (fate? past) t (some fate) ∧ child? past' = child? past)
    (hguards : table'.guards = table.guards) (htokens : table'.tokens = (table.disown t).tokens)
    (hslots : table'.slots = table.slots.set (place o) slot) (hshows : Shows past' o slot) :
    Accounts place past' table' := by
  obtain ⟨horigins, htaken, hupdate, hchild⟩ := hpast
  have hkeep : ∀ t', t' ≠ t → fate? past' t' = fate? past t' := by
    intro t' hne
    rw [hupdate, Function.update_of_ne hne]
  refine h.changes (h.known t o ht) horigins hguards hslots ?_ (fun t' => .inl (congrFun htaken t')) ?_ ?_
    hshows
  case refine_1 =>
    intro t'
    rw [htokens, htaken]
    show (table.tokens.modify t _)[t']? = _
    rw [List.getElem?_modify, h.tokens t']
    by_cases hne : t' = t
    · subst hne
      simp [ht, hupdate, hfate]
    · rw [hkeep t' hne]
      simp [Ne.symm hne]
  case refine_2 =>
    intro t' hnone
    rw [htaken] at hnone
    have hne : t' ≠ t := by
      rintro rfl
      rw [ht] at hnone
      cases hnone
    rw [hkeep t' hne, hchild]
    exact h.unborn t' hnone
  case refine_3 =>
    intro o' ho' t'
    refine ⟨?_, fun _ => congrFun hchild t'⟩
    by_cases hne : t' = t
    · subst hne
      constructor <;> rintro ⟨hother, -⟩
      · rw [htaken, ht] at hother
        exact absurd (Option.some.inj hother).symm ho'
      · rw [ht] at hother
        exact absurd (Option.some.inj hother).symm ho'
    · exact Holds.congr (congrFun htaken t') (hkeep t' hne)

/-- The number that the next token gets has not been given before. -/
theorem Accounts.next_token (h : Accounts place past table) : takenFrom? past table.tokens.length = none := by
  have hnone := h.tokens table.tokens.length
  rw [List.getElem?_eq_none (Nat.le_refl _)] at hnone
  exact Option.map_eq_none_iff.mp hnone.symm

/-- Nobody holds a slot that is idle. -/
theorem Accounts.not_holds_of_idle (h : Accounts place past table) (ho : o ∈ .process :: origins past)
    (hslot : table.slots[place o]? = some .idle) (t : Nat) : ¬Holds past t o := by
  obtain ⟨slot, hat, hshows⟩ := h.slots o ho
  obtain rfl := Option.some.inj (hat.symm.trans hslot)
  generalize hidle : Slot.idle = slot at hshows
  cases hshows with
  | free hfree => exact hfree t
  | taken ht =>
    unfold takenWith at hidle
    split at hidle <;> cases hidle

/-- A token that is acquired is the only one on its slot. -/
theorem Accounts.acquires (h : Accounts place past table) (ho : (origins past)[g]? = some o)
    (hslot : table.slots[place o]? = some .idle) :
    Accounts place ((.acquire g, .token table.tokens.length) :: past)
      { table.setSlot (place o) .reserved with tokens := table.tokens ++ [⟨place o, true⟩] } := by
  have hnew := h.next_token
  have hunknown := h.unborn _ hnew
  have hkeep : ∀ t o', t ≠ table.tokens.length →
      (Holds ((.acquire g, .token table.tokens.length) :: past) t o' ↔ Holds past t o') := by
    intro t o' hne
    apply Holds.congr <;> simp [takenFrom?, fate?, Ne.symm hne]
  have hholds : Holds ((.acquire g, .token table.tokens.length) :: past) table.tokens.length o := by
    refine ⟨?_, .owned, ?_, rfl⟩ <;> simp [takenFrom?, fate?, ho]
  refine h.changes (List.mem_of_getElem? ho) rfl rfl rfl ?_ ?_ ?_ ?_ ?_
  case refine_1 =>
    intro t
    by_cases hne : t = table.tokens.length
    · subst hne
      simp [takenFrom?, fate?, ho]
    · have hold : (table.tokens ++ [⟨place o, true⟩])[t]? = table.tokens[t]? := by
        rw [List.getElem?_append]
        split
        · rfl
        · rw [List.getElem?_eq_none (by simp; omega), List.getElem?_eq_none (by omega)]
      simp only [takenFrom?, fate?, if_neg (Ne.symm hne)]
      exact hold.trans (h.tokens t)
  case refine_2 =>
    intro t
    by_cases hne : table.tokens.length = t
    · exact .inr (by simp [takenFrom?, hne, ho])
    · exact .inl (by simp [takenFrom?, hne])
  case refine_3 =>
    intro t hnone
    by_cases hne : table.tokens.length = t
    · simp [takenFrom?, hne, ho] at hnone
    · simp only [takenFrom?, if_neg hne] at hnone
      simpa only [fate?, if_neg hne, child?] using h.unborn t hnone
  case refine_4 =>
    intro o' ho' t
    refine ⟨?_, fun _ => rfl⟩
    by_cases hne : t = table.tokens.length
    · subst hne
      constructor
      · intro hother
        exact absurd (Option.some.inj (hother.1.symm.trans hholds.1)) ho'
      · intro hold
        exact nomatch hnew.symm.trans hold.1
    · exact hkeep t o' hne
  case refine_5 =>
    have honly : ∀ t, Holds ((.acquire g, .token table.tokens.length) :: past) t o →
        t = table.tokens.length := by
      intro t ht
      by_contra hne
      exact h.not_holds_of_idle (mem_known ho) hslot t ((hkeep t o hne).mp ht)
    have hshows := Shows.taken hholds honly
    rwa [show child? ((.acquire g, .token table.tokens.length) :: past) table.tokens.length = none
      from hunknown.2] at hshows

/-- A child that is noted is the one that the slot of the token shows. -/
theorem Accounts.tracks (h : Accounts place past table) (ht : takenFrom? past t = some o)
    (howned : fate? past t = some .owned) (pid : Nat) :
    Accounts place ((.track t pid, a) :: past) (table.setSlot (place o) (.tracking pid)) := by
  have hholds : Holds past t o := ⟨ht, .owned, howned, rfl⟩
  have hchild : child? ((.track t pid, a) :: past) t = some pid := if_pos ⟨rfl, howned⟩
  have hkeep : ∀ t', t' ≠ t → child? ((.track t pid, a) :: past) t' = child? past t' :=
    fun t' hne => if_neg fun heq => hne heq.1.symm
  refine h.changes (h.known t o ht) rfl rfl rfl h.tokens (fun _ => .inl rfl) ?_ ?_ ?_
  case refine_1 =>
    intro t' hnone
    have hne : t' ≠ t := by
      rintro rfl
      exact nomatch hnone.symm.trans ht
    rw [hkeep t' hne]
    exact h.unborn t' hnone
  case refine_2 =>
    intro o' ho' t'
    refine ⟨Iff.rfl, fun hother => hkeep t' ?_⟩
    rintro rfl
    exact ho' (Option.some.inj (hother.1.symm.trans ht))
  case refine_3 =>
    have hshows : Shows ((.track t pid, a) :: past) o _ := Shows.taken hholds (h.shown hholds).2
    rwa [hchild] at hshows

/-- A token that is dropped, or unwound with its owner, frees its slot. -/
theorem Accounts.releases (h : Accounts place past table) (ht : takenFrom? past t = some o)
    (howned : fate? past t = some .owned)
    (hpast : origins past' = origins past ∧ takenFrom? past' = takenFrom? past ∧
      fate? past' = Function.update (fate? past) t (some .released) ∧ child? past' = child? past) :
    Accounts place past' ((table.disown t).setSlot (place o) .idle) := by
  have hholds : Holds past t o := ⟨ht, .owned, howned, rfl⟩
  have hnext : Fate.released ≠ .owned := nofun
  refine h.parts ht hnext hpast rfl rfl rfl (.free ?_)
  obtain ⟨-, htaken, hupdate, -⟩ := hpast
  rintro t' ⟨hother, fate, hfate, hheld⟩
  rw [htaken] at hother
  rw [hupdate] at hfate
  by_cases hne : t' = t
  · subst hne
    rw [Function.update_self] at hfate
    cases hfate
    cases hheld
  · rw [Function.update_of_ne hne] at hfate
    exact hne ((h.shown hholds).2 t' ⟨hother, fate, hfate, hheld⟩)

/-- A token that is lost keeps its slot taken. -/
theorem Accounts.leaks (h : Accounts place past table) (ht : takenFrom? past t = some o)
    (howned : fate? past t = some .owned)
    (hpast : origins past' = origins past ∧ takenFrom? past' = takenFrom? past ∧
      fate? past' = Function.update (fate? past) t (some .leaked) ∧ child? past' = child? past) :
    Accounts place past' (table.disown t) := by
  have hholds : Holds past t o := ⟨ht, .owned, howned, rfl⟩
  obtain ⟨hslot, honly⟩ := h.shown hholds
  have hset : table.slots = table.slots.set (place o) (takenWith (child? past t)) := by
    obtain ⟨hlt, hget⟩ := List.getElem?_eq_some_iff.mp hslot
    rw [← hget, List.set_getElem_self]
  have hnext : Fate.leaked ≠ .owned := nofun
  refine h.parts ht hnext hpast rfl rfl hset ?_
  obtain ⟨-, htaken, hupdate, hchild⟩ := hpast
  rw [← hchild]
  refine .taken ⟨htaken ▸ ht, .leaked, by rw [hupdate, Function.update_self], rfl⟩ ?_
  rintro t' ⟨hother, fate, hfate, hheld⟩
  by_contra hne
  rw [htaken] at hother
  rw [hupdate, Function.update_of_ne hne] at hfate
  exact hne (honly t' ⟨hother, fate, hfate, hheld⟩)

/-- Nobody parts with a token twice. -/
theorem fates_of_not_owned (h : fate? past t ≠ some .owned) (fate : Fate) (t' : Nat) :
    (if t = t' then Fate.part fate (fate? past t') else fate? past t') = fate? past t' := by
  split
  · rename_i heq
    exact Fate.part_of_not_owned (heq ▸ h)
  · rfl

theorem fates_of_owned (h : fate? past t = some .owned) (fate : Fate) :
    (fun t' => if t = t' then Fate.part fate (fate? past t') else fate? past t') =
      Function.update (fate? past) t (some fate) := by
  funext t'
  by_cases heq : t' = t
  · subst heq
    simp [Fate.part, h]
  · simp [heq, Ne.symm heq]

/-- One operation leads from an account to the next. -/
theorem Accounts.next (h : Accounts place past table) (op : Operation)
    (hguards : ∀ g ∈ op.guards, g < table.guards.length) :
    ∃ place', Accounts place' ((op, (table.perform op).1) :: past) (table.perform op).2 := by
  cases op with
  | new => exact h.founds
  | clone g =>
    obtain ⟨o, ho⟩ := h.exists_origin (hguards g List.mem_cons_self)
    refine ⟨place, ?_⟩
    simp only [perform, addGuard, h.guard_at ho, Option.getD_some]
    exact h.joins (mem_known ho) (by simp [origins, ho]) (fun _ => rfl) (fun _ => rfl) fun _ => rfl
  | global =>
    refine ⟨place, ?_⟩
    have hjoins : Accounts place ((.global, (table.perform .global).1) :: past) _ :=
      h.joins List.mem_cons_self rfl (fun _ => rfl) (fun _ => rfl) fun _ => rfl
    rwa [h.process] at hjoins
  | acquire g =>
    obtain ⟨o, ho⟩ := h.exists_origin (hguards g List.mem_cons_self)
    obtain ⟨slot, hslot, -⟩ := h.slots o (mem_known ho)
    refine ⟨place, ?_⟩
    simp only [perform, acquire, h.slotOf_eq ho hslot, h.guard_at ho, Option.getD_some]
    cases slot with
    | idle => exact h.acquires ho hslot
    | reserved => exact h.congr rfl (fun _ => rfl) (fun _ => rfl) fun _ => rfl
    | tracking pid => exact h.congr rfl (fun _ => rfl) (fun _ => rfl) fun _ => rfl
  | track t pid =>
    refine ⟨place, ?_⟩
    rcases h.owned t with ⟨hnone, hne⟩ | ⟨o, ht, howned, hsome⟩
    · simp only [perform, hnone]
      refine h.congr rfl (fun _ => rfl) (fun _ => rfl) fun t' => if_neg ?_
      rintro ⟨rfl, howned⟩
      exact hne howned
    · simp only [perform, hsome]
      exact h.tracks ht howned pid
  | drop t | panic t =>
    refine ⟨place, ?_⟩
    rcases h.owned t with ⟨hnone, hne⟩ | ⟨o, ht, howned, hsome⟩
    · simp only [perform, release, hnone]
      exact h.congr rfl (fun _ => rfl) (fates_of_not_owned hne _) fun _ => rfl
    · simp only [perform, release, hsome]
      exact h.releases ht howned ⟨rfl, rfl, fates_of_owned howned _, rfl⟩
  | leak t =>
    refine ⟨place, ?_⟩
    rcases h.owned t with ⟨hnone, hne⟩ | ⟨o, ht, howned, -⟩
    · simp only [perform, disown_eq_self hnone]
      exact h.congr rfl (fun _ => rfl) (fates_of_not_owned hne _) fun _ => rfl
    · exact h.leaks ht howned ⟨rfl, rfl, fates_of_owned howned _, rfl⟩
  | same g g' => exact ⟨place, h.congr rfl (fun _ => rfl) (fun _ => rfl) fun _ => rfl⟩

/-! ## All operations -/

theorem Reaches.accounts (h : Reaches past table) : ∃ place, Accounts place past table := by
  induction h with
  | start => exact accounts_initial
  | next _ op hguards ih =>
    obtain ⟨place, ih⟩ := ih
    exact ih.next op hguards

/-- The number of a token is never given again, so that a lost token stays lost. -/
theorem Accounts.keeps_leaked (h : Accounts place past table)
    (ht : takenFrom? past t = some o ∧ fate? past t = some .leaked) (op : Operation) :
    takenFrom? ((op, (table.perform op).1) :: past) t = some o ∧
      fate? ((op, (table.perform op).1) :: past) t = some .leaked := by
  obtain ⟨htaken, hleaked⟩ := ht
  have hpart : ∀ t' fate,
      (if t' = t then Fate.part fate (fate? past t) else fate? past t) = some .leaked := by
    intro t' fate
    rw [hleaked]
    exact ite_self _
  cases op with
  | acquire g =>
    simp only [perform, acquire]
    cases (table.slotOf g).acquire? with
    | none => exact ⟨htaken, hleaked⟩
    | some taken =>
      have hne : table.tokens.length ≠ t := by
        rintro rfl
        exact nomatch htaken.symm.trans h.next_token
      simp only [takenFrom?, fate?, if_neg hne]
      exact ⟨htaken, hleaked⟩
  | drop t' | panic t' => exact ⟨htaken, hpart t' .released⟩
  | leak t' => exact ⟨htaken, hpart t' .leaked⟩
  | new | clone | global | track | same => exact ⟨htaken, hleaked⟩

theorem Reaches.keeps_leaked {more : History} {later : GuardTable}
    (ht : takenFrom? past t = some o ∧ fate? past t = some .leaked) (h : Reaches (more ++ past) later) :
    takenFrom? (more ++ past) t = some o ∧ fate? (more ++ past) t = some .leaked := by
  induction more generalizing later with
  | nil => exact ht
  | cons _ more ih =>
    cases h with
    | next hbefore op _ =>
      obtain ⟨place, hbefore'⟩ := hbefore.accounts
      exact hbefore'.keeps_leaked (ih hbefore) op

end ScriptExec.GuardTable
