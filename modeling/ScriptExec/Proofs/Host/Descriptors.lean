-- SUMMARY: What the calls of a process do to its open files: one descriptor at a time.
import Mathlib
import ScriptExec.Host.System
import ScriptExec.Proofs.Lookup

/-!
# Descriptors

Open files are kept by ascending descriptor. A file that is opened gets a descriptor under which there
was no file, as long as all of them are numbered from the first one on (`System.WellNumbered`,
`System.openFile_ok`). Reading, writing and seeking only move the position of the file they are about.
-/

namespace ScriptExec.Host

open Entries (lookup_entry lookup_filter_ne)

/-- A file as it is right after it was opened. -/
def OpenOptions.file (options : OpenOptions) (node : NodeId) : OpenFile :=
  { node, readable := options.read, writable := options.write || options.append
    append := options.append, offset := 0 }

namespace System

/-! ## Lists of open files -/

section

variable {d e : Nat} {file : OpenFile} {files : List (Nat × OpenFile)} {entry : Nat × OpenFile}

theorem lookup_insertDescriptor :
    (insertDescriptor d file files).lookup e = if e = d then some file else files.lookup e := by
  induction files with
  | nil => exact lookup_entry
  | cons first rest ih =>
    unfold insertDescriptor
    split
    · exact lookup_entry
    · split
      · rename_i hfirst
        rw [lookup_entry, lookup_entry, ← hfirst]
        split <;> rfl
      · rename_i hfirst
        rw [lookup_entry, lookup_entry, ih]
        by_cases he : e = d
        · subst he
          rw [if_neg hfirst, if_pos rfl, if_pos rfl]
        · rw [if_neg he, if_neg he]

theorem mem_insertDescriptor (h : entry ∈ insertDescriptor d file files) :
    entry = (d, file) ∨ entry ∈ files := by
  induction files with
  | nil => exact .inl (List.mem_singleton.mp h)
  | cons first rest ih =>
    unfold insertDescriptor at h
    split at h
    · exact List.mem_cons.mp h
    · split at h
      · rcases List.mem_cons.mp h with h | h
        · exact .inl h
        · exact .inr (List.mem_cons_of_mem _ h)
      · rcases List.mem_cons.mp h with h | h
        · exact .inr (h ▸ List.mem_cons_self)
        · exact (ih h).imp id (List.mem_cons_of_mem _)

theorem insertDescriptor_ascending (h : files.Pairwise fun a b => a.1 < b.1) :
    (insertDescriptor d file files).Pairwise fun a b => a.1 < b.1 := by
  induction files with
  | nil => exact List.pairwise_singleton _ _
  | cons first rest ih =>
    obtain ⟨hfirst, hrest⟩ := List.pairwise_cons.mp h
    unfold insertDescriptor
    split
    · rename_i hlt
      refine List.pairwise_cons.mpr ⟨?_, h⟩
      intro entry hentry
      rcases List.mem_cons.mp hentry with rfl | hentry
      · exact hlt
      · exact Nat.lt_trans hlt (hfirst entry hentry)
    · split
      · rename_i heq
        exact List.pairwise_cons.mpr ⟨fun entry hentry => heq ▸ hfirst entry hentry, hrest⟩
      · refine List.pairwise_cons.mpr ⟨?_, ih hrest⟩
        intro entry hentry
        rcases mem_insertDescriptor hentry with rfl | hentry
        · show first.1 < d
          omega
        · exact hfirst entry hentry

theorem le_lowestFree : d ≤ lowestFree d files := by
  induction files generalizing d with
  | nil => exact Nat.le_refl d
  | cons first rest ih =>
    unfold lowestFree
    split
    · exact Nat.le_of_succ_le ih
    · exact Nat.le_refl d

/-- The lowest free number is free. -/
theorem lookup_lowestFree (hascending : files.Pairwise fun a b => a.1 < b.1)
    (hfrom : ∀ entry ∈ files, d ≤ entry.1) : files.lookup (lowestFree d files) = none := by
  induction files generalizing d with
  | nil => rfl
  | cons first rest ih =>
    obtain ⟨hfirst, hrest⟩ := List.pairwise_cons.mp hascending
    unfold lowestFree
    split
    · rename_i heq
      have hfrom' : ∀ entry ∈ rest, d + 1 ≤ entry.1 := fun entry hentry => heq ▸ hfirst entry hentry
      have hne : lowestFree (d + 1) rest ≠ first.1 := by
        have hle : d + 1 ≤ lowestFree (d + 1) rest := le_lowestFree
        omega
      rw [List.lookup_cons, beq_eq_false_iff_ne.mpr hne]
      exact ih hrest hfrom'
    · rename_i hne
      rw [List.lookup_eq_none_iff]
      intro entry hentry
      have hle := hfrom first List.mem_cons_self
      have hlt : first.1 ≤ entry.1 := by
        rcases List.mem_cons.mp hentry with rfl | hentry
        · exact Nat.le_refl _
        · exact Nat.le_of_lt (hfirst entry hentry)
      rw [bne_iff_ne]
      omega

/-- A free descriptor that is taken and closed again leaves nothing behind. -/
theorem filter_insertDescriptor (h : files.lookup d = none) :
    (insertDescriptor d file files).filter (fun entry => entry.1 != d) = files := by
  induction files with
  | nil => simp [insertDescriptor]
  | cons first rest ih =>
    rw [List.lookup_cons] at h
    split at h
    · cases h
    · rename_i hne
      have hne' : d ≠ first.1 := beq_eq_false_iff_ne.mp hne
      have hkeep : rest.filter (fun entry => entry.1 != d) = rest := by
        rw [List.filter_eq_self]
        intro entry hentry
        have hother : d ≠ entry.1 := bne_iff_ne.mp (List.lookup_eq_none_iff.mp h entry hentry)
        exact bne_iff_ne.mpr (Ne.symm hother)
      unfold insertDescriptor
      split
      · rw [List.filter_cons_of_neg (by simp), List.filter_cons_of_pos (by simpa using Ne.symm hne'), hkeep]
      · rw [List.filter_cons_of_pos (by simpa using Ne.symm hne'), ih h]

end

/-! ## Open files of a system -/

/-- The open files and the limit on their numbers. -/
def openFiles (sys : System) : List (Nat × OpenFile) × Nat :=
  (sys.descriptors, sys.limit)

/-- The descriptors are those that files get when they are opened: they go from the first one on, and all
of them are numbers of 32 bits. -/
structure WellNumbered (sys : System) : Prop where
  ascending : sys.descriptors.Pairwise fun a b => a.1 < b.1
  first : ∀ entry ∈ sys.descriptors, firstDescriptor ≤ entry.1
  limit : sys.limit ≤ 2 ^ 31

variable {sys sys' : System} {d e : Nat} {file : OpenFile}

@[simp]
theorem file?_setFile : (sys.setFile d file).file? e = if e = d then some file else sys.file? e :=
  lookup_insertDescriptor

@[simp]
theorem file?_close : (sys.close d).file? e = if e = d then none else sys.file? e :=
  lookup_filter_ne

theorem file?_congr (h : sys'.openFiles = sys.openFiles) : sys'.file? e = sys.file? e :=
  congrArg (fun files => files.1.lookup e) h

theorem WellNumbered.congr (h : sys.WellNumbered) (hfiles : sys'.openFiles = sys.openFiles) :
    sys'.WellNumbered := by
  obtain ⟨hdescriptors, hlimit⟩ := Prod.mk.inj hfiles
  exact ⟨hdescriptors ▸ h.ascending, hdescriptors ▸ h.first, hlimit ▸ h.limit⟩

theorem WellNumbered.setFile (h : sys.WellNumbered) (hd : firstDescriptor ≤ d) :
    (sys.setFile d file).WellNumbered where
  ascending := insertDescriptor_ascending h.ascending
  first := by
    intro entry hentry
    rcases mem_insertDescriptor hentry with rfl | hentry
    · exact hd
    · exact h.first entry hentry
  limit := h.limit

theorem WellNumbered.close (h : sys.WellNumbered) : (sys.close d).WellNumbered where
  ascending := h.ascending.filter _
  first := fun entry hentry => h.first entry (List.mem_of_mem_filter hentry)
  limit := h.limit

/-- A descriptor with a file is one that files get. -/
theorem WellNumbered.le_of_file? (h : sys.WellNumbered) (hfile : sys.file? d = some file) :
    firstDescriptor ≤ d := by
  unfold file? at hfile
  by_contra hlt
  have hnone : sys.descriptors.lookup d = none := by
    refine List.lookup_eq_none_iff.mpr fun entry hentry => bne_iff_ne.mpr ?_
    have hle := h.first entry hentry
    omega
  exact nomatch hnone.symm.trans hfile

/-- A file that is opened is the one that its path leads to, under a descriptor that had no file. -/
theorem openFile_ok {path : Path} {options : OpenOptions} {mode : Nat} (h : sys.WellNumbered)
    (hopen : sys.openFile path options mode = .ok (d, sys')) :
    firstDescriptor ≤ d ∧ d < sys.limit ∧ sys.file? d = none ∧
      ∃ node tree, sys.openNode path options mode = .ok (node, tree) ∧
        sys' = { sys with tree }.setFile d (options.file node) := by
  simp only [openFile, freeDescriptor?, bind, Except.bind] at hopen
  split at hopen
  · cases hopen
  · by_cases hlimit : lowestFree firstDescriptor sys.descriptors < sys.limit
    · rw [if_pos hlimit] at hopen
      cases hnode : sys.openNode path options mode with
      | error cause =>
        rw [hnode] at hopen
        cases hopen
      | ok answer =>
        rw [hnode] at hopen
        simp only [pure, Except.pure, Except.ok.injEq, Prod.mk.injEq] at hopen
        obtain ⟨rfl, rfl⟩ := hopen
        exact ⟨le_lowestFree, hlimit, lookup_lowestFree h.ascending h.first, _, _, rfl, rfl⟩
    · rw [if_neg hlimit] at hopen
      cases hopen

/-- From one state of a system to another no more has changed about open files than the position of the
one under a descriptor. -/
inductive Moves (d : Nat) (sys sys' : System) : Prop
  | stays (hfiles : sys'.openFiles = sys.openFiles)
  | moves {file offset} (hfile : sys.file? d = some file)
      (hfiles : sys'.openFiles = (sys.setFile d { file with offset }).openFiles)

theorem Moves.wellNumbered (h : Moves d sys sys') (hsys : sys.WellNumbered) : sys'.WellNumbered := by
  cases h with
  | stays hfiles => exact hsys.congr hfiles
  | moves hfile hfiles => exact (hsys.setFile (hsys.le_of_file? hfile)).congr hfiles

theorem Moves.file?_of_ne (h : Moves d sys sys') (hne : e ≠ d) : sys'.file? e = sys.file? e := by
  cases h with
  | stays hfiles => exact file?_congr hfiles
  | moves _ hfiles => rw [file?_congr hfiles, file?_setFile, if_neg hne]

/-- The file under every descriptor stays the same file. -/
theorem Moves.file? (h : Moves d sys sys') (hfile : sys.file? e = some file) :
    ∃ offset, sys'.file? e = some { file with offset } := by
  by_cases he : e = d
  · subst he
    cases h with
    | stays hfiles => exact ⟨file.offset, (file?_congr hfiles).trans hfile⟩
    | @moves file' offset hfile' hfiles =>
      obtain rfl := Option.some.inj (hfile'.symm.trans hfile)
      refine ⟨offset, ?_⟩
      rw [file?_congr hfiles, file?_setFile, if_pos rfl]
  · exact ⟨file.offset, (h.file?_of_ne he).trans hfile⟩

/-- Reading takes a file that may be read, and moves its position. -/
theorem read_ok {n : Nat} {bytes : Bytes} (h : sys.read d n = .ok (bytes, sys')) :
    ∃ file offset, sys.file? d = some file ∧ file.readable = true ∧ sys' = sys.setFile d { file with offset } := by
  unfold System.read at h
  cases hfile : sys.file? d with
  | none =>
    rw [hfile] at h
    cases h
  | some file =>
    simp only [hfile, bind, Except.bind, pure, Except.pure] at h
    cases hreadable : file.readable with
    | false => simp [hreadable] at h
    | true =>
      simp only [hreadable, Bool.not_true, Bool.false_eq_true, if_false] at h
      split at h
      · cases h
      · cases h
        refine ⟨file, file.offset + bytes.length, rfl, hreadable, ?_⟩
        rw [hreadable]

theorem read_moves {n : Nat} {bytes : Bytes} (h : sys.read d n = .ok (bytes, sys')) : Moves d sys sys' := by
  obtain ⟨file, offset, hfile, -, rfl⟩ := read_ok h
  exact .moves hfile rfl

theorem checkWrite_ok (h : sys.checkWrite d = .ok file) : sys.file? d = some file := by
  unfold checkWrite at h
  cases hfile : sys.file? d with
  | none =>
    rw [hfile] at h
    cases h
  | some file' =>
    simp only [hfile] at h
    split at h
    · cases h
    · split at h
      · cases h
      · cases h
      · exact congrArg some (Except.ok.inj h)

theorem writeAll_moves (data : Bytes) : Moves d sys (sys.writeAll d data).2 := by
  unfold writeAll
  cases hcheck : sys.checkWrite d with
  | error cause => exact .stays rfl
  | ok file =>
    dsimp only
    split
    · exact .stays rfl
    · exact .moves (checkWrite_ok hcheck) rfl

theorem seek_ok {offset : Nat} (h : sys.seek d offset = .ok sys') :
    ∃ file, sys.file? d = some file ∧ sys' = sys.setFile d { file with offset } := by
  unfold System.seek at h
  cases hfile : sys.file? d with
  | none =>
    rw [hfile] at h
    cases h
  | some file =>
    simp only [hfile] at h
    split at h
    · cases h
    · split at h <;> cases h
      exact ⟨file, rfl, rfl⟩
    · cases h
      exact ⟨file, rfl, rfl⟩

theorem seek_moves {offset : Nat} (h : sys.seek d offset = .ok sys') : Moves d sys sys' := by
  obtain ⟨file, hfile, rfl⟩ := seek_ok h
  exact .moves hfile rfl

/-! ## Calls that have nothing to do with open files -/

theorem removeFile_openFiles {path : Path} (h : sys.removeFile path = .ok sys') :
    sys'.openFiles = sys.openFiles := by
  simp only [removeFile, bind, Except.bind, pure, Except.pure] at h
  split at h
  · cases h
  · split at h
    · cases h
    · cases h
      rfl

theorem changeDir_openFiles {path : Path} (h : sys.changeDir path = .ok sys') :
    sys'.openFiles = sys.openFiles := by
  simp only [changeDir, bind, Except.bind, pure, Except.pure] at h
  split at h
  · cases h
  · split at h
    · cases h
    · split at h
      · cases h
      · cases h
        rfl

end System

end ScriptExec.Host
