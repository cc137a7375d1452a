-- SUMMARY: A call depends on nothing but the bytes of the arguments that its builtin reads.
import ScriptExec.Proofs.Builtin.Handles
import ScriptExec.Proofs.Launch.Requests
import ScriptExec.Proofs.Value.Forms

/-!
# Byte forms of arguments

All that a builtin reads of an argument is its byte form: `null`, an array and an argument that is not given
have none, and texts and integers are read off it. Only `argv` is asked for as an array, of which the byte
forms of the slots count and whether there are named entries. So calls whose arguments have the same forms
are the same call (`call_of_same_forms`).
-/

namespace ScriptExec

/-! ## Parameters -/

/-- Where a builtin looks for an argument. -/
inductive Parameter
  | position (i : Nat)
  | name (key : String)
  deriving DecidableEq, Repr

namespace CallArgs

/-- What is given for a parameter, `null` included. -/
def value? (args : CallArgs) : Parameter → Option Value
  | .position i => args.positional[i]?
  | .name key => args.named.find? key

/-- The byte form of what is given for a parameter. -/
def bytes? (args : CallArgs) (p : Parameter) : Option Bytes :=
  (args.value? p).bind Value.toBytes?

variable {args args' : CallArgs}

/-- What counts as not given has no byte form anyway. -/
theorem bind_given {α : Type} (v : Option Value) (f : Bytes → α) :
    (v.bind given).bind (fun v => v.toBytes?.map f) = (v.bind Value.toBytes?).map f := by
  rcases v with _ | (_ | _ | _ | _ | _) <;> rfl

theorem textByName?_eq (args : CallArgs) (key : String) :
    args.textByName? key = (args.bytes? (.name key)).map Utf8.decodeLossy := by
  rw [textByName?, byName?, funext Value.toText?_eq]
  exact bind_given _ _

theorem textByNum?_eq (args : CallArgs) (i : Nat) :
    args.textByNum? i = (args.bytes? (.position i)).map Utf8.decodeLossy := by
  rw [textByNum?, byNum?, funext Value.toText?_eq]
  exact bind_given _ _

theorem bytesByName?_eq (args : CallArgs) (key : String) :
    args.bytesByName? key = args.bytes? (.name key) := by
  rw [bytesByName?, byName?, bytes?, value?]
  rcases args.named.find? key with _ | (_ | _ | _ | _ | _) <;> rfl

theorem intByName_eq (args : CallArgs) (key : String) (default : Int64) :
    args.intByName key default = ((args.bytes? (.name key)).map Value.leadingInt).getD default := by
  rw [intByName, byName?, funext Value.toInt?_eq]
  exact congrArg (·.getD default) (bind_given _ _)

theorem intByNum_eq (args : CallArgs) (i : Nat) (default : Int64) :
    args.intByNum i default = ((args.bytes? (.position i)).map Value.leadingInt).getD default := by
  rw [intByNum, byNum?, funext Value.toInt?_eq]
  exact congrArg (·.getD default) (bind_given _ _)

end CallArgs

/-! ## What a builtin reads -/

/-- The parameters of which a builtin reads the byte form. -/
def Builtin.reads : Builtin → List Parameter
  | .pread => [.name "cmd", .name "cd", .name "drop_privileges_user"]
  | .findInPath | .fread | .unlink | .fileStat | .fileClose => [.position 0]
  | .fwrite => [.name "data", .name "file"]
  | .getTmpDir => []
  | .fileOpen => [.name "name", .name "mode"]
  | .fileRead => [.name "fp", .name "length"]
  | .fileWrite => [.name "fp", .name "data"]
  | .fileSeek => [.name "fp", .name "offset"]

/-- What is given for `argv` in two calls comes to the same. -/
inductive SameArgv : Option Value → Option Value → Prop
  /-- Neither is given; `null` counts as not given. -/
  | missing {v v'} (h : v.bind CallArgs.given = none) (h' : v'.bind CallArgs.given = none) : SameArgv v v'
  /-- Both are arrays whose slots have the same byte forms, and both have named entries, or neither has. -/
  | array {a a' : ScriptArray}
      (hslots : ∀ i, (a.get? i).bind Value.toBytes? = (a'.get? i).bind Value.toBytes?)
      (hnamed : a.hasNamed = a'.hasNamed) : SameArgv (some (.ofArray a)) (some (.ofArray a'))
  /-- Both are of the same type, which is not that of arrays. -/
  | wrong {v v' : Value} (h : v.asArray? = none) (htype : v.typeName = v'.typeName) :
      SameArgv (some v) (some v')

/-- Two calls of a builtin give it arguments of the same forms, as far as it reads them. -/
structure SameForms (builtin : Builtin) (args args' : CallArgs) : Prop where
  bytes : ∀ p ∈ builtin.reads, args.bytes? p = args'.bytes? p
  argv : builtin = .pread → SameArgv (args.value? (.name "argv")) (args'.value? (.name "argv"))

namespace SameForms

variable {builtin : Builtin} {args args' : CallArgs}

theorem text (h : SameForms builtin args args') (key : String) (hp : .name key ∈ builtin.reads) :
    args.textByName? key = args'.textByName? key := by
  rw [args.textByName?_eq, args'.textByName?_eq, h.bytes _ hp]

theorem textAt (h : SameForms builtin args args') (i : Nat) (hp : .position i ∈ builtin.reads) :
    args.textByNum? i = args'.textByNum? i := by
  rw [args.textByNum?_eq, args'.textByNum?_eq, h.bytes _ hp]

theorem data (h : SameForms builtin args args') (key : String) (hp : .name key ∈ builtin.reads) :
    args.bytesByName? key = args'.bytesByName? key := by
  rw [args.bytesByName?_eq, args'.bytesByName?_eq, h.bytes _ hp]

theorem int (h : SameForms builtin args args') (key : String) (default : Int64)
    (hp : .name key ∈ builtin.reads) : args.intByName key default = args'.intByName key default := by
  rw [args.intByName_eq, args'.intByName_eq, h.bytes _ hp]

theorem intAt (h : SameForms builtin args args') (i : Nat) (default : Int64)
    (hp : .position i ∈ builtin.reads) : args.intByNum i default = args'.intByNum i default := by
  rw [args.intByNum_eq, args'.intByNum_eq, h.bytes _ hp]

end SameForms

namespace Builtins

variable {builtin : Builtin} {args args' : CallArgs} {b : Builtins} {w : World}

/-! ## Running a program -/

/-- Arrays whose slots have the same byte forms are the same argument vector. -/
theorem toArgv_congr {a a' : ScriptArray}
    (h : ∀ i, (a.get? i).bind Value.toBytes? = (a'.get? i).bind Value.toBytes?) :
    a.toArgList.toArgv = a'.toArgList.toArgv := by
  have hjoin : ∀ (slots : List Value) (i : Nat),
      ((slots.map Value.toBytes?)[i]?).join = (slots[i]?).bind Value.toBytes? := by
    intro slots i
    rw [List.getElem?_map]
    cases slots[i]? <;> rfl
  refine ArgList.filterMap_congr fun i => ?_
  exact (hjoin a.slots i).trans ((h i).trans (hjoin a'.slots i).symm)

/-- Values of one type are arrays both, or neither. -/
theorem asArray?_of_typeName {v v' : Value} (h : v.asArray? = none) (htype : v.typeName = v'.typeName) :
    v'.asArray? = none ∧ v'.isNull = v.isNull := by
  cases v <;> cases v' <;> simp_all [Value.asArray?, Value.isNull, Value.typeName]

/-- What two calls of `pread` with arguments of the same forms ask for: the same launch, or nothing, for the
same reason. -/
theorem preadRequest_congr (h : SameForms .pread args args') :
    (∃ req req', preadRequest args = .ok req ∧ preadRequest args' = .ok req' ∧ req.SameLaunch req') ∨
      ∃ text, preadRequest args = .error text ∧ preadRequest args' = .error text := by
  have hcmd := h.text "cmd" (by simp [Builtin.reads])
  have hcd := h.int "cd" 0 (by simp [Builtin.reads])
  have huser := h.text "drop_privileges_user" (by simp [Builtin.reads])
  have hargv := h.argv rfl
  simp only [preadRequest, hcmd, hcd, huser]
  cases args'.textByName? "cmd" with
  | none => exact .inr ⟨_, rfl, rfl⟩
  | some cmd =>
    have hgiven (args : CallArgs) : args.byName? "argv" = (args.value? (.name "argv")).bind CallArgs.given :=
      rfl
    rw [hgiven args, hgiven args']
    generalize args.value? (.name "argv") = v at hargv
    generalize args'.value? (.name "argv") = v' at hargv
    cases hargv with
    | missing hv hv' =>
      rw [hv, hv']
      exact .inr ⟨_, rfl, rfl⟩
    | @array a a' hslots hnamed =>
      refine .inl ⟨_, _, rfl, rfl, rfl, rfl, rfl, toArgv_congr hslots, ?_⟩
      have hempty : a.named.isEmpty = a'.named.isEmpty := Bool.not_inj hnamed
      simpa [ScriptArray.toArgList, Named.keys] using hempty
    | @wrong v v' hv htype =>
      obtain ⟨hv', hnull⟩ := asArray?_of_typeName hv htype
      simp only [Option.bind_some, CallArgs.given, hnull]
      cases v.isNull with
      | true => exact .inr ⟨_, rfl, rfl⟩
      | false =>
        exact .inr ⟨s!"pread: argv element must be an array ({v.typeName})", by simp [hv],
          by simp [hv', htype]⟩

theorem pread_congr (h : SameForms .pread args args') (runtime : Runtime) :
    b.pread runtime args w = b.pread runtime args' w := by
  unfold pread
  rcases preadRequest_congr h with ⟨req, req', hreq, hreq', hsame⟩ | ⟨text, htext, htext'⟩
  · rw [hreq, hreq']
    dsimp only
    rw [Executor.launchBlocking_congr hsame]
  · rw [htext, htext']

/-! ## All builtins -/

theorem perform_congr (h : SameForms builtin args args') (runtime : Runtime) :
    perform builtin runtime args b w = perform builtin runtime args' b w := by
  cases builtin with
  | pread => exact pread_congr h runtime
  | findInPath | fread | unlink | fileStat =>
    have hname := h.textAt 0 (by simp [Builtin.reads])
    simp only [perform, findInPath, fread, unlink, fileStat, hname]
  | getTmpDir => rfl
  | fwrite =>
    have hdata := h.data "data" (by simp [Builtin.reads])
    have hfile := h.text "file" (by simp [Builtin.reads])
    simp only [perform, fwrite, hdata, hfile]
  | fileOpen =>
    have hname := h.text "name" (by simp [Builtin.reads])
    have hmode := h.text "mode" (by simp [Builtin.reads])
    simp only [perform, fileOpen, hname, hmode]
  | fileClose =>
    have hhandle := h.intAt 0 (-1) (by simp [Builtin.reads])
    simp only [perform, fileClose, hhandle]
  | fileRead =>
    have hhandle := h.int "fp" (-1) (by simp [Builtin.reads])
    have hlength := h.int "length" 0 (by simp [Builtin.reads])
    simp only [perform, fileRead, hhandle, hlength]
  | fileWrite =>
    have hhandle := h.int "fp" (-1) (by simp [Builtin.reads])
    have hdata := h.data "data" (by simp [Builtin.reads])
    simp only [perform, fileWrite, hhandle, hdata]
  | fileSeek =>
    have hhandle := h.int "fp" (-1) (by simp [Builtin.reads])
    have hoffset := h.int "offset" 0 (by simp [Builtin.reads])
    simp only [perform, fileSeek, hhandle, hoffset]

/-- Calls of one builtin with arguments of the same forms have the same value and leave the same context and
the same world, what was reported included. -/
theorem call_of_same_forms (name : String) (args args' : CallArgs)
    (h : ∀ builtin, Builtin.ofName? name = some builtin → SameForms builtin args args')
    (b : Builtins) (runtime : Runtime) (w : World) :
    b.call name runtime args w = b.call name runtime args' w := by
  cases hname : Builtin.ofName? name with
  | none => rw [call_of_unknown hname, call_of_unknown hname]
  | some builtin =>
    rw [call_of_name hname, call_of_name hname]
    exact perform_congr (h builtin hname) runtime

/-- Numbers or their digits, texts or their bytes, `null` or nothing: a program is run in the same way. -/
theorem call_of_same_forms_of_pread :
    let w : World := .initial (utf8 "/w") []
    let args : CallArgs :=
      { named := [("argv", .array [.int (-42), .null, .str "x"] [("a", .null)]), ("cd", .str "1"),
          ("cmd", .str "sh"), ("drop_privileges_user", .null)] }
    let args' : CallArgs :=
      { positional := [.int 7]
        named := [("argv", .array [.str "-42", .array [.int 1] [], .data [0x78], .null] [("b", .int 1)]),
          ("cd", .int 1), ("cmd", .data [0x73, 0x68])] }
    (∀ builtin, Builtin.ofName? "pread" = some builtin → SameForms builtin args args') ∧
      call "pread" .outside args {} w = call "pread" .outside args' {} w := by
  intro w args args'
  have hsame : SameForms .pread args args' := by
    refine ⟨?_, fun _ => ?_⟩
    · have hforms : ∀ p ∈ Builtin.pread.reads, args.bytes? p = args'.bytes? p := by decide +kernel
      exact hforms
    · refine @SameArgv.array ⟨[.int (-42), .null, .str "x"], [("a", .null)]⟩
        ⟨[.str "-42", .array [.int 1] [], .data [0x78], .null], [("b", .int 1)]⟩ ?_ rfl
      rintro (_ | _ | _ | _ | i) <;> first | rfl | decide +kernel
  have h : ∀ builtin, Builtin.ofName? "pread" = some builtin → SameForms builtin args args' := by
    intro builtin hname
    cases (Builtins.ofName?_name .pread).symm.trans hname
    exact hsame
  exact ⟨h, call_of_same_forms "pread" args args' h {} .outside w⟩

end Builtins

end ScriptExec
