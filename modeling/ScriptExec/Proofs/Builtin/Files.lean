-- SUMMARY: A file is replaced as a whole or not at all, at every moment and for whoever reads it.
import ScriptExec.Builtin.Files
import ScriptExec.Proofs.Executor.Calls
import ScriptExec.Proofs.Host.Replacement

/-!
# Replacing a file from a script

Whichever step of `fwrite` fails, no file and no name has changed; if none does, the target has the new content
and no other name has changed (`Builtins.Concluded`). At every moment in between, whoever reads the target
gets its old content or all of the new one (`Builtins.fwrite_all_or_nothing`).
-/

namespace ScriptExec

open Host (System FileTree)
open Host.Replacement (Moments Installed Observed Unhindered)

namespace Builtins

variable {args : CallArgs} {b : Builtins} {w : World} {data : Bytes} {name : String}

/-- How a call ends: without a value and with all files as they were, or with the number of bytes and with the
target replaced. Either way the system is left as the last step of the replacement left it. -/
inductive Concluded (sys₀ : System) (target : Path) (data : Bytes) : Option Value → System → Prop
  | failed {e sys} (last : Moments sys₀ target data (.finished (.error e)) sys)
      (h : sys₀.tree.Untouched sys.tree) : Concluded sys₀ target data none sys
  | replaced {at_ sys} (last : Moments sys₀ target data (.finished (.ok ())) sys)
      (h : Installed sys₀ target data at_ sys.tree) :
      Concluded sys₀ target data (some (.int (Int64.ofNat data.length))) sys

theorem fwrite_eq (hdata : args.bytesByName? "data" = some data) (hname : args.textByName? "file" = some name) :
    (fwrite args b w).world.sys = (w.sys.replace (utf8 name) data).2 ∧
      (fwrite args b w).value = match (w.sys.replace (utf8 name) data).1 with
        | .ok () => some (.int (Int64.ofNat data.length))
        | .error _ => none := by
  unfold fwrite
  rw [hdata, hname]
  dsimp only
  rcases w.sys.replace (utf8 name) data with ⟨e | u, sys⟩
  · exact ⟨World.tell_sys .., rfl⟩
  · exact ⟨rfl, rfl⟩

/-- A file is replaced as a whole or not at all. If any step fails there is no value, and no file and no name has
changed; if all succeed the value is the number of bytes, the target has the new content and no other name has
changed. At every moment a reader gets what was there before or all of the new content, and open files read as
before. -/
theorem fwrite_all_or_nothing (args : CallArgs) (b : Builtins) (w : World) {data : Bytes} {name : String}
    (hdata : args.bytesByName? "data" = some data) (hname : args.textByName? "file" = some name)
    (hclosed : w.sys.tree.Closed) (hcwd : w.sys.cwd < w.sys.tree.nodes.length) :
    Concluded w.sys (utf8 name) data (fwrite args b w).value (fwrite args b w).world.sys ∧
      (Unhindered w.sys (utf8 name) → (fwrite args b w).value ≠ none) ∧
      ∀ stage sys, Moments w.sys (utf8 name) data stage sys →
        Observed w.sys (utf8 name) data stage sys.tree := by
  obtain ⟨hsys, hvalue⟩ := fwrite_eq (b := b) (w := w) hdata hname
  have hlast : Moments w.sys (utf8 name) data (.finished (w.sys.replace (utf8 name) data).1)
      (w.sys.replace (utf8 name) data).2 := Moments.start.run
  rw [hsys, hvalue]
  refine ⟨?_, fun hfree => ?_, fun stage sys hmoment => (hmoment.standing hclosed hcwd).observed hclosed⟩
  · have houtcome := (hlast.standing hclosed hcwd).outcome hclosed hcwd
    generalize (w.sys.replace (utf8 name) data).1 = result at hlast houtcome
    cases houtcome with
    | failed h => exact .failed hlast h
    | replaced h => exact .replaced hlast h
  · have hresult : (w.sys.replace (utf8 name) data).1 = .ok () := hlast.smooth hfree hclosed hcwd
    rw [hresult]
    exact Option.some_ne_none _

/-- A file, and a symbolic link to it. -/
def linkedFile : World :=
  { sys :=
      { tree :=
          { nodes :=
              [⟨0o755, .directory 0 [(utf8 "f", 1), (utf8 "l", 2)] true⟩, ⟨0o644, .regular (utf8 "old")⟩,
                ⟨0o777, .symlink (utf8 "f")⟩] }
        cwd := 0, env := [], descriptors := [], limit := 1024, nextPid := 2 } }

/-- A symbolic link is replaced itself. -/
theorem fwrite_all_or_nothing_of_link :
    let w := linkedFile
    let args : CallArgs := { named := [("data", .str "new"), ("file", .str "l")] }
    args.bytesByName? "data" = some (utf8 "new") ∧ args.textByName? "file" = some "l" ∧
      w.sys.tree.Closed ∧ w.sys.cwd < w.sys.tree.nodes.length ∧ Unhindered w.sys (utf8 "l") ∧
      (fwrite args {} w).value = some (.int 3) ∧
      Installed w.sys (utf8 "l") (utf8 "new") ⟨0, utf8 "l", some 2⟩ (fwrite args {} w).world.sys.tree ∧
      ∀ stage sys, Moments w.sys (utf8 "l") (utf8 "new") stage sys →
        Observed w.sys (utf8 "l") (utf8 "new") stage sys.tree := by
  intro w args
  have hclosed : w.sys.tree.Closed := FileTree.closed_of_nodes (by decide) (by decide)
  have hplace : w.sys.targetPlace (utf8 "l") = .ok ⟨0, utf8 "l", some 2⟩ := by cbv
  have hmade : (w.sys.createTemporary (utf8 "l")).isOk = true := by cbv
  have hfree : Unhindered w.sys (utf8 "l") := by
    refine ⟨?_, fun _ hanswer => absurd hanswer List.not_mem_nil, rfl, _, hplace, by cbv, ?_⟩
    · cases hcreate : w.sys.createTemporary (utf8 "l") with
      | error e =>
        rw [hcreate] at hmade
        cases hmade
      | ok made => exact ⟨made, rfl⟩
    · rintro node ⟨⟩
      rfl
  have hdata : args.bytesByName? "data" = some (utf8 "new") := rfl
  have hname : args.textByName? "file" = some "l" := rfl
  obtain ⟨hend, hvalue, hmoments⟩ := fwrite_all_or_nothing args {} w hdata hname hclosed (by decide)
  have hvalue := hvalue hfree
  generalize (fwrite args {} w).value = value at hend hvalue
  refine ⟨hdata, hname, hclosed, by decide, hfree, ?_, ?_, hmoments⟩
  · cases hend with
    | failed => exact absurd rfl hvalue
    | replaced => rfl
  · generalize (fwrite args {} w).world.sys = sys at hend
    cases hend with
    | failed => exact absurd rfl hvalue
    | replaced last h =>
      cases h.located.symm.trans hplace
      exact h

end Builtins

end ScriptExec
