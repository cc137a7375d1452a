-- SUMMARY: The output of a launch that succeeds is what its child wrote, as one interleaving.
import ScriptExec.Proofs.Launch.Step
import ScriptExec.Proofs.Multiplexer.Delivery

/-!
# Output of launches

A launch settles on an output in one place only, where it has drained its child
(`Steps.drained_of_settled`). With what a drain delivers, the output of a launch interleaves all that its
child wrote to its two outputs (`captured_output_interleaves`).
-/

namespace ScriptExec.Launch

variable {σ κ : Type} {c : Collaborators σ κ} {launcher : Launcher} {req : Request}

/-- A launch that settles on an output has drained it from a child that it created itself. -/
theorem Steps.drained_of_settled {w : σ} {l : InFlight κ} {w' : σ} {buffer : Bytes}
    (h : Steps c launcher req {} w l w') (hsettled : l.stage.settled? = some (.ok buffer)) :
    ∃ l₁ w₁ child, Steps c launcher req {} w l₁ w₁ ∧ l₁.stage = .draining child ∧
      (launcher.multiplexer.drain (c.outputs launcher.multiplexer.chunkSize child w₁).1.a
        (c.outputs launcher.multiplexer.chunkSize child w₁).1.b
        (c.outputs launcher.multiplexer.chunkSize child w₁).1.schedule).1 = .ok buffer := by
  revert hsettled
  refine h.keeps (P := fun l _ => l.stage.settled? = some (.ok buffer) → _) ?_ ?_
  · intro l₁ w₁ l₂ w₂ hsteps ih hstep hsettled
    cases hstep with
    | drain hout hdrain =>
      refine ⟨_, _, _, hsteps, rfl, ?_⟩
      simp only [Stage.settled?, Option.some.injEq] at hsettled
      rw [hout, hdrain]
      exact hsettled
    | stay => exact ih hsettled
    | restore => exact ih hsettled
    | notRestore => exact ih hsettled
    | reportRestore => exact ih hsettled
    | release => exact ih hsettled
    | leave => exact ih hsettled
    | record => exact ih hsettled
    | _ => simp [Stage.settled?] at hsettled
  · intro hsettled
    simp [Stage.settled?] at hsettled

/-- A drain that succeeds has put together all that both readers give before their first ends, every
byte once and each reader's bytes in order; what is scripted behind a first end does not matter. The
buffer of a launch that succeeds is that of the drain of its child. -/
theorem captured_output_interleaves :
    (∀ (chunk : Nat) (a b : Reader) (schedule : Schedule) (buffer : Bytes),
      ((Multiplexer.ofChunkSize chunk).drain a b schedule).1 = .ok buffer →
        Interleaving a.yielded b.yielded buffer ∧ buffer.Perm (a.yielded ++ b.yielded) ∧
          a.yielded.Sublist buffer ∧ b.yielded.Sublist buffer ∧
          buffer.length = a.yielded.length + b.yielded.length) ∧
    (∀ (chunk : Nat) (a b behindA behindB : Reader) (schedule : Schedule) (buffer : Bytes),
      ((Multiplexer.ofChunkSize chunk).drain (a ++ .data [] :: behindA) (b ++ .data [] :: behindB)
        schedule).1 = .ok buffer → Interleaving a.yielded b.yielded buffer) ∧
    (∀ {σ κ : Type} (c : Collaborators σ κ) (launcher : Launcher) (req : Request) (w : σ)
      (buffer : Bytes), (run c launcher req w).1 = .ok buffer →
        ∃ l₁ w₁ child, Steps c launcher req {} w l₁ w₁ ∧ l₁.stage = .draining child ∧
          let outputs := (c.outputs launcher.multiplexer.chunkSize child w₁).1
          (launcher.multiplexer.drain outputs.a outputs.b outputs.schedule).1 = .ok buffer ∧
            Interleaving outputs.a.yielded outputs.b.yielded buffer) := by
  refine ⟨?_, ?_, ?_⟩
  · intro chunk a b schedule buffer h
    have hinter := Multiplexer.drain_interleaving h
    exact ⟨hinter, hinter.perm, hinter.sublist_left, hinter.sublist_right, hinter.length_eq⟩
  · intro chunk a b behindA behindB schedule buffer h
    have hinter := Multiplexer.drain_interleaving h
    rwa [Reader.yielded_append_end, Reader.yielded_append_end] at hinter
  · intro σ κ c launcher req w buffer h
    obtain ⟨last, hsteps, hstage⟩ := run_steps (c := c) w
    have hsettled : last.stage.settled? = some (.ok buffer) := by rw [hstage, h]; rfl
    obtain ⟨l₁, w₁, child, hsteps₁, hstage₁, hdrain⟩ := hsteps.drained_of_settled hsettled
    exact ⟨l₁, w₁, child, hsteps₁, hstage₁, hdrain, Multiplexer.drain_interleaving hdrain⟩

/-- Two outputs: `abc`, with a wait and an interruption in it and more behind its end, and `ABC`. -/
def sampleOutputs : Outputs where
  a := [.data (utf8 "ab"), .pending 1, .fail (.os 4), .data (utf8 "c"), .data [], .data (utf8 "z")]
  b := [.pending 0, .data (utf8 "ABC")]
  schedule := [.b, .a, .b]

theorem captured_output_interleaves_sample :
    (((Multiplexer.ofChunkSize 0).drain sampleOutputs.a sampleOutputs.b sampleOutputs.schedule).1 =
        .ok (utf8 "AaBbCc") ∧
      Interleaving (utf8 "abc") (utf8 "ABC") (utf8 "AaBbCc")) ∧
    (run (.plain sampleOutputs) {} { cmd := "/bin/id", changeDir := true } (.idle, Path.root)).1 =
        .ok (utf8 "ABCabc") ∧
      ∃ l₁ w₁ child, Steps (.plain sampleOutputs) {} { cmd := "/bin/id", changeDir := true } {}
          (.idle, Path.root) l₁ w₁ ∧ l₁.stage = .draining child := by
  have hdrain : ((Multiplexer.ofChunkSize 0).drain sampleOutputs.a sampleOutputs.b
      sampleOutputs.schedule).1 = .ok (utf8 "AaBbCc") := by decide +kernel
  have hrun : (run (.plain sampleOutputs) {} { cmd := "/bin/id", changeDir := true }
      (.idle, Path.root)).1 = .ok (utf8 "ABCabc") := by decide +kernel
  obtain ⟨l₁, w₁, child, hsteps, hstage, -⟩ := captured_output_interleaves.2.2 _ _ _ _ _ hrun
  exact ⟨⟨hdrain, (captured_output_interleaves.1 _ _ _ _ _ hdrain).1⟩, hrun, l₁, w₁, child, hsteps,
    hstage⟩

end ScriptExec.Launch
