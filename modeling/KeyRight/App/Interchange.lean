import KeyRight.App.Synchronous

/-!
Owns output adapters that a runtime cannot tell apart. Where every call on one of them
succeeds exactly when it does on the other, the runtimes over them answer alike and agree on
the store, the time and every field of the state but the adapter itself.

Does not own any concrete adapter.
-/

namespace KeyRight.App

open KeyRight.Core KeyRight.Support

variable {K H A : Type}

/-! ### Runtimes over two adapters -/

/-- The same state over another adapter. -/
def State.withHardware (s : State H) (hardware : A) : State A := { s with hardware := hardware }

/-- Adapters whose calls succeed and fail together while they are related, as every
shutdown leaves them. Register contents are related by `reads`. -/
structure Interchangeable [Hardware H] [Hardware A] (related : H → A → Prop)
    (reads : Vector UInt8 24 → Vector UInt8 24 → Prop) : Prop where
  shutdown : ∀ left right,
    (Hardware.shutdown left).1.isOk = (Hardware.shutdown right).1.isOk ∧
      related (Hardware.shutdown left).2 (Hardware.shutdown right).2
  applyFrame : ∀ left right frame, related left right →
    (LightOutput.applyFrame left frame).1.isOk = (LightOutput.applyFrame right frame).1.isOk ∧
      related (LightOutput.applyFrame left frame).2 (LightOutput.applyFrame right frame).2
  verifyFrame : ∀ left right frame, related left right →
    (Hardware.verifyFrame left frame).1.isOk = (Hardware.verifyFrame right frame).1.isOk ∧
      related (Hardware.verifyFrame left frame).2 (Hardware.verifyFrame right frame).2
  registers : ∀ left right, related left right →
    Answers reads (Hardware.registers left).1 (Hardware.registers right).1 ∧
      related (Hardware.registers left).2 (Hardware.registers right).2

/-- The runtimes agree but for their related adapters and their traces. -/
structure Mirrors (related : H → A → Prop) (r : Runtime K H) (t : Runtime K A) : Prop where
  kv : t.kv = r.kv
  now : t.now = r.now
  state : t.state = r.state.withHardware t.state.hardware
  adapters : related r.state.hardware t.state.hardware

theorem Mirrors.synchronous {related : H → A → Prop} {r : Runtime K H} {t : Runtime K A}
    (mirrors : Mirrors related r t) : Synchronous Eq related r t := by
  have revisions : r.state.revision = t.state.revision := by
    rw [mirrors.state]
    rfl
  refine ⟨mirrors.kv, mirrors.now, ?_, revisions, mirrors.adapters⟩
  rw [← revisions]
  exact mirrors.state

theorem Synchronous.mirrors {related : H → A → Prop} {r : Runtime K H} {t : Runtime K A}
    (together : Synchronous Eq related r t) : Mirrors related r t := by
  refine ⟨together.kv, together.now, ?_, together.adapters⟩
  have same := together.state
  rw [← together.counted] at same
  exact same

theorem Interchangeable.corresponding [Hardware H] [Hardware A] {related : H → A → Prop}
    {reads : Vector UInt8 24 → Vector UInt8 24 → Prop} (same : Interchangeable related reads) :
    Corresponding Eq related reads where
  revisions := fun _ _ equal => congrArg (· + 1) equal
  shutdown := fun left right _ => same.shutdown left right
  applyFrame := same.applyFrame
  verifyFrame := same.verifyFrame
  registers := same.registers

namespace Runtime

variable {related : H → A → Prop} {reads : Vector UInt8 24 → Vector UInt8 24 → Prop}

section

variable [KvBlobStore K] [Hardware H] [Hardware A] (same : Interchangeable related reads)
include same

theorem interchangeable_perform (operation : Operation) :
    Lockstep (Mirrors related) (Reply.Alike reads) (perform operation : Call K H Reply)
      (perform operation : Call K A Reply) := by
  intro r t mirrors
  obtain ⟨answers, together⟩ :=
    lockstep_perform same.corresponding operation r t mirrors.synchronous
  exact ⟨answers, together.mirrors⟩

/-- A boot starts with a shutdown, so it relates any two adapters. -/
theorem load_mirrors (kv : K) (hardware : H) (other : A) :
    Mirrors related (load kv hardware) (load kv other) := by
  obtain ⟨together, adapters⟩ := same.shutdown hardware other
  refine ⟨rfl, rfl, ?_, adapters⟩
  simp only [load, together]
  rfl

theorem run_interchangeable (kv : K) (hardware : H) (other : A) (operations : List Operation) :
    Mirrors related (run (load kv hardware) operations) (run (load kv other) operations) :=
  runAll_related (fun r t operation mirrors => (interchangeable_perform same operation r t mirrors).2)
    (load_mirrors same kv hardware other) operations

end

end Runtime

end KeyRight.App
