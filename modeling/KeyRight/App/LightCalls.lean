import KeyRight.App.Bench
import KeyRight.App.LightCommands

/-!
Owns how the commands of the Matter light use its runtime: the rules for its calls, which
calls only read, and the two commands of a tick.

Does not own any property of runs.
-/

namespace KeyRight.App.LightHandler

open KeyRight.Core KeyRight.Support Program

/-- The light of a bench image on a fresh store. -/
def bench : LightHandler MemoryStore SimulatedOutput := new (Runtime.bench none) #v[0, 0, 0]

variable {K H : Type} [KvBlobStore K] [Hardware H]

/-! ### Rules -/

def operated (h : LightHandler K H) (operation : Operation) : LightHandler K H :=
  { h with runtime := h.runtime.after operation }

/-- A call of the runtime ends with its outcome. -/
theorem ends_operate_outcome {h : LightHandler K H} {operation : Operation}
    {post : Except ErrorCode Unit → LightHandler K H → Prop}
    (ends : post ((h.runtime.outcome operation).map fun _ => ()) (h.operated operation)) :
    Ends (operate operation) h post := by
  rw [operate, ends_bind, ends_focus]
  have leaves : Ends (Runtime.perform operation) h.runtime
      fun result t => result = h.runtime.outcome operation ∧ t = h.runtime.after operation :=
    ⟨rfl, rfl⟩
  refine leaves.mono fun result t reached => ?_
  obtain ⟨answered, rfl⟩ := reached
  rw [← answered] at ends
  cases result with
  | ok _ => exact ends
  | error code => exact ends

theorem ends_operate {h : LightHandler K H} {operation : Operation}
    {post : Except ErrorCode Unit → LightHandler K H → Prop}
    (every : ∀ result, post result (h.operated operation)) : Ends (operate operation) h post :=
  ends_operate_outcome (every _)

omit [KvBlobStore K] [Hardware H] in
theorem ends_reported {h : LightHandler K H}
    {post : Except ErrorCode LightState → LightHandler K H → Prop}
    (ends : post h.runtime.reported h) : Ends reported h post := by
  rw [reported, ends_bind, ends_read]
  exact (ends_ofExcept _ _ _).mpr ends

omit [KvBlobStore K] [Hardware H] in
theorem ends_acknowledged {h : LightHandler K H}
    {post : Except ErrorCode LightState → LightHandler K H → Prop}
    (ends : post h.runtime.acknowledged h) : Ends acknowledged h post := by
  rw [acknowledged, ends_bind, ends_read]
  exact (ends_ofExcept _ _ _).mpr ends

omit [KvBlobStore K] [Hardware H] in
theorem reported_keeps (invariant : LightHandler K H → Prop) : Keeps reported invariant :=
  keeps_bind (keeps_read id) fun h => keeps_ofExcept h.runtime.reported

omit [KvBlobStore K] [Hardware H] in
theorem acknowledged_keeps (invariant : LightHandler K H → Prop) : Keeps acknowledged invariant :=
  keeps_bind (keeps_read id) fun h => keeps_ofExcept h.runtime.acknowledged

omit [KvBlobStore K] [Hardware H] in
theorem executes_keeps (options : LightHandler K H → UInt8) (withOnOff : Bool) (mask override : UInt8)
    (invariant : LightHandler K H → Prop) : Keeps (executes options withOnOff mask override) invariant := by
  refine keeps_ite (fun _ => keeps_pure true) fun _ => ?_
  refine keeps_bind (reported_keeps invariant) fun state => ?_
  refine keeps_ite (fun _ => keeps_pure true) fun _ => ?_
  refine keeps_bind (keeps_read id) fun h => ?_
  exact keeps_ite (fun _ => keeps_pure _) fun _ => keeps_pure _

omit [KvBlobStore K] [Hardware H] in
/-- What keeps every invariant ends in the same state, with its own result. -/
theorem ends_of_keeps {α : Type} {call : Action K H α} {h : LightHandler K H}
    {post : Except ErrorCode α → LightHandler K H → Prop}
    (keeps : ∀ invariant, Keeps call invariant) (ends : post (call.start h).1 h) :
    Ends call h post := by
  have same : (call.start h).2 = h := keeps (fun t => t = h) h rfl
  unfold Ends
  rw [same]
  exact ends

omit [KvBlobStore K] [Hardware H] in
/-- A command that executes, or leaves the light alone. -/
theorem ends_executes {h : LightHandler K H} {options : LightHandler K H → UInt8} {withOnOff : Bool}
    {mask override : UInt8} {call : Action K H Unit}
    {post : Except ErrorCode Unit → LightHandler K H → Prop}
    (idle : (start (executes options withOnOff mask override) h).1 ≠ .ok true → ∀ result, post result h)
    (ends : (start (executes options withOnOff mask override) h).1 = .ok true → Ends call h post) :
    Ends (do if ← executes options withOnOff mask override then call else pure ()) h post := by
  rw [ends_bind]
  refine ends_of_keeps (executes_keeps options withOnOff mask override) ?_
  cases answer : (start (executes options withOnOff mask override) h).1 with
  | error code => exact idle (by simp [answer]) _
  | ok executed =>
      cases executed with
      | false => exact idle (by simp [answer]) _
      | true => exact ends answer

/-- A Stop that has a ramp to stop or executes, or leaves the light alone. -/
theorem ends_stops {h : LightHandler K H} {withOnOff : Bool} {mask override : UInt8}
    {post : Except ErrorCode Unit → LightHandler K H → Prop} (idle : ∀ result, post result h)
    (ends : h.runtime.levelRemainingMs ≠ 0 ∨
        (start (executeLevel withOnOff mask override) h).1 = .ok true →
      Ends (do
        edit changed
        operate .stopLevelTransition
        let h ← Program.read id
        edit fun h => { h with coupledTemperature := false }
        if h.coupledTemperature then operate .stopTemperatureTransition) h post) :
    Ends (stopLevel withOnOff mask override) h post := by
  rw [stopLevel, ends_bind, ends_read]
  change Ends _ h _
  by_cases running : h.runtime.levelRemainingMs ≠ 0
  · rw [id_eq, if_pos running]
    exact ends (.inl running)
  · rw [id_eq, if_neg running]
    exact ends_executes (fun _ => idle) fun answer => ends (.inr answer)

/-! ### Ticks -/

theorem powerOff_runtime {h : LightHandler K H} :
    Ends (power false) h fun _ t => t.runtime = h.runtime.after (.setPower false) := by
  simp only [power, edit, ends_bind, ends_update, Bool.false_eq_true, if_false]
  exact ends_operate fun _ => rfl

/-- A tick leaves the runtime alone or ends a countdown with an Off. -/
theorem tick_runtime (h : LightHandler K H) (deciseconds : UInt16) :
    Ends (tick deciseconds) h fun _ t => t.runtime = h.runtime ∨
      h.timed = true ∧ saturatingSub h.onTime deciseconds = 0 ∧
        t.runtime = h.runtime.after (.setPower false) := by
  simp only [tick, edit, ends_bind, ends_ite, ends_read, ends_update, ends_pure, ends_attempt, id_eq]
  refine ⟨fun _ => .inl trivial, fun timed => ⟨fun on => ⟨fun ended => ?_, fun _ => .inl rfl⟩, fun _ => .inl rfl⟩⟩
  refine powerOff_runtime.mono fun _ t runtime => .inr ⟨by simpa using timed, ended, runtime⟩

end KeyRight.App.LightHandler
