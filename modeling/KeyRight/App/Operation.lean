import KeyRight.App.Runtime
import KeyRight.Support.Run

/-!
Owns the operations of the light runtime as data, their execution, and runs: the
states that a list of operations reaches from a boot.

Does not own any property of runs.
-/

namespace KeyRight.App

open KeyRight.Core KeyRight.Support

/-- The public calls of the runtime that can change it. -/
inductive Operation where
  | tick (now : Nat)
  | request (target : LightState)
  | recallScene (target : LightState) (durationMs : Nat)
  | setPower (on : Bool)
  | setLevel (level : Level) (withOnOff : Bool)
  | setLevelTransition (level : UInt8) (withOnOff : Bool) (durationMs : Nat)
  | setLevelRate (level : UInt8) (withOnOff : Bool) (durationMs : Nat)
  | setTemperature (temperature : ColorTemperature)
  | setTemperatureTransition (temperature : ColorTemperature) (durationMs : Nat)
  | setTemperatureRate (temperature : ColorTemperature) (durationMs : Nat)
  | offWithEffect (effect : OffEffect)
  | stopLevelTransition
  | stopTemperatureTransition
  | setStartup (value : Option Runtime.StartUpOnOff)
  | setStartupLevel (value : Option UInt8)
  | setStartupTemperature (value : Option ColorTemperature)
  | off
  | verify
  | registers
  | prepareReboot
  | watchdogTestReady

inductive Reply where
  | done
  | registers (data : Vector UInt8 24)
  | verified (stopped : Bool)
deriving DecidableEq

namespace Runtime

variable {K H : Type} [KvBlobStore K] [Hardware H]

def done (call : Call K H Unit) : Call K H Reply := do
  call
  pure .done

def perform : Operation → Call K H Reply
  | .tick now => done (tick now)
  | .request target => done (request target)
  | .recallScene target durationMs => done (recallScene target durationMs)
  | .setPower on => done (setPower on)
  | .setLevel level withOnOff => done (setLevel level withOnOff)
  | .setLevelTransition level withOnOff durationMs =>
      done (setLevelTransition level withOnOff durationMs)
  | .setLevelRate level withOnOff durationMs => done (setLevelRate level withOnOff durationMs)
  | .setTemperature temperature => done (setTemperature temperature)
  | .setTemperatureTransition temperature durationMs =>
      done (setTemperatureTransition temperature durationMs)
  | .setTemperatureRate temperature durationMs => done (setTemperatureRate temperature durationMs)
  | .offWithEffect effect => done (offWithEffect effect)
  | .stopLevelTransition => done stopLevelTransition
  | .stopTemperatureTransition => done stopTemperatureTransition
  | .setStartup value => done (setStartup value)
  | .setStartupLevel value => done (setStartupLevel value)
  | .setStartupTemperature value => done (setStartupTemperature value)
  | .off => done off
  | .verify => done verify
  | .registers => do
      let data ← registers
      pure (.registers data)
  | .prepareReboot => do
      let stopped ← prepareReboot
      pure (.verified stopped)
  | .watchdogTestReady => done watchdogTestReady

/-- The state that an operation leaves. -/
def after (r : Runtime K H) (operation : Operation) : Runtime K H :=
  ((perform operation).start r).2

/-- What an operation returns. -/
def outcome (r : Runtime K H) (operation : Operation) : Except ErrorCode Reply :=
  ((perform operation).start r).1

def run (r : Runtime K H) (operations : List Operation) : Runtime K H :=
  runAll after r operations

/-- The outside calls of one operation, newest first. -/
def events (r : Runtime K H) (operation : Operation) : List (Event K H) :=
  (r.after operation).trace.take ((r.after operation).trace.length - r.trace.length)

/-- What an operation adds to the trace is what it called. -/
theorem events_eq {r : Runtime K H} {operation : Operation} {added : List (Event K H)}
    (logged : (r.after operation).trace = added ++ r.trace) : r.events operation = added := by
  simp [events, logged]

/-- Some run from a boot on this store and adapter leads here. -/
def Reachable (r : Runtime K H) : Prop :=
  ∃ kv hardware operations, r = run (load kv hardware) operations

theorem Reachable.load (kv : K) (hardware : H) : (load kv hardware).Reachable :=
  ⟨kv, hardware, [], rfl⟩

theorem Reachable.after {r : Runtime K H} (reachable : r.Reachable) (operation : Operation) :
    (r.after operation).Reachable := by
  obtain ⟨kv, hardware, operations, rfl⟩ := reachable
  refine ⟨kv, hardware, operations ++ [operation], ?_⟩
  rw [run, run, runAll_append]
  rfl

theorem Reachable.run {r : Runtime K H} (reachable : r.Reachable) (operations : List Operation) :
    (r.run operations).Reachable :=
  runAll_invariant (fun _ operation sofar => sofar.after operation) reachable operations

/-- What every boot establishes and every operation preserves holds of every
reachable state. -/
theorem Reachable.invariant {r : Runtime K H} (reachable : r.Reachable)
    {holds : Runtime K H → Prop} (boot : ∀ kv hardware, holds (Runtime.load kv hardware))
    (step : ∀ r operation, holds r → holds (r.after operation)) : holds r := by
  obtain ⟨kv, hardware, operations, rfl⟩ := reachable
  exact runAll_invariant (fun r operation sofar => step r operation sofar) (boot kv hardware)
    operations

end Runtime

end KeyRight.App
