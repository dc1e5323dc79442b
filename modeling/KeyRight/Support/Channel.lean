import KeyRight.Support.Run
import Mathlib.Data.List.Induction

/-!
Owns bounded first-in first-out channels, and the law of machines that hand on what they are
given in the order in which they are given it.

Does not own any concrete message or machine.
-/

namespace KeyRight.Support

/-! ### Channels -/

/-- A queue of at most so many items, the oldest first. -/
structure Channel (α : Type) (capacity : Nat) where
  items : List α
  bounded : items.length ≤ capacity

namespace Channel

variable {α : Type} {capacity : Nat}

def empty : Channel α capacity := ⟨[], Nat.zero_le _⟩

def trySend (channel : Channel α capacity) (item : α) : Option (Channel α capacity) :=
  if room : channel.items.length < capacity then
    some ⟨channel.items ++ [item], by
      rw [List.length_append]
      exact room⟩
  else none

def tryReceive : Channel α capacity → Option (α × Channel α capacity)
  | ⟨[], _⟩ => none
  | ⟨item :: rest, bounded⟩ => some (item, ⟨rest, Nat.le_of_succ_le bounded⟩)

@[simp] theorem items_empty : (empty : Channel α capacity).items = [] := rfl

theorem items_of_trySend {channel sent : Channel α capacity} {item : α}
    (accepted : channel.trySend item = some sent) : sent.items = channel.items ++ [item] := by
  unfold trySend at accepted
  split at accepted
  · cases accepted
    rfl
  · cases accepted

/-- Only a full channel refuses. -/
theorem full_of_trySend {channel : Channel α capacity} {item : α}
    (refused : channel.trySend item = none) : channel.items.length = capacity := by
  unfold trySend at refused
  split at refused
  · cases refused
  · next crowded => exact Nat.le_antisymm channel.bounded (Nat.not_lt.mp crowded)

theorem items_of_tryReceive {channel rest : Channel α capacity} {item : α}
    (received : channel.tryReceive = some (item, rest)) : channel.items = item :: rest.items := by
  obtain ⟨items, bounded⟩ := channel
  cases items with
  | nil => cases received
  | cons first others =>
      cases received
      rfl

theorem empty_of_tryReceive {channel : Channel α capacity} (idle : channel.tryReceive = none) :
    channel.items = [] := by
  obtain ⟨items, bounded⟩ := channel
  cases items with
  | nil => rfl
  | cons first others => cases idle

end Channel

/-! ### Handing on in order -/

section

variable {σ ι β γ : Type} (step : σ → ι → σ × β)

theorem yielded_append (yields : β → List γ) (start : σ) (first second : List ι) :
    yielded step yields start (first ++ second) =
      yielded step yields start first ++ yielded step yields (stateAfter step start first) second := by
  induction second using List.reverseRecOn with
  | nil => simp only [List.append_nil, yielded, transcript, List.flatMap_nil]
  | append_singleton second input inductionHypothesis =>
      rw [← List.append_assoc, yielded_concat, yielded_concat, inductionHypothesis,
        stateAfter_append, List.append_assoc]

variable (contents : σ → List γ) (taken given : β → List γ)

/-- What a step takes in goes behind the contents, and what it gives leaves from their front. -/
def HandsOn : Prop :=
  ∀ state input, contents state ++ taken (step state input).2 =
    given (step state input).2 ++ contents (step state input).1

variable {step contents taken given}

/-- Along a run nothing is lost, repeated or overtaken. -/
theorem HandsOn.run (inOrder : HandsOn step contents taken given) (start : σ) (inputs : List ι) :
    contents start ++ yielded step taken start inputs =
      yielded step given start inputs ++ contents (stateAfter step start inputs) := by
  induction inputs using List.reverseRecOn with
  | nil => exact List.append_nil _
  | append_singleton inputs input inductionHypothesis =>
      rw [yielded_concat, yielded_concat, stateAfter_concat, ← List.append_assoc,
        inductionHypothesis, List.append_assoc, inOrder, List.append_assoc]

theorem HandsOn.run_of_empty (inOrder : HandsOn step contents taken given) {start : σ}
    (empty : contents start = []) (inputs : List ι) :
    yielded step taken start inputs =
      yielded step given start inputs ++ contents (stateAfter step start inputs) := by
  rw [← inOrder.run, empty, List.nil_append]

end

end KeyRight.Support
