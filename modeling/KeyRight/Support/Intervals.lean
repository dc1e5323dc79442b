import Mathlib.Data.List.Chain
import Mathlib.Data.List.Pairwise
import Mathlib.Order.Lattice

/-!
Owns lists of half-open intervals: sorted by their starts, they are pairwise disjoint as soon
as no interval reaches into its right neighbour, and disjointness is blind to the order of the
list.

Does not own what the intervals stand for.
-/

namespace KeyRight.Support

variable {ι α : Type} [LinearOrder α]

section

variable (start finish : ι → α)

/-- The two intervals have no point in common. -/
def Apart (left right : ι) : Prop :=
  ∀ point, ¬((start left ≤ point ∧ point < finish left) ∧ start right ≤ point ∧ point < finish right)

/-- An interval reaches into its right neighbour. -/
def neighboursOverlap (items : List ι) : Bool :=
  (items.zip items.tail).any fun pair => decide (start pair.2 < finish pair.1)

variable {start finish}

theorem Apart.symm {left right : ι} (apart : Apart start finish left right) :
    Apart start finish right left :=
  fun point both => apart point both.symm

instance : Std.Symm (Apart start finish) := ⟨fun _ _ apart => apart.symm⟩

theorem apart_iff_le {left right : ι} (sorted : start left ≤ start right)
    (nonempty : start right < finish right) :
    Apart start finish left right ↔ finish left ≤ start right := by
  constructor
  · intro apart
    refine le_of_not_gt fun reaches => ?_
    exact apart (start right) ⟨⟨sorted, reaches⟩, le_refl _, nonempty⟩
  · rintro clears point ⟨⟨_, below⟩, above, _⟩
    exact absurd (lt_of_lt_of_le below clears) (not_lt_of_ge above)

theorem neighboursOverlap_eq_false {items : List ι} :
    neighboursOverlap start finish items = false ↔
      items.IsChain fun left right => finish left ≤ start right := by
  unfold neighboursOverlap
  induction items with
  | nil => simp
  | cons first rest inductionHypothesis =>
      cases rest with
      | nil => simp
      | cons second rest =>
          rw [List.isChain_cons_cons, ← inductionHypothesis]
          simp

/-- What the right neighbour clears, everything after it clears. -/
theorem isChain_iff_pairwise_of_sorted {items : List ι}
    (sorted : items.Pairwise fun left right => start left ≤ start right) :
    (items.IsChain fun left right => finish left ≤ start right) ↔
      items.Pairwise fun left right => finish left ≤ start right := by
  refine ⟨fun chain => ?_, List.Pairwise.isChain⟩
  induction items with
  | nil => exact .nil
  | cons first rest inductionHypothesis =>
      obtain ⟨below, sortedRest⟩ := List.pairwise_cons.mp sorted
      refine List.pairwise_cons.mpr ⟨fun other member => ?_, inductionHypothesis sortedRest chain.of_cons⟩
      cases rest with
      | nil => cases member
      | cons second rest =>
          have clears := (List.isChain_cons_cons.mp chain).1
          rcases List.mem_cons.mp member with rfl | later
          · exact clears
          · exact clears.trans ((List.pairwise_cons.mp sortedRest).1 other later)

/-- The check of neighbours decides disjointness of a sorted list. -/
theorem neighboursOverlap_sorted {items : List ι}
    (sorted : items.Pairwise fun left right => start left ≤ start right)
    (nonempty : ∀ item ∈ items, start item < finish item) :
    neighboursOverlap start finish items = false ↔ items.Pairwise (Apart start finish) := by
  rw [neighboursOverlap_eq_false, isChain_iff_pairwise_of_sorted sorted]
  constructor
  · intro clear
    exact (sorted.and clear).imp_of_mem fun _ member both =>
      (apart_iff_le both.1 (nonempty _ member)).mpr both.2
  · intro apart
    exact (sorted.and apart).imp_of_mem fun _ member both =>
      (apart_iff_le both.1 (nonempty _ member)).mp both.2

end

end KeyRight.Support
