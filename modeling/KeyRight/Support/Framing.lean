import Mathlib.Init

/-!
Owns readers of delimited input: what such a reader holds of the unfinished line and hands out
at each delimiter depends on the input alone, not on how it arrives.

Does not own any concrete alphabet, buffer or verdict.
-/

namespace KeyRight.Support

variable {α σ β : Type} [DecidableEq α]

/-! ### Lines -/

/-- Every input is a last line without its delimiter, or a line with its delimiter before more. -/
@[elab_as_elim]
theorem lines_induction (delimiter : α) {motive : List α → Prop}
    (unfinished : ∀ line, delimiter ∉ line → motive line)
    (finished : ∀ line rest, delimiter ∉ line → motive rest → motive (line ++ delimiter :: rest))
    (input : List α) : motive input := by
  induction length : input.length using Nat.strongRecOn generalizing input with
  | ind size inductionHypothesis =>
      by_cases present : delimiter ∈ input
      · obtain ⟨line, rest, split, fresh⟩ := List.eq_append_cons_of_mem present
        subst split
        refine finished line rest fresh (inductionHypothesis rest.length ?_ rest rfl)
        simp only [← length, List.length_append, List.length_cons]
        omega
      · exact unfinished input present

/-- The finished lines of an input, and the rest of it. -/
def lines (delimiter : α) (input : List α) : List (List α) := (input.splitOn delimiter).dropLast

def unfinished (delimiter : α) (input : List α) : List α :=
  (input.splitOn delimiter).getLast (List.splitOn_ne_nil delimiter input)

section

variable {delimiter : α} {line : List α}

theorem lines_of_notMem (absent : delimiter ∉ line) : lines delimiter line = [] := by
  rw [lines, List.splitOn_eq_singleton absent]
  rfl

theorem unfinished_of_notMem (absent : delimiter ∉ line) : unfinished delimiter line = line := by
  simp only [unfinished, List.splitOn_eq_singleton absent, List.getLast_singleton]

theorem lines_append_cons (absent : delimiter ∉ line) (rest : List α) :
    lines delimiter (line ++ delimiter :: rest) = line :: lines delimiter rest := by
  rw [lines, List.splitOn_append_cons_self_of_not_mem absent,
    List.dropLast_cons_of_ne_nil (List.splitOn_ne_nil delimiter rest), lines]

theorem unfinished_append_cons (absent : delimiter ∉ line) (rest : List α) :
    unfinished delimiter (line ++ delimiter :: rest) = unfinished delimiter rest := by
  simp only [unfinished, List.splitOn_append_cons_self_of_not_mem absent]
  exact List.getLast_cons (List.splitOn_ne_nil delimiter rest)

end

/-! ### Readers -/

/-- A reader extends the line it holds, and hands out a result where a line ends. -/
structure LineReader (α σ β : Type) where
  empty : σ
  push : σ → α → σ
  finish : σ → β

namespace LineReader

variable (reader : LineReader α σ β) (delimiter : α)

def feed : σ → List α → σ × List β
  | held, [] => (held, [])
  | held, unit :: rest =>
      if unit = delimiter then
        let (last, results) := feed reader.empty rest
        (last, reader.finish held :: results)
      else feed (reader.push held unit) rest

variable {delimiter}

theorem feed_append (held : σ) (first second : List α) :
    reader.feed delimiter held (first ++ second) =
      ((reader.feed delimiter (reader.feed delimiter held first).1 second).1,
        (reader.feed delimiter held first).2 ++
          (reader.feed delimiter (reader.feed delimiter held first).1 second).2) := by
  induction first generalizing held with
  | nil => rfl
  | cons unit rest inductionHypothesis =>
      simp only [List.cons_append, feed]
      split
      · simp only [inductionHypothesis, List.cons_append]
      · exact inductionHypothesis _

theorem feed_unfinished {line : List α} (absent : delimiter ∉ line) (held : σ) :
    reader.feed delimiter held line = (line.foldl reader.push held, []) := by
  induction line generalizing held with
  | nil => rfl
  | cons unit rest inductionHypothesis =>
      rw [List.mem_cons, not_or] at absent
      rw [feed, if_neg (Ne.symm absent.1), inductionHypothesis absent.2, List.foldl_cons]

theorem feed_finished {line : List α} (absent : delimiter ∉ line) (held : σ) (rest : List α) :
    reader.feed delimiter held (line ++ delimiter :: rest) =
      ((reader.feed delimiter reader.empty rest).1,
        reader.finish (line.foldl reader.push held) ::
          (reader.feed delimiter reader.empty rest).2) := by
  rw [feed_append, feed_unfinished reader absent, feed, if_pos rfl]
  rfl

/-- An idle reader holds the unfinished line, and has handed out a result for each finished one. -/
theorem feed_eq (input : List α) :
    reader.feed delimiter reader.empty input =
      ((unfinished delimiter input).foldl reader.push reader.empty,
        (lines delimiter input).map fun line => reader.finish (line.foldl reader.push reader.empty)) := by
  induction input using lines_induction delimiter with
  | unfinished line absent =>
      rw [feed_unfinished reader absent, lines_of_notMem absent, unfinished_of_notMem absent]
      rfl
  | finished line rest absent inductionHypothesis =>
      rw [feed_finished reader absent, inductionHypothesis, lines_append_cons absent,
        unfinished_append_cons absent]
      rfl

end LineReader

end KeyRight.Support
