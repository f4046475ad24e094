import Mathlib.Data.List.Forall2

/-!
# Blocks with summaries

The last items of a list lie in consecutive blocks, and each block has a summary. The items before
them were dropped with their blocks. An item behind the list opens a block of its own or joins the
last one, and the first blocks can be dropped, so no item is ever in two blocks.
-/

namespace Blocks

variable {α β : Type}

/-- The last items of a list lie in consecutive blocks that have some summaries. -/
def Covers (sums : List α → β → Prop) (summaries : List β) (items : List α) : Prop :=
  ∃ dropped blocks, items = dropped ++ blocks.flatten ∧ List.Forall₂ sums blocks summaries

section Laws

variable {sums : List α → β → Prop} {summaries : List β} {items : List α} {item : α}

/-- Without summaries there are no blocks. -/
theorem covers_nil (items : List α) : Covers sums [] items :=
  ⟨items, [], (List.append_nil items).symm, .nil⟩

/-- The first blocks are dropped with their summaries. -/
theorem Covers.drop (covers : Covers sums summaries items) (count : ℕ) :
    Covers sums (summaries.drop count) items := by
  obtain ⟨dropped, blocks, rfl, summed⟩ := covers
  refine ⟨dropped ++ (blocks.take count).flatten, blocks.drop count, ?_,
    List.forall₂_drop count summed⟩
  rw [List.append_assoc, ← List.flatten_append, List.take_append_drop]

/-- An item opens a block of its own. -/
theorem Covers.opens (covers : Covers sums summaries items) {summary : β}
    (alone : sums [item] summary) : Covers sums (summaries ++ [summary]) (items ++ [item]) := by
  obtain ⟨dropped, blocks, rfl, summed⟩ := covers
  refine ⟨dropped, blocks ++ [[item]], ?_, List.rel_append summed (.cons alone .nil)⟩
  rw [List.flatten_append, List.flatten_singleton, List.append_assoc]

/-- An item joins the last block. -/
theorem Covers.joins {last summary : β} (covers : Covers sums (summaries ++ [last]) items)
    (joined : ∀ block, sums block last → sums (block ++ [item]) summary) :
    Covers sums (summaries ++ [summary]) (items ++ [item]) := by
  obtain ⟨dropped, blocks, rfl, summed⟩ := covers
  have former := List.forall₂_take_append blocks summaries [last] summed
  have final := List.forall₂_drop_append blocks summaries [last] summed
  obtain ⟨block, none, isLast, ended, split⟩ := List.forall₂_cons_right_iff.mp final
  obtain rfl := List.forall₂_nil_right_iff.mp ended
  refine ⟨dropped, blocks.take summaries.length ++ [block ++ [item]], ?_,
    List.rel_append former (.cons (joined block isLast) .nil)⟩
  have flat : blocks.flatten = (blocks.take summaries.length).flatten ++ block := by
    rw [← List.flatten_singleton (l := block), ← split, ← List.flatten_append,
      List.take_append_drop]
  rw [flat, List.flatten_append, List.flatten_singleton, List.append_assoc, List.append_assoc]

/-- Every summary is that of a block. -/
theorem Covers.exists_block (covers : Covers sums summaries items) {summary : β}
    (member : summary ∈ summaries) : ∃ block, sums block summary := by
  obtain ⟨-, blocks, -, summed⟩ := covers
  induction summed with
  | nil => exact absurd member List.not_mem_nil
  | cons isSum _ inductionHypothesis =>
    obtain rfl | later := List.mem_cons.mp member
    · exact ⟨_, isSum⟩
    · exact inductionHypothesis later

end Laws

end Blocks
