import Mathlib.Data.List.MinMax

/-!
# Extremes

The least and the greatest key of some items summarise bounds that single items meet: the least key
is under a bound when some item's is, and the greatest key is over a bound when some item's is. Two
such bounds need not be met by the same item. A change that turns the order around exchanges the least and
the greatest value.
-/

namespace Extremes

variable {Item K : Type} [LinearOrder K] {items : List Item} {key : Item → K} {bound : K}

/-- The least key is within a bound exactly when the key of some item is. -/
theorem least_le_iff :
    ((items.map key).min?.any fun least => decide (least ≤ bound)) = true ↔
      ∃ item ∈ items, key item ≤ bound := by
  cases summary : (items.map key).min? with
  | none =>
    have empty : items = [] := by simpa using summary
    simp [empty]
  | some least =>
    obtain ⟨member, below⟩ := List.min?_eq_some_iff.mp summary
    simp only [Option.any_some, decide_eq_true_eq]
    constructor
    · intro within
      obtain ⟨item, known, same⟩ := List.mem_map.mp member
      exact ⟨item, known, same ▸ within⟩
    · rintro ⟨item, known, within⟩
      exact (below (key item) (List.mem_map_of_mem known)).trans within

/-- The greatest key reaches a bound exactly when the key of some item does. -/
theorem le_greatest_iff :
    ((items.map key).max?.any fun greatest => decide (bound ≤ greatest)) = true ↔
      ∃ item ∈ items, bound ≤ key item := by
  cases summary : (items.map key).max? with
  | none =>
    have empty : items = [] := by simpa using summary
    simp [empty]
  | some greatest =>
    obtain ⟨member, above⟩ := List.max?_eq_some_iff.mp summary
    simp only [Option.any_some, decide_eq_true_eq]
    constructor
    · intro within
      obtain ⟨item, known, same⟩ := List.mem_map.mp member
      exact ⟨item, known, same ▸ within⟩
    · rintro ⟨item, known, within⟩
      exact within.trans (above (key item) (List.mem_map_of_mem known))

variable {L : Type} [LinearOrder L] {change : K → L}

/-- A change that turns the order around takes the least value to the greatest. -/
theorem max?_map_of_antitone (reversing : Antitone change) (values : List K) :
    (values.map change).max? = values.min?.map change := by
  cases summary : values.min? with
  | none =>
    have empty : values = [] := List.min?_eq_none_iff.mp summary
    simp [empty]
  | some least =>
    obtain ⟨member, below⟩ := List.min?_eq_some_iff.mp summary
    refine List.max?_eq_some_iff.mpr ⟨List.mem_map_of_mem member, ?_⟩
    intro value changed
    obtain ⟨other, known, rfl⟩ := List.mem_map.mp changed
    exact reversing (below other known)

/-- A change that turns the order around takes the greatest value to the least. -/
theorem min?_map_of_antitone (reversing : Antitone change) (values : List K) :
    (values.map change).min? = values.max?.map change := by
  cases summary : values.max? with
  | none =>
    have empty : values = [] := List.max?_eq_none_iff.mp summary
    simp [empty]
  | some greatest =>
    obtain ⟨member, above⟩ := List.max?_eq_some_iff.mp summary
    refine List.min?_eq_some_iff.mpr ⟨List.mem_map_of_mem member, ?_⟩
    intro value changed
    obtain ⟨other, known, rfl⟩ := List.mem_map.mp changed
    exact reversing (above other known)

end Extremes
