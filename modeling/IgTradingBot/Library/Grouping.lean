import Mathlib.Data.List.Dedup
import Mathlib.Data.List.DropRight

/-!
# Grouping by a key

The groups of a list, in the order in which their keys first occur, each with its items in
their order. An item behind the list opens a group of its own when its key is new, and joins the
last group when it has the key of that group.
-/

namespace Grouping

variable {α κ : Type} [DecidableEq κ] (key : α → κ)

/-- The items of every key. -/
def groups (items : List α) : List (κ × List α) :=
  (items.map key).eraseDups.map fun group => (group, items.filter fun item => key item = group)

section Items

variable {key} {items : List α} {item : α}

/-- The keys of the groups are different. -/
theorem group_keys_nodup (keys : List κ) : keys.eraseDups.Nodup := by
  induction keys using List.reverseRecOn with
  | nil => exact List.nodup_nil
  | append_singleton earlier last inductionHypothesis =>
    rw [List.eraseDups_append]
    by_cases known : last ∈ earlier
    · have removed : [last].removeAll earlier = [] := by simp [List.removeAll, known]
      rw [removed, List.eraseDups_nil, List.append_nil]
      exact inductionHypothesis
    · have stays : [last].removeAll earlier = [last] := by simp [List.removeAll, known]
      rw [stays]
      have single : [last].eraseDups = [last] := rfl
      rw [single]
      refine List.nodup_append.mpr ⟨inductionHypothesis, List.nodup_singleton last, ?_⟩
      intro group member new isNew same
      obtain rfl := List.mem_singleton.mp isNew
      exact known (same ▸ List.mem_eraseDups.mp member)

/-- A member of a group is an item that has its key. -/
theorem mem_of_group {group : κ × List α} (among : group ∈ groups key items)
    (member : item ∈ group.2) : item ∈ items ∧ key item = group.1 := by
  obtain ⟨_, -, rfl⟩ := List.mem_map.mp among
  simpa using member

/-- An item with a new key opens a group. -/
theorem groups_new (fresh : key item ∉ items.map key) :
    groups key (items ++ [item]) = groups key items ++ [(key item, [item])] := by
  have keys : ((items ++ [item]).map key).eraseDups =
      (items.map key).eraseDups ++ [key item] := by
    have stays : [key item].removeAll (items.map key) = [key item] := by
      simpa [List.removeAll] using fresh
    rw [List.map_append, List.eraseDups_append]
    exact congrArg _ (congrArg List.eraseDups stays)
  rw [groups, keys, List.map_append]
  congr 1
  · apply List.map_congr_left
    intro group member
    have different : key item ≠ group := by
      rintro rfl
      exact fresh (by simpa using member)
    simp [List.filter_append, different]
  · have alone : items.filter (fun other => key other = key item) = [] := by
      apply List.filter_eq_nil_iff.mpr
      intro other member same
      exact fresh (List.mem_map.mpr ⟨other, member, of_decide_eq_true same⟩)
    simp [List.filter_append, alone]

/-- An item with the key of the last group joins it. -/
theorem groups_same {earlier : List (κ × List α)} {members : List α}
    (last : groups key items = earlier ++ [(key item, members)]) :
    groups key (items ++ [item]) = earlier ++ [(key item, members ++ [item])] := by
  have keysOf : (items.map key).eraseDups = earlier.map Prod.fst ++ [key item] := by
    have projected := congrArg (List.map Prod.fst) last
    simpa [groups, Function.comp_def] using projected
  have known : key item ∈ items.map key := by
    have listed : key item ∈ (items.map key).eraseDups := by simp [keysOf]
    simpa using listed
  have keys : ((items ++ [item]).map key).eraseDups = (items.map key).eraseDups := by
    have removed : [key item].removeAll (items.map key) = [] := by
      simpa [List.removeAll] using known
    rw [List.map_append, List.eraseDups_append]
    exact (congrArg _ (congrArg List.eraseDups removed)).trans (List.append_nil _)
  have extended : groups key (items ++ [item]) = (groups key items).map fun group =>
      (group.1, group.2 ++ if key item = group.1 then [item] else []) := by
    rw [groups, keys, groups, List.map_map]
    apply List.map_congr_left
    intro group _
    by_cases same : key item = group <;> simp [List.filter_append, same]
  have different : ∀ group ∈ earlier, key item ≠ group.1 := by
    have nodup := group_keys_nodup (items.map key)
    rw [keysOf] at nodup
    intro group member same
    exact (List.nodup_append.mp nodup).2.2 group.1 (List.mem_map_of_mem member) (key item)
      List.mem_cons_self same.symm
  rw [extended, last, List.map_append]
  congr 1
  · refine (List.map_congr_left ?_).trans (List.map_id earlier)
    intro group member
    simp [different group member]
  · simp

section Sorted

variable {ρ : Type} [PartialOrder ρ] {rank : κ → ρ} {last : α}

omit [DecidableEq κ] in
/-- In a sorted list a key that is known is the key of the last item. -/
theorem known_key_is_last (injective : Function.Injective rank)
    (sorted : (items ++ [last] ++ [item]).Pairwise fun first second =>
      rank (key first) ≤ rank (key second))
    (known : key item ∈ (items ++ [last]).map key) : key item = key last := by
  obtain ⟨earlier, member, same⟩ := List.mem_map.mp known
  obtain ⟨front, _, behind⟩ := List.pairwise_append.mp sorted
  have lastBefore : rank (key last) ≤ rank (key item) :=
    behind last (List.mem_append_right _ List.mem_cons_self) item List.mem_cons_self
  obtain before | isLast := List.mem_append.mp member
  · have ahead : rank (key earlier) ≤ rank (key last) :=
      (List.pairwise_append.mp front).2.2 earlier before last List.mem_cons_self
    rw [same] at ahead
    exact injective (le_antisymm ahead lastBefore)
  · obtain rfl := List.mem_singleton.mp isLast
    exact same.symm

/-- The last group of a sorted list is that of its last item. -/
theorem last_group (injective : Function.Injective rank) (earlier : List α) (item : α)
    (sorted : (earlier ++ [item]).Pairwise fun first second =>
      rank (key first) ≤ rank (key second)) :
    ∃ former members, members ≠ [] ∧
      groups key (earlier ++ [item]) = former ++ [(key item, members)] := by
  induction earlier using List.reverseRecOn generalizing item with
  | nil => exact ⟨[], [item], List.cons_ne_nil _ _, groups_new List.not_mem_nil⟩
  | append_singleton earlier last inductionHypothesis =>
    by_cases known : key item ∈ (earlier ++ [last]).map key
    · have same := known_key_is_last injective sorted known
      obtain ⟨former, members, _, grouped⟩ :=
        inductionHypothesis last (List.pairwise_append.mp sorted).1
      rw [← same] at grouped
      exact ⟨former, members ++ [item], by simp, groups_same grouped⟩
    · exact ⟨_, [item], List.cons_ne_nil _ _, groups_new known⟩

end Sorted

end Items

/-- Appending to a list of limited length and dropping what is too much at its front leaves the
latest items of the whole list. -/
theorem append_to_latest (limit : ℕ) (items : List α) (item : α) :
    (items.rtake limit ++ [item]).drop ((items.rtake limit).length + 1 - limit) =
      (items ++ [item]).rtake limit := by
  rw [List.rtake.eq_1, List.rtake.eq_1, List.length_drop, List.length_append,
    List.length_singleton]
  rw [← List.drop_append_of_le_length (Nat.sub_le _ _), List.drop_drop]
  congr 1
  omega

end Grouping
