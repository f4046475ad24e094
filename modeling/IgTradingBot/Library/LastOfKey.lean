import Mathlib.Data.List.Induction

/-!
# The last item of a key

Items have keys, and a later item takes the place of an earlier one with the same key. What is left
is the last item of every key. An item that is inserted anywhere displaces at most one, the last of
its own key. A table that records a value for each item under its key holds the values of the last
items.
-/

namespace LastOfKey

variable {α K : Type}

/-- An item is the last one of its key. -/
def IsLast (key : α → K) (items : List α) (item : α) : Prop :=
  ∃ before after, items = before ++ item :: after ∧ ∀ other ∈ after, key other ≠ key item

section Laws

variable {key : α → K} {items before after : List α} {item other : α}

/-- The last item of a key is among the items. -/
theorem IsLast.mem (last : IsLast key items item) : item ∈ items := by
  obtain ⟨before, after, rfl, -⟩ := last
  exact List.mem_append_right _ List.mem_cons_self

/-- There are no items, hence no last one. -/
theorem not_is_last_nil : ¬IsLast key [] item := fun last => absurd last.mem (by simp)

/-- With an item at the end, it is the last one of its key, and those of other keys stay. -/
theorem is_last_concat_iff :
    IsLast key (items ++ [other]) item ↔
      item = other ∨ key other ≠ key item ∧ IsLast key items item := by
  constructor
  · rintro ⟨before, after, split, later⟩
    cases after using List.reverseRecOn with
    | nil =>
      obtain ⟨-, same⟩ := List.append_inj' split rfl
      exact Or.inl (List.cons.inj same).1.symm
    | append_singleton rest final =>
      rw [← List.cons_append, ← List.append_assoc] at split
      obtain ⟨rfl, same⟩ := List.append_inj' split rfl
      obtain rfl := (List.cons.inj same).1
      refine Or.inr ⟨later _ (List.mem_append_right _ List.mem_cons_self), before, rest, rfl, ?_⟩
      exact fun another among => later another (List.mem_append_left _ among)
  · rintro (rfl | ⟨different, before, after, rfl, later⟩)
    · exact ⟨items, [], rfl, by simp⟩
    · refine ⟨before, after ++ [other], by simp, ?_⟩
      intro another among
      obtain earlier | final := List.mem_append.mp among
      · exact later another earlier
      · exact List.mem_singleton.mp final ▸ different

/-- With an item inserted, the last item of a key stays, or the inserted one is the last of the same
key. -/
theorem IsLast.insert (last : IsLast key (before ++ after) item) (inserted : α) :
    IsLast key (before ++ inserted :: after) item ∨
      IsLast key (before ++ inserted :: after) inserted ∧ key inserted = key item := by
  classical
  induction after using List.reverseRecOn with
  | nil =>
    rw [List.append_nil] at last
    by_cases same : key inserted = key item
    · exact Or.inr ⟨is_last_concat_iff.mpr (Or.inl rfl), same⟩
    · exact Or.inl (is_last_concat_iff.mpr (Or.inr ⟨same, last⟩))
  | append_singleton rest final inductionHypothesis =>
    rw [← List.append_assoc] at last
    rw [← List.cons_append, ← List.append_assoc]
    obtain rfl | ⟨different, earlier⟩ := is_last_concat_iff.mp last
    · exact Or.inl (is_last_concat_iff.mpr (Or.inl rfl))
    · obtain stays | ⟨isLast, same⟩ := inductionHypothesis earlier
      · exact Or.inl (is_last_concat_iff.mpr (Or.inr ⟨different, stays⟩))
      · exact Or.inr ⟨is_last_concat_iff.mpr (Or.inr ⟨same ▸ different, isLast⟩), same⟩

end Laws

section Tables

variable {V : Type} [DecidableEq K] {key : α → K} {value : α → V}

/-- Set the value of a key: in place when the key is known, else at the end. -/
def setValue (table : List (K × V)) (key : K) (value : V) : List (K × V) :=
  match table with
  | [] => [(key, value)]
  | (known, old) :: rest =>
    if known = key then (key, value) :: rest else (known, old) :: setValue rest key value

/-- Record the values of the items, one after the other. -/
def tableOf (key : α → K) (value : α → V) (items : List α) : List (K × V) :=
  items.foldl (fun table item => setValue table (key item) (value item)) []

/-- The first entry answers for its own key only. -/
theorem lookup_cons_entry (known asked : K) (old : V) (rest : List (K × V)) :
    ((known, old) :: rest).lookup asked =
      if asked = known then some old else rest.lookup asked := by
  by_cases same : asked = known
  · subst same
    simp
  · rw [List.lookup_cons, beq_eq_false_iff_ne.mpr same, if_neg same]

/-- A key is gone from a table without its entries, and every other key finds what it found. -/
theorem lookup_without (table : List (K × V)) (target asked : K) :
    (table.filter fun entry => decide (entry.1 ≠ target)).lookup asked =
      if asked = target then none else table.lookup asked := by
  induction table with
  | nil => rw [List.filter_nil, List.lookup_nil, ite_self]
  | cons entry rest inductionHypothesis =>
    obtain ⟨known, old⟩ := entry
    by_cases gone : known = target
    · subst gone
      rw [List.filter_cons_of_neg (by simp), inductionHypothesis, lookup_cons_entry]
      split_ifs <;> rfl
    · rw [List.filter_cons_of_pos (by simpa using gone), lookup_cons_entry, lookup_cons_entry,
        inductionHypothesis]
      by_cases hit : asked = known
      · rw [if_pos hit, if_neg (hit ▸ gone), if_pos hit]
      · rw [if_neg hit, if_neg hit]

/-- A key that was set has its new value, and the others keep theirs. -/
theorem lookup_set_value (table : List (K × V)) (target : K) (fresh : V) (asked : K) :
    (setValue table target fresh).lookup asked =
      if asked = target then some fresh else table.lookup asked := by
  induction table with
  | nil => rw [setValue, lookup_cons_entry]
  | cons entry rest inductionHypothesis =>
    obtain ⟨known, old⟩ := entry
    by_cases hit : known = target
    · subst hit
      rw [setValue, if_pos rfl, lookup_cons_entry, lookup_cons_entry]
      split <;> rfl
    · rw [setValue, if_neg hit, lookup_cons_entry, lookup_cons_entry, inductionHypothesis]
      by_cases same : asked = known
      · subst same
        rw [if_pos rfl, if_pos rfl, if_neg hit]
      · rw [if_neg same, if_neg same]

/-- The table holds the value of the last item of each key. -/
theorem IsLast.lookup_table_of {items : List α} {item : α} (last : IsLast key items item) :
    (tableOf key value items).lookup (key item) = some (value item) := by
  induction items using List.reverseRecOn with
  | nil => exact absurd last not_is_last_nil
  | append_singleton rest final inductionHypothesis =>
    rw [tableOf, List.foldl_append]
    simp only [List.foldl_cons, List.foldl_nil, lookup_set_value]
    obtain rfl | ⟨different, earlier⟩ := is_last_concat_iff.mp last
    · rw [if_pos rfl]
    · rw [if_neg (Ne.symm different)]
      exact inductionHypothesis earlier

/-- A key that is set is known, and the others stay. -/
theorem keys_set_value (table : List (K × V)) (target : K) (fresh : V) (asked : K) :
    asked ∈ (setValue table target fresh).map Prod.fst ↔
      asked = target ∨ asked ∈ table.map Prod.fst := by
  induction table with
  | nil => simp [setValue]
  | cons entry rest inductionHypothesis =>
    obtain ⟨known, old⟩ := entry
    rw [setValue]
    by_cases hit : known = target
    · subst hit
      simp
    · rw [if_neg hit, List.map_cons, List.map_cons, List.mem_cons, List.mem_cons,
        inductionHypothesis]
      exact or_left_comm

/-- Keys stay distinct. -/
theorem keys_set_value_nodup {table : List (K × V)} (distinct : (table.map Prod.fst).Nodup)
    (target : K) (fresh : V) : ((setValue table target fresh).map Prod.fst).Nodup := by
  induction table with
  | nil => simp [setValue]
  | cons entry rest inductionHypothesis =>
    obtain ⟨known, old⟩ := entry
    obtain ⟨new, restDistinct⟩ := List.nodup_cons.mp distinct
    rw [setValue]
    by_cases hit : known = target
    · subst hit
      rw [if_pos rfl]
      exact distinct
    · rw [if_neg hit, List.map_cons]
      refine List.nodup_cons.mpr ⟨fun among => ?_, inductionHypothesis restDistinct⟩
      obtain same | among := (keys_set_value rest target fresh known).mp among
      · exact hit same
      · exact new among

/-- The keys of a table are distinct. -/
theorem keys_table_of_nodup (key : α → K) (value : α → V) (items : List α) :
    ((tableOf key value items).map Prod.fst).Nodup := by
  induction items using List.reverseRecOn with
  | nil => exact List.nodup_nil
  | append_singleton rest final inductionHypothesis =>
    rw [tableOf, List.foldl_append]
    exact keys_set_value_nodup inductionHypothesis (key final) (value final)

/-- With distinct keys, a table has the entries that are found in it. -/
theorem mem_iff_lookup {table : List (K × V)} (distinct : (table.map Prod.fst).Nodup) {asked : K}
    {found : V} : (asked, found) ∈ table ↔ table.lookup asked = some found := by
  induction table with
  | nil => simp
  | cons entry rest inductionHypothesis =>
    obtain ⟨known, old⟩ := entry
    obtain ⟨new, restDistinct⟩ := List.nodup_cons.mp distinct
    rw [lookup_cons_entry, List.mem_cons]
    by_cases hit : asked = known
    · subst hit
      have absent : (asked, found) ∉ rest := fun among =>
        new (List.mem_map.mpr ⟨_, among, rfl⟩)
      rw [or_iff_left absent, if_pos rfl, Prod.mk.injEq, and_iff_right rfl, Option.some.injEq,
        eq_comm]
    · rw [if_neg hit, or_iff_right fun same => hit (congrArg Prod.fst same),
        inductionHypothesis restDistinct]

/-- A key of no item is not found. -/
theorem lookup_table_of_unknown {items : List α} {asked : K} (unknown : asked ∉ items.map key) :
    (tableOf key value items).lookup asked = none := by
  induction items using List.reverseRecOn with
  | nil => rfl
  | append_singleton rest final inductionHypothesis =>
    rw [List.map_append, List.mem_append, not_or] at unknown
    rw [tableOf, List.foldl_append, List.foldl_cons, List.foldl_nil, lookup_set_value,
      if_neg fun same => unknown.2 (by simp [same])]
    exact inductionHypothesis unknown.1

/-- Every key of an item has a last item. -/
theorem exists_is_last (key : α → K) {items : List α} {item : α} (listed : item ∈ items) :
    ∃ last, IsLast key items last ∧ key last = key item := by
  induction items using List.reverseRecOn with
  | nil => exact absurd listed List.not_mem_nil
  | append_singleton rest final inductionHypothesis =>
    by_cases same : key final = key item
    · exact ⟨final, is_last_concat_iff.mpr (Or.inl rfl), same⟩
    · have earlier : item ∈ rest := by
        rcases List.mem_append.mp listed with earlier | isFinal
        · exact earlier
        · obtain rfl := List.mem_singleton.mp isFinal
          exact absurd rfl same
      obtain ⟨last, isLast, known⟩ := inductionHypothesis earlier
      refine ⟨last, is_last_concat_iff.mpr (Or.inr ⟨?_, isLast⟩), known⟩
      rwa [known]

/-- The entries of a table are the values of the last items of the keys. -/
theorem mem_table_of_iff {items : List α} {asked : K} {found : V} :
    (asked, found) ∈ tableOf key value items ↔
      ∃ item, IsLast key items item ∧ key item = asked ∧ value item = found := by
  rw [mem_iff_lookup (keys_table_of_nodup key value items)]
  constructor
  · intro recorded
    have known : asked ∈ items.map key := by
      by_contra unknown
      rw [lookup_table_of_unknown unknown] at recorded
      cases recorded
    obtain ⟨item, listed, rfl⟩ := List.mem_map.mp known
    obtain ⟨last, isLast, same⟩ := exists_is_last key listed
    rw [← same, isLast.lookup_table_of] at recorded
    exact ⟨last, isLast, same, Option.some.inj recorded⟩
  · rintro ⟨item, isLast, rfl, rfl⟩
    exact isLast.lookup_table_of

/-- The table holds the value of every item exactly when items of one key have one value. -/
theorem table_holds_all_iff (items : List α) :
    (∀ item ∈ items, (tableOf key value items).lookup (key item) = some (value item)) ↔
      ∀ first ∈ items, ∀ second ∈ items, key first = key second → value first = value second := by
  constructor
  · intro holds first firstListed second secondListed same
    have recorded := holds first firstListed
    rw [same, holds second secondListed] at recorded
    exact (Option.some.inj recorded).symm
  · intro agree item listed
    obtain ⟨last, isLast, same⟩ := exists_is_last key listed
    rw [← same, isLast.lookup_table_of]
    exact congrArg some (agree last isLast.mem item listed same)

end Tables

end LastOfKey
