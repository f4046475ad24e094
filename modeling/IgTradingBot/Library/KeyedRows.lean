import Mathlib.Data.List.Pairwise

/-!
# Rows with unique keys

A table is a list of rows. A key of its rows may be missing, as a nullable column may; two
rows never have the same key. A query by such a key finds at most one row, an edit that keeps
the keys keeps their uniqueness, and so does a row with a new key.
-/

namespace KeyedRows

variable {α K : Type}

/-- No two rows have the same key. -/
def UniqueOn (key : α → Option K) (rows : List α) : Prop :=
  rows.Pairwise fun row other => ∀ value, key row = some value → key other ≠ some value

section Laws

variable {key : α → Option K} {rows : List α}

/-- A key names one row. -/
theorem UniqueOn.eq_of_key (unique : UniqueOn key rows) {row other : α} {value : K}
    (member : row ∈ rows) (otherMember : other ∈ rows) (named : key row = some value)
    (otherNamed : key other = some value) : row = other := by
  by_contra different
  have symmetric : Std.Symm fun row other : α =>
      ∀ value, key row = some value → key other ≠ some value :=
    ⟨fun _ _ apart value ofSecond ofFirst => apart value ofFirst ofSecond⟩
  exact unique.forall member otherMember different value named otherNamed

/-- A row with a new key joins the table. -/
theorem UniqueOn.cons (unique : UniqueOn key rows) {row : α}
    (new : ∀ value, key row = some value → ∀ other ∈ rows, key other ≠ some value) :
    UniqueOn key (row :: rows) := by
  refine List.pairwise_cons.mpr ⟨?_, unique⟩
  intro other member value named
  exact new value named other member

/-- A row with a new key joins the table at its end. -/
theorem UniqueOn.concat (unique : UniqueOn key rows) {row : α}
    (new : ∀ value, key row = some value → ∀ other ∈ rows, key other ≠ some value) :
    UniqueOn key (rows ++ [row]) := by
  refine List.pairwise_append.mpr ⟨unique, List.pairwise_singleton _ _, ?_⟩
  intro other member last isLast value named lastNamed
  obtain rfl := List.mem_singleton.mp isLast
  exact new value lastNamed other member named

/-- The order of the rows does not matter. -/
theorem UniqueOn.perm (unique : UniqueOn key rows) {others : List α} (same : rows.Perm others) :
    UniqueOn key others :=
  (same.pairwise_iff fun apart value named otherNamed => apart value otherNamed named).mp unique

/-- Some of the rows have unique keys. -/
theorem UniqueOn.filter (unique : UniqueOn key rows) (picks : α → Bool) :
    UniqueOn key (rows.filter picks) :=
  List.Pairwise.filter picks unique

/-- An edit that keeps the key of every row keeps them unique. -/
theorem UniqueOn.map (unique : UniqueOn key rows) {edit : α → α}
    (keeps : ∀ row, key (edit row) = key row) : UniqueOn key (rows.map edit) := by
  apply List.pairwise_map.mpr
  apply List.Pairwise.imp _ unique
  intro row other apart value named otherNamed
  rw [keeps] at named otherNamed
  exact apart value named otherNamed

/-- A query that picks rows of one key finds at most one. -/
theorem UniqueOn.filter_eq (unique : UniqueOn key rows) {picks : α → Bool} {value : K}
    (named : ∀ row, picks row = true → key row = some value) :
    rows.filter picks = (rows.find? picks).toList := by
  induction rows with
  | nil => rfl
  | cons row rest inductionHypothesis =>
    obtain ⟨apart, remaining⟩ := List.pairwise_cons.mp unique
    cases picked : picks row with
    | true =>
      have others : rest.filter picks = [] := by
        apply List.filter_eq_nil_iff.mpr
        intro other member otherPicked
        exact apart other member value (named row picked) (named other otherPicked)
      simp [List.find?, picked, others]
    | false =>
      simpa [List.find?, picked] using inductionHypothesis remaining

/-- A query by a key that a row has finds that row. -/
theorem UniqueOn.find_eq (unique : UniqueOn key rows) {picks : α → Bool} {value : K}
    (named : ∀ row, picks row = true → key row = some value) {row : α} (member : row ∈ rows)
    (picked : picks row = true) : rows.find? picks = some row := by
  cases found : rows.find? picks with
  | none => exact absurd picked (List.find?_eq_none.mp found row member)
  | some other =>
    have otherPicked := List.find?_some found
    exact congrArg some (unique.eq_of_key (List.mem_of_find?_eq_some found) member
      (named other otherPicked) (named row picked))

end Laws

end KeyedRows
