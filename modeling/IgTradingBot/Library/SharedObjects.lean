import Mathlib.Data.List.Sigma

/-!
# Shared objects

A list that only grows keeps its objects in the order in which they were created, so a position
stands for the object: it is a reference, and whoever holds it sees every change of the object.
A search goes through the objects in this order and returns the first one that it picks.
-/

namespace SharedObjects

variable {α K : Type}

/-- Change the object of a reference. -/
def assign (reference : ℕ) (change : α → α) (objects : List α) : List α :=
  objects.modify reference change

/-- The first object that is picked, with its reference. -/
def first (picks : α → Bool) (objects : List α) : Option (α × ℕ) :=
  objects.zipIdx.find? fun object => picks object.1

/-- References of all objects that are picked. -/
def references (picks : α → Bool) (objects : List α) : List ℕ :=
  (objects.zipIdx.filter fun object => picks object.1).map Prod.snd

/-- Change the first object that is picked, if there is one. -/
def updateFirst (picks : α → Bool) (change : α → α) (objects : List α) : List α :=
  match first picks objects with
  | none => objects
  | some (_, reference) => assign reference change objects

section Laws

variable {picks : α → Bool} {objects : List α} {object : α} {reference : ℕ}

/-- What a reference leads to after a change. -/
theorem getElem_assign (reference other : ℕ) (change : α → α) (objects : List α) :
    (assign reference change objects)[other]? =
      if reference = other then objects[other]?.map change else objects[other]? := by
  unfold assign
  rw [List.getElem?_modify]
  split_ifs <;> simp

/-- Two changes of an object are one. -/
theorem assign_assign (reference : ℕ) (first second : α → α) (objects : List α) :
    assign reference second (assign reference first objects) =
      assign reference (second ∘ first) objects :=
  List.modify_modify_eq first second reference objects

/-- A change that keeps a key of the objects keeps the keys of all. -/
theorem map_assign {key : α → K} {change : α → α} (keeps : ∀ object, key (change object) = key object)
    (reference : ℕ) (objects : List α) :
    (assign reference change objects).map key = objects.map key := by
  apply List.ext_getElem?
  intro other
  rw [List.getElem?_map, List.getElem?_map, getElem_assign]
  split_ifs
  · simp only [Option.map_map, Function.comp_def, keeps]
  · rfl

/-- What a reference leads to after an object was created. -/
theorem getElem_create {found new : α} :
    (objects ++ [new])[reference]? = some found ↔
      objects[reference]? = some found ∨ reference = objects.length ∧ found = new := by
  obtain inside | outside := Nat.lt_or_ge reference objects.length
  · rw [List.getElem?_append_left inside]
    refine (or_iff_left ?_).symm
    rintro ⟨same, -⟩
    omega
  · rw [List.getElem?_append_right outside, List.getElem?_eq_none outside, or_iff_right (by simp)]
    obtain ⟨later, rfl⟩ := Nat.exists_eq_add_of_le outside
    cases later with
    | zero => simp [eq_comm]
    | succ later => simp

/-- An object with a new key leaves the keys unique. -/
theorem nodup_create {key : α → K} (unique : (objects.map key).Nodup) {new : α}
    (fresh : ∀ object ∈ objects, key object ≠ key new) :
    ((objects ++ [new]).map key).Nodup := by
  rw [List.map_append]
  refine unique.append (List.nodup_singleton _) ?_
  intro value member isNew
  obtain ⟨object, stored, rfl⟩ := List.mem_map.mp member
  exact fresh object stored (List.mem_singleton.mp isNew)

/-- An object that is found is the one of its reference. -/
theorem first_some (found : first picks objects = some (object, reference)) :
    objects[reference]? = some object ∧ picks object = true :=
  ⟨List.mk_mem_zipIdx_iff_getElem?.mp (List.mem_of_find?_eq_some found),
    (List.find?_some found :)⟩

/-- Where none is found, none is picked. -/
theorem first_none (none : first picks objects = none) {object : α} (member : object ∈ objects) :
    picks object = false := by
  obtain ⟨reference, stored⟩ := List.mem_iff_getElem?.mp member
  have unpicked := List.find?_eq_none.mp none _ (List.mk_mem_zipIdx_iff_getElem?.mpr stored)
  exact Bool.eq_false_iff.mpr unpicked

/-- The references of picked objects. -/
theorem mem_references :
    reference ∈ references picks objects ↔
      ∃ object, objects[reference]? = some object ∧ picks object = true := by
  unfold references
  constructor
  · intro member
    obtain ⟨⟨object, _⟩, picked, rfl⟩ := List.mem_map.mp member
    obtain ⟨stored, isPicked⟩ := List.mem_filter.mp picked
    exact ⟨object, List.mk_mem_zipIdx_iff_getElem?.mp stored, isPicked⟩
  · rintro ⟨object, stored, picked⟩
    refine List.mem_map.mpr ⟨(object, reference), List.mem_filter.mpr ⟨?_, picked⟩, rfl⟩
    exact List.mk_mem_zipIdx_iff_getElem?.mpr stored

/-- No reference is listed twice. -/
theorem nodup_references (picks : α → Bool) (objects : List α) :
    (references picks objects).Nodup :=
  (List.nodup_zipIdx_map_snd objects).sublist (List.filter_sublist.map Prod.snd)

/-- An object with a key of its own has one reference. -/
theorem reference_unique {key : α → K} (unique : (objects.map key).Nodup) {other : α}
    {otherReference : ℕ} (stored : objects[reference]? = some object)
    (otherStored : objects[otherReference]? = some other) (same : key object = key other) :
    reference = otherReference := by
  have bound : reference < (objects.map key).length := by
    rw [List.length_map]
    exact (List.getElem?_eq_some_iff.mp stored).1
  refine (List.getElem?_inj bound unique).mp ?_
  rw [List.getElem?_map, List.getElem?_map, stored, otherStored]
  exact congrArg some same

/-- A search for the key of an object, after a change that keeps it, changes that object again. -/
theorem update_first_key [DecidableEq K] {key : α → K} (unique : (objects.map key).Nodup)
    (stored : objects[reference]? = some object) {before after : α → α}
    (keeps : ∀ object, key (before object) = key object) :
    updateFirst (fun other => decide (key other = key object)) after
        (assign reference before objects) =
      assign reference (after ∘ before) objects := by
  have changed : (assign reference before objects)[reference]? = some (before object) := by
    rw [getElem_assign, if_pos rfl, stored]
    rfl
  have uniqueAfter : ((assign reference before objects).map key).Nodup := by
    rw [map_assign keeps]
    exact unique
  unfold updateFirst
  cases found : first (fun other => decide (key other = key object))
      (assign reference before objects) with
  | none =>
    have unpicked := first_none found (List.mem_of_getElem? changed)
    simp [keeps] at unpicked
  | some entry =>
    obtain ⟨other, otherReference⟩ := entry
    obtain ⟨otherStored, picked⟩ := first_some found
    have same : otherReference = reference :=
      reference_unique uniqueAfter otherStored changed
        ((of_decide_eq_true picked).trans (keeps object).symm)
    rw [same]
    exact assign_assign reference before after objects

end Laws

end SharedObjects
