import Mathlib.Logic.Function.Basic

/-!
# Inverse tables

Two partial maps are inverse to each other when one leads back exactly where the other comes from,
as two tables that are looked up from either side. A pair may be entered into both when its key is
in none of them, and taken out of both when it is the pair of its key; any other edit leaves an
entry that leads nowhere.
-/

namespace Inverses

variable {α β : Type}

/-- The second map leads back exactly where the first comes from. -/
def Inverse (forth : α → Option β) (back : β → Option α) : Prop :=
  ∀ value key, back value = some key ↔ forth key = some value

section Laws

/-- Empty maps are inverse to each other. -/
theorem inverse_empty : Inverse (fun _ : α => (none : Option β)) fun _ => none := by
  intro value key
  exact iff_of_false nofun nofun

variable [DecidableEq α] [DecidableEq β] {forth : α → Option β} {back : β → Option α} {key : α}
  {value : β}

/-- A pair with a new value is entered well exactly when its key has no other value. -/
theorem inverse_insert_iff (inverse : Inverse forth back) (fresh : back value = none) :
    Inverse (Function.update forth key (some value)) (Function.update back value (some key)) ↔
      forth key = none := by
  constructor
  · intro entered
    by_contra present
    obtain ⟨old, found⟩ := Option.ne_none_iff_exists'.mp present
    have leads : back old = some key := (inverse old key).mpr found
    have different : old ≠ value := by
      rintro rfl
      cases fresh.symm.trans leads
    have still := (entered old key).mp ((Function.update_of_ne different _ _).trans leads)
    rw [Function.update_self] at still
    exact different (Option.some.inj still).symm
  · intro absent other otherKey
    by_cases sameValue : other = value
    · subst sameValue
      by_cases sameKey : otherKey = key
      · subst sameKey
        simp
      · have missing : forth otherKey ≠ some other := by
          intro found
          cases fresh.symm.trans ((inverse other otherKey).mpr found)
        simp [Function.update_of_ne sameKey, missing, Ne.symm sameKey]
    · by_cases sameKey : otherKey = key
      · subst sameKey
        have missing : back other ≠ some otherKey := by
          intro leads
          cases absent.symm.trans ((inverse other otherKey).mp leads)
        simp [Function.update_of_ne sameValue, missing, Ne.symm sameValue]
      · rw [Function.update_of_ne sameValue, Function.update_of_ne sameKey]
        exact inverse other otherKey

/-- A pair with a key that is there is taken out well exactly when the value is that of the key. -/
theorem inverse_erase_iff (inverse : Inverse forth back) (present : forth key ≠ none) :
    Inverse (Function.update forth key none) (Function.update back value none) ↔
      forth key = some value := by
  obtain ⟨current, found⟩ := Option.ne_none_iff_exists'.mp present
  constructor
  · intro erased
    by_contra different
    have other : current ≠ value := by
      rintro rfl
      exact different found
    have leads : back current = some key := (inverse current key).mpr found
    have still := (erased current key).mp ((Function.update_of_ne other _ _).trans leads)
    rw [Function.update_self] at still
    cases still
  · intro paired other otherKey
    by_cases sameKey : otherKey = key
    · subst sameKey
      by_cases sameValue : other = value
      · subst sameValue
        simp
      · have missing : back other ≠ some otherKey := by
          intro leads
          exact sameValue
            (Option.some.inj (((inverse other otherKey).mp leads).symm.trans paired))
        simp [Function.update_of_ne sameValue, missing]
    · by_cases sameValue : other = value
      · subst sameValue
        have missing : forth otherKey ≠ some other := by
          intro found
          have leads := (inverse other otherKey).mpr found
          exact sameKey (Option.some.inj (leads.symm.trans ((inverse other key).mpr paired)))
        simp [Function.update_of_ne sameKey, missing]
      · rw [Function.update_of_ne sameValue, Function.update_of_ne sameKey]
        exact inverse other otherKey

end Laws

end Inverses
