import Mathlib.Algebra.Order.Group.Multiset
import Mathlib.Data.List.TakeDrop
import Mathlib.Tactic.Abel

/-!
# Tasks that hold items

A list of tasks, each of which holds a list of items. When one task goes from one state to
another, what all tasks hold changes by what this task held and holds.
-/

namespace Tasks

variable {τ α : Type}

/-- The items that all tasks hold. -/
def held (holds : τ → List α) (tasks : List τ) : List α := tasks.flatMap holds

section Held

variable {tasks : List τ} {place : ℕ} {before : τ}

/-- A list is made up of what is before a place, the task at the place, and what is behind. -/
theorem split_at (found : tasks[place]? = some before) :
    tasks = tasks.take place ++ before :: tasks.drop (place + 1) := by
  obtain ⟨inside, rfl⟩ := List.getElem?_eq_some_iff.mp found
  rw [List.cons_getElem_drop_succ, List.take_append_drop]

/-- Another state of the task at a place. -/
theorem set_at (found : tasks[place]? = some before) (after : τ) :
    tasks.set place after = tasks.take place ++ after :: tasks.drop (place + 1) :=
  List.set_eq_take_append_cons_drop.trans
    (if_pos (List.getElem?_eq_some_iff.mp found).1)

/-- A task that changes its state gives up what it held and takes what it holds. -/
theorem held_set (holds : τ → List α) (found : tasks[place]? = some before) (after : τ) :
    (held holds (tasks.set place after) ++ holds before).Perm
      (held holds tasks ++ holds after) := by
  have whole : held holds tasks = held holds (tasks.take place) ++
      (holds before ++ held holds (tasks.drop (place + 1))) := by
    conv_lhs => rw [split_at found]
    rw [held, List.flatMap_append, List.flatMap_cons]
    rfl
  have changed : held holds (tasks.set place after) = held holds (tasks.take place) ++
      (holds after ++ held holds (tasks.drop (place + 1))) := by
    rw [set_at found after, held, List.flatMap_append, List.flatMap_cons]
    rfl
  rw [whole, changed]
  apply Multiset.coe_eq_coe.mp
  simp only [← Multiset.coe_add]
  abel

/-- A task that held nothing brings what it holds. -/
theorem held_set_gain (holds : τ → List α) (found : tasks[place]? = some before)
    (nothing : holds before = []) (after : τ) :
    (held holds (tasks.set place after)).Perm (holds after ++ held holds tasks) := by
  have changed := held_set holds found after
  rw [nothing, List.append_nil] at changed
  exact changed.trans List.perm_append_comm

/-- A task that gives up items takes them from what all tasks hold. -/
theorem held_set_loss (holds : τ → List α) (found : tasks[place]? = some before) {after : τ}
    {given : List α} (gives : (holds before).Perm (holds after ++ given)) :
    (given ++ held holds (tasks.set place after)).Perm (held holds tasks) := by
  have changed := Multiset.coe_eq_coe.mpr (held_set holds found after)
  have taken := Multiset.coe_eq_coe.mpr gives
  apply Multiset.coe_eq_coe.mp
  simp only [← Multiset.coe_add] at changed taken ⊢
  rw [taken, ← add_assoc, add_right_comm, add_left_inj, add_comm] at changed
  exact changed

/-- A new task brings what it holds. -/
theorem held_concat (holds : τ → List α) (tasks : List τ) (task : τ) :
    held holds (tasks ++ [task]) = held holds tasks ++ holds task := by
  rw [held, List.flatMap_append, List.flatMap_singleton]
  rfl

end Held

end Tasks
