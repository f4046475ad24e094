import Mathlib.Data.List.Count
import Mathlib.Order.MinMax

/-!
# First places

How many of the first places of a list meet a condition depends on its order. Between the order that
brings all who meet it to the front and the order that brings them to the end, it is least and most.
Whether a number of them is reached is therefore the same in every order exactly when too few meet
the condition at all, or so few miss it that enough of the places are left.
-/

namespace FirstPlaces

variable {Item : Type} {items : List Item} {meets : Item → Bool} {places goal : ℕ}

/-- The items with those that meet a condition in front of the others. -/
def arranged (meets : Item → Bool) (items : List Item) : List Item :=
  items.filter meets ++ items.filter fun item => !meets item

/-- Arranged items are the same items. -/
theorem arranged_perm (meets : Item → Bool) (items : List Item) :
    (arranged meets items).Perm items :=
  List.filter_append_perm meets items

/-- Of those who meet the condition, every place has one. -/
theorem count_take_meeting :
    ((items.filter meets).take places).countP meets = min places (items.countP meets) := by
  have all : ∀ item ∈ (items.filter meets).take places, meets item = true := fun item member =>
    (List.mem_filter.mp (List.mem_of_mem_take member)).2
  rw [List.countP_eq_length.mpr all, List.length_take, List.countP_eq_length_filter]

/-- Of those who miss the condition, no place has one who meets it. -/
theorem count_take_missing :
    ((items.filter fun item => !meets item).take places).countP meets = 0 := by
  apply List.countP_eq_zero.mpr
  intro item member
  have misses := (List.mem_filter.mp (List.mem_of_mem_take member)).2
  simpa using misses

/-- With those that meet the condition in front, as many places as possible have one. -/
theorem count_front :
    ((arranged meets items).take places).countP meets = min places (items.countP meets) := by
  rw [arranged, List.take_append, List.countP_append, count_take_meeting, count_take_missing,
    Nat.add_zero]

/-- With those that meet the condition at the end, they have the places that the others leave. -/
theorem count_end :
    ((arranged (fun item => !meets item) items).take places).countP meets =
      min (places - items.countP fun item => !meets item) (items.countP meets) := by
  rw [arranged, List.take_append, List.countP_append, count_take_missing, Nat.zero_add]
  simp only [Bool.not_not]
  rw [count_take_meeting, List.countP_eq_length_filter (p := fun item => !meets item)]

/-- No order has more in the first places than there are. -/
theorem count_take_le : (items.take places).countP meets ≤ items.countP meets :=
  (List.take_sublist places items).countP_le

/-- What too few meet is not reached in any places. -/
theorem unreached_of_few (few : items.countP meets < goal) :
    ¬goal ≤ (items.take places).countP meets :=
  (count_take_le.trans_lt few).not_ge

/-- If enough places are left by those who miss the condition, the number is reached. -/
theorem reached_of_few (enough : goal ≤ items.countP meets)
    (few : (items.countP fun item => !meets item) + goal ≤ places) :
    goal ≤ (items.take places).countP meets := by
  obtain short | long := Nat.le_total items.length places
  · rwa [List.take_of_length_le short]
  · have full : places =
        (items.take places).countP meets + (items.take places).countP fun item => !meets item := by
      have parts := (items.take places).length_eq_countP_add_countP meets
      rw [List.length_take, Nat.min_eq_left long] at parts
      simpa using parts
    have missing : ((items.take places).countP fun item => !meets item) ≤
        items.countP fun item => !meets item := count_take_le
    omega

/-- Whether a number is reached in the first places is the same in every order exactly when it is not
reached at all, or those who miss the condition leave enough places. -/
theorem reached_order_free_iff (some : 0 < goal) (fits : goal ≤ places) :
    (∀ other : List Item, other.Perm items →
      (goal ≤ (other.take places).countP meets ↔ goal ≤ (items.take places).countP meets)) ↔
      items.countP meets < goal ∨ (items.countP fun item => !meets item) + goal ≤ places := by
  constructor
  · intro free
    by_contra limits
    push Not at limits
    obtain ⟨enough, many⟩ := limits
    have front := (free _ (arranged_perm meets items)).mp (by rw [count_front]; omega)
    have back := (free _ (arranged_perm (fun item => !meets item) items)).mpr front
    rw [count_end] at back
    omega
  · intro limits other same
    obtain few | enough := Nat.lt_or_ge (items.countP meets) goal
    · exact iff_of_false (unreached_of_few ((same.countP_eq meets).trans_lt few))
        (unreached_of_few few)
    · have room := limits.resolve_left enough.not_gt
      rw [← same.countP_eq] at enough
      exact iff_of_true (reached_of_few enough (by rwa [same.countP_eq]))
        (reached_of_few (by rwa [← same.countP_eq]) room)

end FirstPlaces
