import Mathlib.Algebra.BigOperators.Group.List.Basic
import Mathlib.Algebra.Order.Monoid.Unbundled.Basic
import Mathlib.Data.List.Sort

/-!
# Greedy choices

Items are taken in an order, as long as the weight that was taken is below a
goal. What is taken is the shortest prefix that reaches the goal, if the whole
list does. The order is that of a stable sort: among items that the order does
not tell apart, the first one comes first.
-/

namespace Greedy

section Choice

variable {α W : Type*} [AddMonoid W] [LinearOrder W] (weight : α → W) (goal : W)

/-- What a greedy choice comes to: the items taken, those left, and the weight taken. -/
structure Choice (α W : Type*) where
  taken : List α
  left : List α
  weight : W

/-- Take each item that comes while the weight taken is below the goal. -/
def choose : W → List α → Choice α W
  | reached, [] => ⟨[], [], reached⟩
  | reached, item :: rest =>
    if reached < goal then
      let later := choose (reached + weight item) rest
      ⟨item :: later.taken, later.left, later.weight⟩
    else
      let later := choose reached rest
      ⟨later.taken, item :: later.left, later.weight⟩

/-- A list is the shortest prefix of another one that reaches a goal. -/
def ShortestPrefix (chosen items : List α) : Prop :=
  chosen <+: items ∧ goal ≤ (chosen.map weight).sum ∧
    ∀ shorter, shorter <+: items → goal ≤ (shorter.map weight).sum →
      chosen.length ≤ shorter.length

/-- From a goal that is reached nothing more is taken. -/
theorem choose_of_reached {reached : W} (enough : ¬reached < goal) (items : List α) :
    choose weight goal reached items = ⟨[], items, reached⟩ := by
  induction items with
  | nil => rfl
  | cons item rest inductionHypothesis =>
    rw [choose, if_neg enough, inductionHypothesis]

/-- The items taken and those left are the items, in their order. -/
theorem taken_append_left (reached : W) (items : List α) :
    (choose weight goal reached items).taken ++ (choose weight goal reached items).left =
      items := by
  induction items generalizing reached with
  | nil => rfl
  | cons item rest inductionHypothesis =>
    by_cases below : reached < goal
    · rw [choose, if_pos below]
      exact congrArg (item :: ·) (inductionHypothesis (reached + weight item))
    · rw [choose_of_reached weight goal below]
      rfl

/-- The weight taken is that of the items taken. -/
theorem weight_taken (reached : W) (items : List α) :
    (choose weight goal reached items).weight =
      reached + ((choose weight goal reached items).taken.map weight).sum := by
  induction items generalizing reached with
  | nil => simp [choose]
  | cons item rest inductionHypothesis =>
    by_cases below : reached < goal
    · rw [choose, if_pos below]
      simp only [List.map_cons, List.sum_cons, inductionHypothesis, add_assoc]
    · rw [choose_of_reached weight goal below]
      simp

/-- Before the last item that is taken the goal is not reached. -/
theorem below_before_last (reached : W) (items : List α) {shorter : List α}
    (before : shorter <+: (choose weight goal reached items).taken)
    (proper : shorter.length < (choose weight goal reached items).taken.length) :
    reached + (shorter.map weight).sum < goal := by
  induction items generalizing reached shorter with
  | nil => simp [choose] at proper
  | cons item rest inductionHypothesis =>
    by_cases below : reached < goal
    · rw [choose, if_pos below] at before proper
      cases shorter with
      | nil => simpa using below
      | cons first others =>
        obtain ⟨rfl, before⟩ := List.cons_prefix_cons.mp before
        have rest := inductionHypothesis (reached + weight first) before
          (Nat.lt_of_succ_lt_succ proper)
        rwa [add_assoc, ← List.sum_cons, ← List.map_cons] at rest
    · rw [choose_of_reached weight goal below] at proper
      exact absurd proper (Nat.not_lt_zero _)

/-- The goal is reached if all items together reach it. -/
theorem goal_le_taken (reached : W) (items : List α)
    (enough : goal ≤ reached + (items.map weight).sum) :
    goal ≤ reached + ((choose weight goal reached items).taken.map weight).sum := by
  induction items generalizing reached with
  | nil => exact enough
  | cons item rest inductionHypothesis =>
    by_cases below : reached < goal
    · rw [List.map_cons, List.sum_cons, ← add_assoc] at enough
      have rest := inductionHypothesis (reached + weight item) enough
      rw [choose, if_pos below, List.map_cons, List.sum_cons, ← add_assoc]
      exact rest
    · rw [choose_of_reached weight goal below]
      simpa using not_lt.mp below

/-- What is taken from nothing on is the shortest prefix that reaches the goal. -/
theorem choose_shortest (items : List α) (enough : goal ≤ (items.map weight).sum) :
    ShortestPrefix weight goal (choose weight goal 0 items).taken items := by
  refine ⟨⟨_, taken_append_left weight goal 0 items⟩, ?_, ?_⟩
  · have reached := goal_le_taken weight goal 0 items (by rwa [zero_add])
    rwa [zero_add] at reached
  · intro shorter before reaches
    by_contra longer
    have proper := not_le.mp longer
    have inside : shorter <+: (choose weight goal 0 items).taken :=
      List.prefix_of_prefix_length_le before ⟨_, taken_append_left weight goal 0 items⟩ proper.le
    have below := below_before_last weight goal 0 items inside proper
    rw [zero_add] at below
    exact absurd reaches (not_le.mpr below)

end Choice

section Order

variable {α : Type*} (order : α → α → Prop) [DecidableRel order]

/-- One list is another in a stable order: the same items, none before one that comes
before it, and items that the order does not tell apart as they were. -/
structure StablySorted (sorted items : List α) : Prop where
  perm : sorted.Perm items
  ordered : sorted.Pairwise order
  stable : ∀ picks : α → Bool, (∀ first second, picks first → picks second → order first second) →
    sorted.filter picks = items.filter picks

/-- Insertion sort is stable. -/
theorem insertion_sort_stably_sorted [Std.Total order] [IsTrans α order] (items : List α) :
    StablySorted order (items.insertionSort order) items := by
  have perm := List.perm_insertionSort order items
  refine ⟨perm, List.pairwise_insertionSort order items, ?_⟩
  intro picks same
  have alike : (items.filter picks).Pairwise order := by
    refine List.pairwise_of_forall_mem_list ?_
    intro first listed second listed'
    exact same first second (List.of_mem_filter listed) (List.of_mem_filter listed')
  -- the picked items are a sublist of the sorted list, and as many as are picked there
  have inside := List.sublist_insertionSort alike List.filter_sublist
  have picked := inside.filter picks
  rw [List.filter_filter] at picked
  simp only [Bool.and_self] at picked
  exact (picked.eq_of_length (perm.filter picks).length_eq.symm).symm

end Order

end Greedy
