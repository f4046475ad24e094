import Mathlib.Data.List.Pairwise
import Mathlib.Data.List.TakeWhile
import Mathlib.Order.Lattice

/-!
# Ranks of kept items

A list is in the order of its keys, and some of its items are kept. Where the kept items are counted on
their own, the place of an item among them is its rank. The item of a rank lies no later than a place of
the whole list exactly when more items than the rank are kept up to that place.

A ranking has its items in the order of a key, the greatest first; items of one key are in the order
in which they came. So the place of an item is the number of those that are ahead of it: the items
before it of at least its key, and the items behind it of a greater one.
-/

namespace Ranks

variable {α K : Type} [LinearOrder K] {key : α → K} {kept : α → Bool} {items : List α}

omit [LinearOrder K] in
/-- The first kept items are those that are kept of the first items. -/
theorem filter_take_append_drop (kept : α → Bool) (items : List α) (place : ℕ) :
    (items.take place).filter kept ++ (items.drop place).filter kept = items.filter kept := by
  rw [← List.filter_append, List.take_append_drop]

/-- The kept item of a rank against the item at a place. -/
theorem key_le_iff_lt_countP (ordered : items.Pairwise fun first second => key first < key second)
    {rank place : ℕ} {item other : α} (isKept : (items.filter kept)[rank]? = some item)
    (isAt : items[place]? = some other) :
    key item ≤ key other ↔ rank < (items.take (place + 1)).countP kept := by
  obtain ⟨inside, rfl⟩ := List.getElem?_eq_some_iff.mp isAt
  rw [← filter_take_append_drop kept items (place + 1)] at isKept
  rw [List.countP_eq_length_filter]
  constructor
  · intro before
    by_contra beyond
    rw [List.getElem?_append_right (not_lt.mp beyond)] at isKept
    have later : item ∈ items.drop (place + 1) :=
      (List.mem_filter.mp (List.mem_of_getElem? isKept)).1
    obtain ⟨index, bound, rfl⟩ := List.mem_iff_getElem.mp later
    rw [List.length_drop] at bound
    rw [List.getElem_drop] at before
    have within : place + 1 + index < items.length := by omega
    have after : key items[place] < key items[place + 1 + index] :=
      List.pairwise_iff_getElem.mp ordered place (place + 1 + index) inside within (by omega)
    exact absurd before (not_le.mpr after)
  · intro among
    rw [List.getElem?_append_left among] at isKept
    have earlier : item ∈ items.take (place + 1) :=
      (List.mem_filter.mp (List.mem_of_getElem? isKept)).1
    obtain ⟨index, bound, rfl⟩ := List.mem_iff_getElem.mp earlier
    rw [List.length_take] at bound
    rw [List.getElem_take]
    obtain same | before := (show index ≤ place by omega).eq_or_lt
    · subst same
      exact le_refl _
    · exact (List.pairwise_iff_getElem.mp ordered index place (by omega) inside before).le

/-- How many of the first items it takes to have a number of kept ones: all up to the last of these. -/
def upTo (kept : α → Bool) : ℕ → List α → ℕ
  | 0, _ => 0
  | _ + 1, [] => 0
  | count + 1, item :: rest => (if kept item then upTo kept count rest else upTo kept (count + 1) rest) + 1

omit [LinearOrder K] in
/-- The first kept items are the kept ones of the items up to the last of them. -/
theorem filter_take (kept : α → Bool) (count : ℕ) (items : List α) :
    (items.filter kept).take count = (items.take (upTo kept count items)).filter kept := by
  induction items generalizing count with
  | nil => simp
  | cons item rest inductionHypothesis =>
    cases count with
    | zero => simp [upTo]
    | succ count =>
      by_cases isKept : kept item = true
      · simp [upTo, isKept, inductionHypothesis]
      · simp [upTo, isKept, inductionHypothesis]

omit [LinearOrder K] in
/-- How many items it takes depends only on which of them are kept. -/
theorem up_to_congr {items others : List α} (same : items.map kept = others.map kept) (count : ℕ) :
    upTo kept count items = upTo kept count others := by
  induction items generalizing others count with
  | nil =>
    rw [List.map_nil, eq_comm, List.map_eq_nil_iff] at same
    rw [same]
  | cons item rest inductionHypothesis =>
    cases others with
    | nil => cases same
    | cons other more =>
      obtain ⟨first, later⟩ := List.cons.inj same
      cases count with
      | zero => rfl
      | succ count => simp only [upTo, first, inductionHypothesis later]

omit [LinearOrder K] in
/-- Two lists with the same places of kept items have the same kept items exactly when they agree at
these places. -/
theorem filter_eq_iff {items others : List α} (same : items.map kept = others.map kept) :
    items.filter kept = others.filter kept ↔
      ∀ (place : ℕ) item other, items[place]? = some item → others[place]? = some other →
        kept item = true → item = other := by
  induction items generalizing others with
  | nil =>
    rw [List.map_nil, eq_comm, List.map_eq_nil_iff] at same
    simp [same]
  | cons item rest inductionHypothesis =>
    cases others with
    | nil => cases same
    | cons other more =>
      obtain ⟨first, later⟩ := List.cons.inj same
      have split : (∀ (place : ℕ) found twin, (item :: rest)[place]? = some found →
          (other :: more)[place]? = some twin → kept found = true → found = twin) ↔
          (kept item = true → item = other) ∧
            ∀ (place : ℕ) found twin, rest[place]? = some found → more[place]? = some twin →
              kept found = true → found = twin := by
        constructor
        · intro all
          exact ⟨all 0 item other rfl rfl, fun place => all (place + 1)⟩
        · rintro ⟨here, there⟩ (_ | place) found twin isFound isTwin isKept
          · obtain rfl := Option.some.inj isFound
            obtain rfl := Option.some.inj isTwin
            exact here isKept
          · exact there place found twin isFound isTwin isKept
      rw [split, ← inductionHypothesis later]
      by_cases isKept : kept item = true
      · simp [isKept, ← first]
      · simp [isKept, ← first]

section Rankings

/-- The items, the greatest keys first. -/
def ranking (key : α → K) (items : List α) : List α :=
  items.mergeSort fun first second => decide (key second ≤ key first)

variable {item : α}

theorem mem_ranking : item ∈ ranking key items ↔ item ∈ items := List.mem_mergeSort

theorem ranking_perm (key : α → K) (items : List α) : (ranking key items).Perm items :=
  List.mergeSort_perm _ _

private theorem before_trans (key : α → K) (first second third : α)
    (one : decide (key second ≤ key first) = true) (other : decide (key third ≤ key second) = true) :
    decide (key third ≤ key first) = true :=
  decide_eq_true ((of_decide_eq_true other).trans (of_decide_eq_true one))

private theorem before_total (key : α → K) (first second : α) :
    (decide (key second ≤ key first) || decide (key first ≤ key second)) = true := by
  rw [Bool.or_eq_true, decide_eq_true_iff, decide_eq_true_iff]
  exact le_total _ _

/-- Keys do not increase along a ranking. -/
theorem ranking_sorted (key : α → K) (items : List α) :
    (ranking key items).Pairwise fun first second => key second ≤ key first :=
  (List.pairwise_mergeSort (before_trans key) (before_total key) items).imp of_decide_eq_true

/-- An item at the front of a list comes before those of its key. -/
theorem ranking_cons (key : α → K) (item : α) (items : List α) :
    ∃ ahead behind, ranking key (item :: items) = ahead ++ item :: behind ∧
      ranking key items = ahead ++ behind ∧ (∀ other ∈ ahead, key item < key other) ∧
      ∀ other ∈ behind, key other ≤ key item := by
  obtain ⟨ahead, behind, whole, rest, greater⟩ :=
    List.mergeSort_cons (before_trans key) (before_total key) item items
  refine ⟨ahead, behind, whole, rest, ?_, ?_⟩
  · intro other member
    simpa using greater other member
  · have sorted := ranking_sorted key (item :: items)
    rw [ranking, whole] at sorted
    exact (List.pairwise_cons.mp (List.pairwise_append.mp sorted).2.1).1

/-- The place of an item is the number of those that are ahead of it. The induction is on the items that
came before it. -/
theorem ranking_split (key : α → K) (before : List α) (item : α) (after : List α) :
    ∃ ahead behind, ranking key (before ++ item :: after) = ahead ++ item :: behind ∧
      ahead.length = before.countP (fun other => key item ≤ key other) +
        after.countP fun other => key item < key other := by
  induction before with
  | nil =>
    obtain ⟨ahead, behind, whole, rest, greater, others⟩ := ranking_cons key item after
    refine ⟨ahead, behind, whole, ?_⟩
    have counted : after.countP (fun other => key item < key other) =
        (ahead ++ behind).countP fun other => key item < key other := by
      rw [← rest]
      exact ((ranking_perm key after).countP_eq _).symm
    have all : ahead.countP (fun other => key item < key other) = ahead.length :=
      List.countP_eq_length.mpr fun other member => decide_eq_true (greater other member)
    have none : behind.countP (fun other => key item < key other) = 0 :=
      List.countP_eq_zero.mpr fun other member => by simpa using others other member
    rw [counted, List.countP_append, all, none]
    simp
  | cons first rest inductionHypothesis =>
    obtain ⟨ahead, behind, whole, length⟩ := inductionHypothesis
    obtain ⟨front, back, placed, others, greater, lower⟩ :=
      ranking_cons key first (rest ++ item :: after)
    rw [whole] at others
    rw [List.cons_append, placed]
    rw [List.countP_cons]
    obtain ⟨middle, rfl, isMiddle⟩ | ⟨middle, rfl, rfl⟩ := List.append_eq_append_iff.mp others
    · cases middle with
      | nil =>
        -- the first item comes right before the item
        obtain rfl : item :: behind = back := isMiddle
        have low := lower item List.mem_cons_self
        refine ⟨ahead ++ [first], behind, by simp, ?_⟩
        rw [List.length_append, length, if_pos (decide_eq_true low), List.length_singleton]
        omega
      | cons head tail =>
        -- it comes behind the item
        obtain ⟨rfl, rfl⟩ := List.cons.inj isMiddle
        have high := greater item (List.mem_append_right ahead List.mem_cons_self)
        refine ⟨ahead, tail ++ first :: back, by simp, ?_⟩
        rw [length, if_neg (by simpa using high), Nat.add_zero]
    · -- it comes before the item, and before others that are
      have low := lower item (List.mem_append_right middle List.mem_cons_self)
      refine ⟨front ++ first :: middle, behind, by simp, ?_⟩
      rw [if_pos (decide_eq_true low)]
      simp only [List.length_append, List.length_cons] at length ⊢
      omega

/-- In a ranking, what has a greater key than some bound is in front. -/
theorem lt_key_iff_lt_countP (bound : K) {ranked : List α}
    (sorted : ranked.Pairwise fun first second => key second ≤ key first) {place : ℕ}
    (inside : place < ranked.length) :
    bound < key ranked[place] ↔ place < ranked.countP fun other => bound < key other := by
  induction ranked generalizing place with
  | nil => cases inside
  | cons first rest inductionHypothesis =>
    obtain ⟨greatest, restSorted⟩ := List.pairwise_cons.mp sorted
    rw [List.countP_cons]
    by_cases above : bound < key first
    · rw [if_pos (decide_eq_true above)]
      cases place with
      | zero => exact iff_of_true above (Nat.succ_pos _)
      | succ place =>
        exact (inductionHypothesis restSorted (Nat.lt_of_succ_lt_succ inside)).trans
          Nat.succ_lt_succ_iff.symm
    · have nothing : rest.countP (fun other => bound < key other) = 0 :=
        List.countP_eq_zero.mpr fun other member greater =>
          above ((of_decide_eq_true greater).trans_le (greatest other member))
      rw [if_neg (by simpa using above), nothing]
      refine iff_of_false (fun greater => above ?_) (Nat.not_lt_zero _)
      cases place with
      | zero => exact greater
      | succ place => exact greater.trans_le (greatest _ (List.getElem_mem _))

end Rankings

end Ranks
