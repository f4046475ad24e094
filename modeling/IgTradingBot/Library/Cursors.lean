import Mathlib.Data.List.Pairwise
import Mathlib.Order.Lattice

/-!
# Resuming behind a cursor

A state carries a cursor: the key of the item that was processed last. To resume is to
process, of a list that is offered again and again while it grows, the items behind the
cursor. If keys increase along the list, an item is processed once, and how the list was
offered in between makes no difference.
-/

namespace Cursors

variable {σ α K : Type} [LinearOrder K]

/-- The item lies behind the cursor; without a cursor every item does. -/
def isBehind (key : α → K) (cursor : Option K) (item : α) : Bool :=
  match cursor with
  | none => true
  | some last => decide (last < key item)

/-- The items of a list that lie behind a cursor. -/
def behind (key : α → K) (cursor : Option K) (items : List α) : List α :=
  items.filter (isBehind key cursor)

/-- Process the items behind the cursor of a state. -/
def resume (key : α → K) (cursor : σ → Option K) (step : σ → α → σ) (s : σ) (items : List α) : σ :=
  (behind key (cursor s) items).foldl step s

/-- Keys increase along a list. -/
def Increasing (key : α → K) (items : List α) : Prop :=
  items.Pairwise fun earlier later => key earlier < key later

section Laws

variable {key : α → K} {cursor : σ → Option K} {step : σ → α → σ}

/-- An item behind a later cursor lies behind an earlier one. -/
theorem is_behind_of_lt {item other : α} {position : Option K}
    (first : isBehind key position item = true) (later : key item < key other) :
    isBehind key position other = true := by
  cases position with
  | none => rfl
  | some last =>
    have before : last < key item := of_decide_eq_true first
    exact decide_eq_true (before.trans later)

/-- The last item of an increasing list has the greatest key. -/
theorem Increasing.le_last {items : List α} (increasing : Increasing key items) {last item : α}
    (ended : items.getLast? = some last) (member : item ∈ items) : key item ≤ key last := by
  obtain ⟨initial, rfl⟩ := List.getLast?_eq_some_iff.mp ended
  obtain earlier | same := List.mem_append.mp member
  · have ordered := (List.pairwise_append.mp increasing).2.2
    exact (ordered item earlier last List.mem_cons_self).le
  · obtain rfl := List.mem_singleton.mp same
    exact le_refl _

/-- In an increasing list an item is known by its key. -/
theorem Increasing.eq_of_key_eq {items : List α} (increasing : Increasing key items)
    {item other : α} (member : item ∈ items) (otherMember : other ∈ items)
    (same : key item = key other) : item = other := by
  induction items with
  | nil => cases member
  | cons first rest inductionHypothesis =>
    obtain ⟨before, ordered⟩ := List.pairwise_cons.mp increasing
    obtain rfl | inRest := List.mem_cons.mp member
    · obtain rfl | otherInRest := List.mem_cons.mp otherMember
      · rfl
      · exact absurd same (before other otherInRest).ne
    · obtain rfl | otherInRest := List.mem_cons.mp otherMember
      · exact absurd same (before item inRest).ne'
      · exact inductionHypothesis ordered inRest otherInRest

omit [LinearOrder K] in
/-- After some items the cursor is the key of the last one. -/
theorem cursor_foldl (moves : ∀ s item, cursor (step s item) = some (key item)) (s : σ)
    (items : List α) {last : α} (ended : items.getLast? = some last) :
    cursor (items.foldl step s) = some (key last) := by
  obtain ⟨initial, rfl⟩ := List.getLast?_eq_some_iff.mp ended
  rw [List.foldl_append]
  exact moves _ last

variable (cursor) in
/-- To resume never moves the cursor back. -/
theorem resume_forward (moves : ∀ s item, cursor (step s item) = some (key item)) (s : σ)
    (items : List α) {position : K} (stood : cursor s = some position) :
    ∃ reached, cursor (resume key cursor step s items) = some reached ∧ position ≤ reached := by
  cases ended : (behind key (cursor s) items).getLast? with
  | none =>
    have nothing : behind key (cursor s) items = [] := List.getLast?_eq_none_iff.mp ended
    refine ⟨position, ?_, le_refl _⟩
    rw [resume, nothing]
    exact stood
  | some last =>
    obtain ⟨_, beyond⟩ := List.mem_filter.mp (List.mem_of_getLast? ended)
    rw [stood] at beyond
    exact ⟨key last, cursor_foldl moves s _ ended, (of_decide_eq_true beyond).le⟩

variable (cursor) in
/-- After a resumption the cursor has passed every item that lay behind it. -/
theorem resume_passes (moves : ∀ s item, cursor (step s item) = some (key item)) (s : σ)
    {items : List α} (increasing : Increasing key items) {item : α}
    (member : item ∈ behind key (cursor s) items) :
    ∃ reached, cursor (resume key cursor step s items) = some reached ∧ key item ≤ reached := by
  cases ended : (behind key (cursor s) items).getLast? with
  | none =>
    rw [List.getLast?_eq_none_iff.mp ended] at member
    cases member
  | some last =>
    refine ⟨key last, cursor_foldl moves s _ ended, ?_⟩
    exact Increasing.le_last (List.Pairwise.filter _ increasing) ended member

/-- The law of resumption: to resume on a part of an increasing list first makes no difference
to resuming on the whole list. Nothing of the part lies behind the new cursor, and
everything after it lies behind both. -/
theorem resume_resume (moves : ∀ s item, cursor (step s item) = some (key item)) (s : σ)
    {earlier later : List α} (increasing : Increasing key (earlier ++ later)) :
    resume key cursor step (resume key cursor step s earlier) (earlier ++ later) =
      resume key cursor step s (earlier ++ later) := by
  cases ended : (behind key (cursor s) earlier).getLast? with
  | none =>
    have nothing : behind key (cursor s) earlier = [] := List.getLast?_eq_none_iff.mp ended
    have unchanged : resume key cursor step s earlier = s := by
      rw [resume, nothing]
      rfl
    rw [unchanged]
  | some last =>
    obtain ⟨ordered, _, apart⟩ := List.pairwise_append.mp increasing
    have processed : last ∈ behind key (cursor s) earlier := List.mem_of_getLast? ended
    obtain ⟨member, isNew⟩ := List.mem_filter.mp processed
    have reached : cursor (resume key cursor step s earlier) = some (key last) :=
      cursor_foldl moves s _ ended
    have done : behind key (some (key last)) earlier = [] := by
      apply List.filter_eq_nil_iff.mpr
      intro item inEarlier beyond
      have greater : key last < key item := of_decide_eq_true beyond
      have pending : item ∈ behind key (cursor s) earlier :=
        List.mem_filter.mpr ⟨inEarlier, is_behind_of_lt isNew greater⟩
      have bounded : key item ≤ key last :=
        Increasing.le_last (List.Pairwise.filter _ ordered) ended pending
      exact absurd greater (not_lt_of_ge bounded)
    have ahead : behind key (some (key last)) later = later := by
      apply List.filter_eq_self.mpr
      intro item inLater
      exact decide_eq_true (apart last member item inLater)
    have new : behind key (cursor s) later = later := by
      apply List.filter_eq_self.mpr
      intro item inLater
      exact is_behind_of_lt isNew (apart last member item inLater)
    calc resume key cursor step (resume key cursor step s earlier) (earlier ++ later)
        = (behind key (some (key last)) earlier ++ behind key (some (key last)) later).foldl step
            (resume key cursor step s earlier) := by
          rw [resume, reached, behind, List.filter_append]
          rfl
      _ = later.foldl step (resume key cursor step s earlier) := by
          rw [done, ahead, List.nil_append]
      _ = (behind key (cursor s) earlier ++ behind key (cursor s) later).foldl step s := by
          rw [new, List.foldl_append]
          rfl
      _ = resume key cursor step s (earlier ++ later) := by
          rw [resume, behind, behind, behind, List.filter_append]

end Laws

end Cursors
