import IgTradingBot.Library.Machines
import Mathlib.Data.List.Destutter
import Mathlib.Data.List.DropRight

/-!
# Histories

A history is a list that grows at its end. Its phases lie between the items that separate them, and
its changes are the items that differ from those before them. Each law says what one more item does.

Where some moves of a machine settle a property and the others leave it, a run leaves it as the last
move that settles it.

A potential that marked moves wear down is gone after as many of them as it had at first.

A memory holds so many of the last keys at most and forgets the oldest. A key is admitted when the
memory does not have it. What the memory holds are then the last keys that were admitted, and a key that
is admitted again comes behind more other keys than the memory can hold.
-/

namespace Histories

variable {α : Type}

section Phases

variable {separates : α → Bool} {item : α}

/-- A separator ends the last phase, and an empty one begins. -/
theorem phases_separator (history : List α) (isSeparator : separates item = true) :
    (history ++ [item]).splitOnP separates = history.splitOnP separates ++ [[]] := by
  rw [List.splitOnP_append_cons history [] isSeparator, List.splitOnP_nil]

/-- Any other item is in the last phase. -/
theorem phases_item (separates : α → Bool) (history : List α) {item : α}
    (isItem : separates item = false) :
    ∃ earlier last, history.splitOnP separates = earlier ++ [last] ∧
      (history ++ [item]).splitOnP separates = earlier ++ [last ++ [item]] := by
  induction history with
  | nil =>
    refine ⟨[], [], List.splitOnP_nil, ?_⟩
    exact List.splitOnP_eq_singleton (by simpa using isItem)
  | cons first rest inductionHypothesis =>
    obtain ⟨earlier, last, before, after⟩ := inductionHypothesis
    rw [List.cons_append, List.splitOnP_cons_eq_if_modifyHead, List.splitOnP_cons_eq_if_modifyHead,
      before, after]
    by_cases isSeparator : separates first = true
    · rw [if_pos isSeparator, if_pos isSeparator]
      exact ⟨[] :: earlier, last, rfl, rfl⟩
    · rw [if_neg isSeparator, if_neg isSeparator]
      cases earlier with
      | nil => exact ⟨[], first :: last, rfl, rfl⟩
      | cons phase others => exact ⟨(first :: phase) :: others, last, rfl, rfl⟩

end Phases

section Changes

variable [DecidableEq α]

/-- One more item of a history is a change when it is not the last item again. -/
theorem changes_concat (initial : α) (history : List α) (item : α) :
    (history ++ [item]).destutter' (· ≠ ·) initial =
      history.destutter' (· ≠ ·) initial ++
        if history.getLastD initial = item then [] else [item] := by
  induction history generalizing initial with
  | nil =>
    rw [List.nil_append, List.destutter'_singleton, List.destutter'_nil, List.getLastD_nil]
    by_cases same : initial = item <;> simp [same]
  | cons next rest inductionHypothesis =>
    rw [List.cons_append, List.getLastD_cons]
    by_cases same : initial = next
    · rw [List.destutter'_cons_neg _ (not_not.mpr same), List.destutter'_cons_neg _ (not_not.mpr same),
        inductionHypothesis, same]
    · rw [List.destutter'_cons_pos _ same, List.destutter'_cons_pos _ same, inductionHypothesis]
      rfl

end Changes

section Verdicts

variable {σ μ : Type} {step : σ → μ → σ} {invariant property : σ → Prop} {allowed : μ → Prop}
  {verdict : μ → Option Bool}

/-- After a run, a property is what the last verdict says, or what it was if there is none. The
induction is on the run, from its end. -/
theorem after_iff_last_verdict
    (kept : ∀ state move, invariant state → allowed move → invariant (step state move))
    (settles : ∀ state move, invariant state → allowed move →
      (property (step state move) ↔ (verdict move).elim (property state) (· = true)))
    {initial : σ} (holds : invariant initial) {moves : List μ} (all : ∀ move ∈ moves, allowed move) :
    invariant (Machines.after step initial moves) ∧
      (property (Machines.after step initial moves) ↔
        (moves.filterMap verdict).getLast?.elim (property initial) (· = true)) := by
  induction moves using List.reverseRecOn with
  | nil => exact ⟨holds, Iff.rfl⟩
  | append_singleton moves move inductionHypothesis =>
    obtain ⟨keeps, before⟩ := inductionHypothesis fun other member =>
      all other (List.mem_append_left _ member)
    have permitted := all move (List.mem_append_right _ List.mem_cons_self)
    rw [Machines.after_append, Machines.after_cons, Machines.after_nil, List.filterMap_append]
    refine ⟨kept _ move keeps permitted, (settles _ move keeps permitted).trans ?_⟩
    cases settled : verdict move with
    | none =>
      rw [List.filterMap_cons_none settled, List.filterMap_nil, List.append_nil]
      exact before
    | some value =>
      rw [List.filterMap_cons_some settled, List.filterMap_nil, List.getLast?_concat]
      exact Iff.rfl

end Verdicts

section Potentials

variable {σ μ : Type} {step : σ → μ → σ} {invariant : σ → Prop} {allowed : μ → Prop}

/-- Where marked moves wear a potential down and no move raises it, a run leaves of it at most what its
marked moves have not worn down. -/
theorem potential_after_le (potential : σ → ℕ) (marked : μ → Bool)
    (kept : ∀ state move, invariant state → allowed move → invariant (step state move))
    (wears : ∀ state move, invariant state → allowed move →
      potential (step state move) ≤ potential state - if marked move then 1 else 0)
    {initial : σ} (holds : invariant initial) {moves : List μ} (all : ∀ move ∈ moves, allowed move) :
    potential (Machines.after step initial moves) ≤ potential initial - moves.countP marked := by
  induction moves generalizing initial with
  | nil => exact le_rfl
  | cons move rest inductionHypothesis =>
    have permitted := all move List.mem_cons_self
    have first := wears initial move holds permitted
    have later := inductionHypothesis (kept initial move holds permitted) fun other member =>
      all other (List.mem_cons_of_mem _ member)
    rw [Machines.after_cons, List.countP_cons]
    omega

end Potentials

section Spacing

variable {capacity : ℕ} {admitted : List α} {key : α}

/-- Equal keys come so far apart that a memory forgets the first before the second. -/
def Spaced (capacity : ℕ) (keys : List α) : Prop :=
  ∀ first second, first < second → ∀ key, keys[first]? = some key → keys[second]? = some key →
    first + capacity < second

/-- A new key at the end is apart from its earlier ones. -/
theorem Spaced.concat (spaced : Spaced capacity admitted)
    (new : key ∉ admitted.rtake capacity) : Spaced capacity (admitted ++ [key]) := by
  intro first second before known isFirst isSecond
  have inside : second < (admitted ++ [key]).length :=
    (List.getElem?_eq_some_iff.mp isSecond).1
  rw [List.length_append, List.length_singleton] at inside
  have firstInside : first < admitted.length := by omega
  rw [List.getElem?_append_left firstInside] at isFirst
  obtain earlier | isLast := Nat.lt_or_eq_of_le (Nat.le_of_lt_succ inside)
  · rw [List.getElem?_append_left earlier] at isSecond
    exact spaced first second before known isFirst isSecond
  · subst isLast
    rw [List.getElem?_append_right le_rfl, Nat.sub_self] at isSecond
    obtain rfl : key = known := Option.some.inj isSecond
    by_contra near
    -- the first of them is among the last ones
    refine new (List.mem_iff_getElem?.mpr ⟨first - (admitted.length - capacity), ?_⟩)
    rw [List.rtake, List.getElem?_drop, ← isFirst]
    congr 1
    omega

end Spacing

section Memory

variable [DecidableEq α]

/-- Remember a key, and forget the oldest ones of a memory that is too full. -/
def remember (capacity : ℕ) (memory : List α) (key : α) : List α :=
  let known := if key ∈ memory then memory else memory ++ [key]
  known.drop (known.length - capacity)

/-- The admitted keys with another one, if it is admitted. -/
def takeIn (capacity : ℕ) (admitted : List α) (key : α) : List α :=
  if key ∈ admitted.rtake capacity then admitted else admitted ++ [key]

/-- The keys that are admitted. -/
def admittedOf (capacity : ℕ) (keys : List α) : List α := keys.foldl (takeIn capacity) []

variable {capacity : ℕ} {admitted keys : List α} {key : α}

theorem admittedOf_concat (capacity : ℕ) (keys : List α) (key : α) :
    admittedOf capacity (keys ++ [key]) = takeIn capacity (admittedOf capacity keys) key :=
  List.foldl_append

/-- What is remembered of a new key and the last ones are the last ones with it. -/
theorem remember_rtake (new : key ∉ admitted.rtake capacity) :
    remember capacity (admitted.rtake capacity) key = (admitted ++ [key]).rtake capacity := by
  rw [remember, if_neg new]
  simp only [List.rtake, List.length_append, List.length_drop, List.length_singleton]
  obtain full | room := le_total capacity admitted.length
  · rw [← List.drop_append_of_le_length (Nat.sub_le _ _), List.drop_drop]
    congr 1
    omega
  · rw [Nat.sub_eq_zero_of_le room, List.drop_zero]
    rfl

/-- The admitted keys are apart. The induction is on the keys that come. -/
theorem spaced_admittedOf (capacity : ℕ) (keys : List α) :
    Spaced capacity (admittedOf capacity keys) := by
  induction keys using List.reverseRecOn with
  | nil => exact fun first second _ known isFirst _ => by simp [admittedOf] at isFirst
  | append_singleton keys key inductionHypothesis =>
    rw [admittedOf_concat, takeIn]
    split
    · exact inductionHypothesis
    · next new => exact inductionHypothesis.concat new

end Memory

end Histories
