import Mathlib.Order.Nat
import Mathlib.Data.List.Basic

/-!
# Bounded retry loops

A loop makes numbered attempts, at most `fuel` of them. Before an attempt it may
stop; an attempt may have a remote effect, and it either ends the loop or is
repeated. The three predicates are parameters, so nothing is said about what an
attempt is. The effects of a loop are counted through the attempts it reaches:
an attempt is reached when all attempts before it are repeated and the loop has
not stopped up to it.

The last section is about loops that read the answer of each attempt from a
state that the attempt changes, and that end with the first final answer.
-/

namespace Retries

variable (stops effective repeated : ℕ → Prop) [DecidablePred stops] [DecidablePred effective]
  [DecidablePred repeated]

/-- Number of effective attempts of a loop that starts with a given attempt. -/
def effects : ℕ → ℕ → ℕ
  | 0, _ => 0
  | fuel + 1, attempt =>
    if stops attempt then 0
    else (if effective attempt then 1 else 0) +
      (if repeated attempt then effects fuel (attempt + 1) else 0)

/-- The loop that starts with attempt `first` makes attempt `target`. -/
def Reached (first target : ℕ) : Prop :=
  first ≤ target ∧ (∀ earlier, first ≤ earlier → earlier < target → repeated earlier) ∧
    ∀ earlier, first ≤ earlier → earlier ≤ target → ¬ stops earlier

variable {stops effective repeated}

omit [DecidablePred stops] [DecidablePred repeated] in
/-- The first attempt is reached unless the loop stops before it. -/
theorem reached_first (first : ℕ) : Reached stops repeated first first ↔ ¬ stops first := by
  constructor
  · rintro ⟨_, _, running⟩
    exact running first le_rfl le_rfl
  · intro running
    refine ⟨le_rfl, ?_, ?_⟩
    · intro earlier after before
      omega
    · intro earlier after before
      obtain rfl : earlier = first := by omega
      exact running

omit [DecidablePred stops] [DecidablePred repeated] in
/-- A later attempt is reached when the loop goes on after the first one and
reaches it from there. -/
theorem reached_later {first target : ℕ} (later : first < target) :
    Reached stops repeated first target ↔
      ¬ stops first ∧ repeated first ∧ Reached stops repeated (first + 1) target := by
  constructor
  · rintro ⟨_, again, running⟩
    refine ⟨running first le_rfl later.le, again first le_rfl later, later, ?_, ?_⟩
    · intro earlier after before
      exact again earlier (by omega) before
    · intro earlier after before
      exact running earlier (by omega) before
  · rintro ⟨start, repeatedFirst, _, again, running⟩
    refine ⟨later.le, ?_, ?_⟩
    · intro earlier after before
      rcases Nat.eq_or_lt_of_le after with rfl | past
      · exact repeatedFirst
      · exact again earlier past before
    · intro earlier after before
      rcases Nat.eq_or_lt_of_le after with rfl | past
      · exact start
      · exact running earlier past before

omit [DecidablePred stops] [DecidablePred effective] [DecidablePred repeated] in
/-- Among some more attempts there is one of a kind exactly if the first of them is, or one of the
others. -/
theorem exists_among_succ {kind : ℕ → Prop} {first fuel : ℕ} :
    (∃ attempt, first ≤ attempt ∧ attempt < first + (fuel + 1) ∧ kind attempt) ↔
      kind first ∨ ∃ attempt, first + 1 ≤ attempt ∧ attempt < first + 1 + fuel ∧ kind attempt := by
  constructor
  · rintro ⟨attempt, after, before, isKind⟩
    rcases Nat.eq_or_lt_of_le after with rfl | later
    · exact Or.inl isKind
    · exact Or.inr ⟨attempt, later, by omega, isKind⟩
  · rintro (isKind | ⟨attempt, after, before, isKind⟩)
    · exact ⟨first, le_rfl, by omega, isKind⟩
    · exact ⟨attempt, by omega, by omega, isKind⟩

/-- A loop that stops has no effects. -/
theorem effects_stopped {first : ℕ} (stopped : stops first) (fuel : ℕ) :
    effects stops effective repeated (fuel + 1) first = 0 := if_pos stopped

/-- A loop that repeats its first attempt has its effect and those of the rest. -/
theorem effects_repeated {first : ℕ} (running : ¬stops first) (again : repeated first) (fuel : ℕ) :
    effects stops effective repeated (fuel + 1) first =
      (if effective first then 1 else 0) + effects stops effective repeated fuel (first + 1) := by
  rw [effects, if_neg running, if_pos again]

/-- A loop that ends with its first attempt has its effect only. -/
theorem effects_ended {first : ℕ} (running : ¬stops first) (last : ¬repeated first) (fuel : ℕ) :
    effects stops effective repeated (fuel + 1) first = if effective first then 1 else 0 := by
  rw [effects, if_neg running, if_neg last, Nat.add_zero]

/-- A loop has an effect exactly when it reaches an effective attempt. The
induction follows the attempts that are left. -/
theorem effects_pos_iff (fuel first : ℕ) :
    0 < effects stops effective repeated fuel first ↔
      ∃ target, target < first + fuel ∧ Reached stops repeated first target ∧
        effective target := by
  induction fuel generalizing first with
  | zero =>
    constructor
    · intro positive
      exact absurd positive (lt_irrefl 0)
    · rintro ⟨target, before, reached, _⟩
      have after := reached.1
      omega
  | succ fuel inductionHypothesis =>
    have rest := inductionHypothesis (first + 1)
    constructor
    · intro positive
      by_cases stopped : stops first
      · rw [effects_stopped stopped] at positive
        exact absurd positive (lt_irrefl 0)
      · by_cases effect : effective first
        · exact ⟨first, by omega, (reached_first first).mpr stopped, effect⟩
        · by_cases again : repeated first
          · rw [effects_repeated stopped again, if_neg effect, Nat.zero_add] at positive
            obtain ⟨target, before, reached, effectLater⟩ := rest.mp positive
            exact ⟨target, by omega, (reached_later reached.1).mpr ⟨stopped, again, reached⟩,
              effectLater⟩
          · rw [effects_ended stopped again, if_neg effect] at positive
            exact absurd positive (lt_irrefl 0)
    · rintro ⟨target, before, reached, effect⟩
      rcases Nat.eq_or_lt_of_le reached.1 with rfl | later
      · have running := (reached_first _).mp reached
        simp only [effects, running, effect, if_true, if_false]
        omega
      · obtain ⟨running, again, reachedLater⟩ := (reached_later later).mp reached
        have positive := rest.mpr ⟨target, by omega, reachedLater, effect⟩
        rw [effects_repeated running again]
        omega

omit [DecidablePred stops] [DecidablePred effective] [DecidablePred repeated] in
/-- After an effective attempt one more effective attempt is needed for a second effect. -/
theorem pair_from_effective {fuel first : ℕ} (running : ¬stops first) (again : repeated first)
    (effect : effective first) :
    (∃ source target, first ≤ source ∧ source < target ∧ target < first + (fuel + 1) ∧
        Reached stops repeated first target ∧ effective source ∧ effective target) ↔
      ∃ target, target < first + 1 + fuel ∧ Reached stops repeated (first + 1) target ∧
        effective target := by
  constructor
  · rintro ⟨source, target, after, later, before, reached, _, effectLater⟩
    have past : first < target := by omega
    exact ⟨target, by omega, ((reached_later past).mp reached).2.2, effectLater⟩
  · rintro ⟨target, before, reached, effectLater⟩
    exact ⟨first, target, le_rfl, reached.1, by omega,
      (reached_later reached.1).mpr ⟨running, again, reached⟩, effect, effectLater⟩

omit [DecidablePred stops] [DecidablePred effective] [DecidablePred repeated] in
/-- After an attempt without effect both effective attempts come later. -/
theorem pair_from_ineffective {fuel first : ℕ} (running : ¬stops first) (again : repeated first)
    (effect : ¬effective first) :
    (∃ source target, first ≤ source ∧ source < target ∧ target < first + (fuel + 1) ∧
        Reached stops repeated first target ∧ effective source ∧ effective target) ↔
      ∃ source target, first + 1 ≤ source ∧ source < target ∧ target < first + 1 + fuel ∧
        Reached stops repeated (first + 1) target ∧ effective source ∧ effective target := by
  constructor
  · rintro ⟨source, target, after, later, before, reached, effectFirst, effectLater⟩
    have different : source ≠ first := by
      rintro rfl
      exact effect effectFirst
    have past : first < target := by omega
    exact ⟨source, target, by omega, later, by omega, ((reached_later past).mp reached).2.2,
      effectFirst, effectLater⟩
  · rintro ⟨source, target, after, later, before, reached, effectFirst, effectLater⟩
    have past : first < target := by omega
    exact ⟨source, target, by omega, later, by omega,
      (reached_later past).mpr ⟨running, again, reached⟩, effectFirst, effectLater⟩

/-- A loop has two effects exactly when it reaches an effective attempt after
another effective one. -/
theorem one_lt_effects_iff (fuel first : ℕ) :
    1 < effects stops effective repeated fuel first ↔
      ∃ source target, first ≤ source ∧ source < target ∧ target < first + fuel ∧
        Reached stops repeated first target ∧ effective source ∧ effective target := by
  induction fuel generalizing first with
  | zero =>
    constructor
    · intro several
      exact absurd several (by simp [effects])
    · rintro ⟨source, target, after, later, before, _⟩
      omega
  | succ fuel inductionHypothesis =>
    by_cases stopped : stops first
    · constructor
      · intro several
        rw [effects_stopped stopped] at several
        omega
      · rintro ⟨source, target, after, later, before, reached, _⟩
        exact absurd stopped (reached.2.2 first le_rfl reached.1)
    · by_cases again : repeated first
      · by_cases effect : effective first
        · -- one more effect is needed after the first attempt
          have rest : 1 < effects stops effective repeated (fuel + 1) first ↔
              0 < effects stops effective repeated fuel (first + 1) := by
            rw [effects_repeated stopped again, if_pos effect]
            omega
          rw [rest, effects_pos_iff, pair_from_effective stopped again effect]
        · rw [effects_repeated stopped again, if_neg effect, Nat.zero_add, inductionHypothesis,
            pair_from_ineffective stopped again effect]
      · constructor
        · intro several
          rw [effects_ended stopped again] at several
          split at several <;> omega
        · rintro ⟨source, target, after, later, before, reached, _⟩
          exact absurd (reached.2.1 first le_rfl (by omega)) again

section Answers

variable {State Answer : Type*} (attempt : State → Answer × State) (final : Answer → Bool)

/-- Answers of at most `fuel` attempts, made until one is final, and the state after them. -/
def answers : ℕ → State → List Answer × State
  | 0, state => ([], state)
  | fuel + 1, state =>
    if final (attempt state).1 then ([(attempt state).1], (attempt state).2)
    else ((attempt state).1 :: (answers fuel (attempt state).2).1,
      (answers fuel (attempt state).2).2)

/-- A final first answer is the only one. -/
theorem answers_ended {state : State} (ended : final (attempt state).1 = true) (fuel : ℕ) :
    answers attempt final (fuel + 1) state = ([(attempt state).1], (attempt state).2) := by
  rw [answers, if_pos ended]

/-- After an answer that is not final come those of the remaining attempts. -/
theorem answers_continued {state : State} (unsettled : final (attempt state).1 = false) (fuel : ℕ) :
    answers attempt final (fuel + 1) state =
      ((attempt state).1 :: (answers attempt final fuel (attempt state).2).1,
        (answers attempt final fuel (attempt state).2).2) := by
  rw [answers, if_neg (by simp [unsettled])]

/-- There are no more answers than attempts. -/
theorem answers_length_le (fuel : ℕ) (state : State) :
    (answers attempt final fuel state).1.length ≤ fuel := by
  induction fuel generalizing state with
  | zero => exact le_rfl
  | succ fuel inductionHypothesis =>
    cases ended : final (attempt state).1 with
    | true =>
      rw [answers_ended attempt final ended]
      simp
    | false =>
      rw [answers_continued attempt final ended]
      simpa using inductionHypothesis (attempt state).2

/-- The first attempt is always made. -/
theorem answers_length_pos (fuel : ℕ) (state : State) :
    0 < (answers attempt final (fuel + 1) state).1.length := by
  cases ended : final (attempt state).1 with
  | true =>
    rw [answers_ended attempt final ended]
    simp
  | false =>
    rw [answers_continued attempt final ended]
    simp

/-- No answer before the last one is final. -/
theorem answers_before_last (fuel : ℕ) (state : State) :
    ∀ earlier ∈ (answers attempt final fuel state).1.dropLast, final earlier = false := by
  induction fuel generalizing state with
  | zero =>
    intro earlier listed
    exact absurd listed (by simp [answers])
  | succ fuel inductionHypothesis =>
    cases ended : final (attempt state).1 with
    | true =>
      rw [answers_ended attempt final ended]
      intro earlier listed
      exact absurd listed (by simp)
    | false =>
      rw [answers_continued attempt final ended]
      intro earlier listed
      cases rest : (answers attempt final fuel (attempt state).2).1 with
      | nil => simp [rest] at listed
      | cons next others =>
        simp only [rest, List.dropLast_cons_cons, List.mem_cons] at listed
        rcases listed with rfl | listed
        · exact ended
        · exact inductionHypothesis (attempt state).2 earlier (by rw [rest]; exact listed)

end Answers

end Retries
