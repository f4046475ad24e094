import Mathlib.Data.List.Infix
import Mathlib.Logic.Basic

/-!
# Loops that may stop with an error

A loop runs one body for each of its items in order and hands on a state; an error of one pass
ends it. A loop over two lists of items is the first loop and then the second. A relation that
every pass keeps holds between the ends of two loops over the same items, and a relation between
the states before and after each pass, if it is an order, holds between the start and the end.

Two computations that end alike do so in steps: it is enough that their first parts end alike and what
follows does.

A loop with a guard runs its body while the guard holds, and takes the number of passes that it may
make. Where every pass brings a measure down, as many passes as the measure counts are enough, and
the guard has then failed.
-/

namespace Loops

variable {ε ι σ τ : Type}

/-- A first part and what follows it return when both do. -/
theorem bind_eq_ok {α β : Type} {first : Except ε α} {next : α → Except ε β} {answer : β} :
    (first >>= next) = .ok answer ↔ ∃ value, first = .ok value ∧ next value = .ok answer := by
  cases first with
  | ok value =>
    change next value = .ok answer ↔ _
    simp
  | error reason =>
    change Except.error reason = .ok answer ↔ _
    simp

/-- A first part and what follows it stop with an error when one of them does. -/
theorem bind_eq_error {α β : Type} {first : Except ε α} {next : α → Except ε β} {reason : ε} :
    (first >>= next) = .error reason ↔
      first = .error reason ∨ ∃ value, first = .ok value ∧ next value = .error reason := by
  cases first with
  | ok value =>
    change next value = .error reason ↔ _
    simp
  | error other =>
    change Except.error other = .error reason ↔ _
    simp

/-- Two computations end alike: both return values that are related, or both stop with errors that
are. -/
def EndAlike {ε' α β : Type} (errors : ε → ε' → Prop) (values : α → β → Prop) :
    Except ε α → Except ε' β → Prop
  | .ok value, .ok other => values value other
  | .error reason, .error other => errors reason other
  | _, _ => False

/-- Computations that end alike, with what follows them alike from values that are related, end
alike as a whole. -/
theorem EndAlike.bind {ε' α β α' β' : Type} {errors : ε → ε' → Prop} {values : α → β → Prop}
    {answers : α' → β' → Prop} {first : Except ε α} {second : Except ε' β} {next : α → Except ε α'}
    {after : β → Except ε' β'} (alike : EndAlike errors values first second)
    (follow : ∀ value other, values value other →
      EndAlike errors answers (next value) (after other)) :
    EndAlike errors answers (first >>= next) (second >>= after) := by
  cases first with
  | error reason =>
    cases second with
    | error other => exact alike
    | ok other => exact alike.elim
  | ok value =>
    cases second with
    | error other => exact alike.elim
    | ok other => exact follow value other alike

section Ends

variable {body : σ → ι → Except ε σ}

/-- A loop over no items returns where it starts. -/
theorem nil_eq_ok {start final : σ} :
    ([] : List ι).foldlM body start = .ok final ↔ start = final := by
  change Except.ok start = .ok final ↔ _
  simp

/-- A loop over a first item returns when its first pass does and the rest from there. -/
theorem cons_eq_ok {item : ι} {rest : List ι} {start final : σ} :
    (item :: rest).foldlM body start = .ok final ↔
      ∃ middle, body start item = .ok middle ∧ rest.foldlM body middle = .ok final := by
  rw [List.foldlM_cons]
  exact bind_eq_ok

/-- A loop over two lists returns when the first loop does and the second from there. -/
theorem append_eq_ok {first second : List ι} {start final : σ} :
    (first ++ second).foldlM body start = .ok final ↔
      ∃ middle, first.foldlM body start = .ok middle ∧ second.foldlM body middle = .ok final := by
  rw [List.foldlM_append]
  exact bind_eq_ok

/-- What every pass relates, as an order does, the whole loop relates. The induction is on the
items. -/
theorem grows (below : σ → σ → Prop) (refl : ∀ state, below state state)
    (trans : ∀ {first second third}, below first second → below second third → below first third)
    (pass : ∀ {before after item}, body before item = .ok after → below before after)
    {items : List ι} {start final : σ} (ended : items.foldlM body start = .ok final) :
    below start final := by
  induction items generalizing start with
  | nil =>
    obtain rfl := nil_eq_ok.mp ended
    exact refl start
  | cons item rest inductionHypothesis =>
    obtain ⟨middle, passed, finished⟩ := cons_eq_ok.mp ended
    exact trans (pass passed) (inductionHypothesis finished)

end Ends

/-- Two loops over the same items: where every pass of the second is matched by one of the first,
the first loop returns when the second does, in a related state. The induction is on the items. -/
theorem simulates {first : σ → ι → Except ε σ} {second : τ → ι → Except ε τ}
    {related : σ → τ → Prop} {items : List ι}
    (pass : ∀ item ∈ items, ∀ {before other after}, related before other →
      second other item = .ok after → ∃ reached, first before item = .ok reached ∧
        related reached after)
    {start : σ} {other final : τ} (initially : related start other)
    (ended : items.foldlM second other = .ok final) :
    ∃ reached, items.foldlM first start = .ok reached ∧ related reached final := by
  induction items generalizing start other with
  | nil =>
    obtain rfl := nil_eq_ok.mp ended
    exact ⟨start, rfl, initially⟩
  | cons item rest inductionHypothesis =>
    obtain ⟨middle, passed, finished⟩ := cons_eq_ok.mp ended
    obtain ⟨reached, matched, after⟩ := pass item List.mem_cons_self initially passed
    obtain ⟨last, returned, related⟩ := inductionHypothesis
      (fun later member => pass later (List.mem_cons_of_mem item member)) after finished
    exact ⟨last, cons_eq_ok.mpr ⟨reached, matched, returned⟩, related⟩

/-- Run a body while a guard holds, for a number of passes at most. -/
def runWhile (guard : σ → Bool) (body : σ → Except ε σ) : ℕ → σ → Except ε σ
  | 0, state => .ok state
  | passes + 1, state => if guard state then body state >>= runWhile guard body passes else .ok state

/-- Every pass of a loop with a guard starts in a state that meets a condition. -/
def EveryPass (guard : σ → Bool) (body : σ → Except ε σ) (condition : σ → Prop) : ℕ → σ → Prop
  | 0, _ => True
  | passes + 1, state => guard state = true →
    condition state ∧ ∀ next, body state = .ok next → EveryPass guard body condition passes next

section Guards

variable {guard : σ → Bool} {body : σ → Except ε σ} {invariant condition good : σ → Prop}

/-- A pass, if the guard holds, and then the rest of the loop. -/
theorem run_while_succ_eq_ok {passes : ℕ} {start final : σ} :
    runWhile guard body (passes + 1) start = .ok final ↔
      (guard start = true ∧ ∃ next, body start = .ok next ∧
        runWhile guard body passes next = .ok final) ∨ guard start = false ∧ start = final := by
  rw [runWhile]
  cases guarded : guard start
  · simp
  · simp [bind_eq_ok]

/-- The rule of total correctness: where every pass returns, keeps an invariant and brings a measure
down, the loop returns once the guard fails. The induction is on the passes. -/
theorem run_while_returns (measure : σ → ℕ)
    (pass : ∀ state, invariant state → guard state = true →
      ∃ next, body state = .ok next ∧ invariant next ∧ measure next < measure state)
    {passes : ℕ} {start : σ} (holds : invariant start) (enough : measure start < passes) :
    ∃ final, runWhile guard body passes start = .ok final ∧ guard final = false ∧
      invariant final := by
  induction passes generalizing start with
  | zero => exact absurd enough (Nat.not_lt_zero _)
  | succ passes inductionHypothesis =>
    cases guarded : guard start with
    | false => exact ⟨start, run_while_succ_eq_ok.mpr (.inr ⟨guarded, rfl⟩), guarded, holds⟩
    | true =>
      obtain ⟨next, passed, kept, smaller⟩ := pass start holds guarded
      obtain ⟨final, returned, ended, invariantly⟩ := inductionHypothesis kept (by omega)
      exact ⟨final, run_while_succ_eq_ok.mpr (.inl ⟨guarded, next, passed, returned⟩), ended,
        invariantly⟩

/-- Where the pass may fail: a loop that returns has made all its passes, if each of them brings a
measure down. -/
theorem run_while_ends (measure : σ → ℕ)
    (smaller : ∀ state next, guard state = true → body state = .ok next →
      measure next < measure state)
    {passes : ℕ} {start final : σ} (enough : measure start < passes)
    (returned : runWhile guard body passes start = .ok final) : guard final = false := by
  induction passes generalizing start with
  | zero => exact absurd enough (Nat.not_lt_zero _)
  | succ passes inductionHypothesis =>
    obtain ⟨guarded, next, passed, rest⟩ | ⟨ended, rfl⟩ := run_while_succ_eq_ok.mp returned
    · have less := smaller start next guarded passed
      exact inductionHypothesis (by omega) rest
    · exact ended

/-- Where the pass may fail: what every pass keeps holds where the loop returns. -/
theorem run_while_keeps
    (kept : ∀ state next, invariant state → guard state = true → body state = .ok next →
      invariant next)
    {passes : ℕ} {start final : σ} (holds : invariant start)
    (returned : runWhile guard body passes start = .ok final) : invariant final := by
  induction passes generalizing start with
  | zero =>
    obtain rfl : start = final := Except.ok.inj returned
    exact holds
  | succ passes inductionHypothesis =>
    obtain ⟨guarded, next, passed, rest⟩ | ⟨-, rfl⟩ := run_while_succ_eq_ok.mp returned
    · exact inductionHypothesis (kept start next holds guarded passed) rest
    · exact holds

/-- Where the pass may fail: what a returning loop ends with is good exactly when it started so and
each of its passes met a condition, if that is what makes the state after a pass good. -/
theorem run_while_good_iff
    (same : ∀ state next, guard state = true → body state = .ok next →
      (good next ↔ good state ∧ condition state))
    {passes : ℕ} {start final : σ} (returned : runWhile guard body passes start = .ok final) :
    good final ↔ good start ∧ EveryPass guard body condition passes start := by
  induction passes generalizing start with
  | zero =>
    obtain rfl : start = final := Except.ok.inj returned
    exact (and_iff_left trivial).symm
  | succ passes inductionHypothesis =>
    obtain ⟨guarded, next, passed, rest⟩ | ⟨ended, rfl⟩ := run_while_succ_eq_ok.mp returned
    · rw [inductionHypothesis rest, same start next guarded passed, and_assoc]
      refine and_congr_right fun _ => ?_
      constructor
      · rintro ⟨meets, later⟩ -
        refine ⟨meets, fun other otherPassed => ?_⟩
        obtain rfl : next = other := Except.ok.inj (passed.symm.trans otherPassed)
        exact later
      · intro every
        exact ⟨(every guarded).1, (every guarded).2 next passed⟩
    · refine (and_iff_left ?_).symm
      intro guarded
      rw [ended] at guarded
      cases guarded

end Guards

end Loops
