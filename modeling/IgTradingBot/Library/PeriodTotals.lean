import Mathlib.Algebra.BigOperators.Group.List.Basic
import Mathlib.Data.List.Infix
import Mathlib.Order.Lattice

/-!
# Totals of a period that are rolled over lazily

A running total belongs to a period and is cleared only when somebody asks for the
total of a later one. A ledger lists every amount with the period in which it was
entered. The total may be trusted in the current period; one that still belongs to an
earlier period may hold anything, because nobody reads it before it is cleared.

The second part is about histories, latest entry first: a property of every entry and
of what came before it.
-/

namespace PeriodTotals

variable {Period Amount : Type} [LinearOrder Period] [AddCommMonoid Amount]

/-- Sum of the amounts that were entered in a period. -/
def sumOn (period : Period) : List (Period × Amount) → Amount
  | [] => 0
  | entry :: rest => if entry.1 = period then sumOn period rest + entry.2 else sumOn period rest

/-- A total of a period tracks a ledger at the current period. -/
structure Tracks (ledger : List (Period × Amount)) (current period : Period) (total : Amount) :
    Prop where
  reached : period ≤ current
  past : ∀ entry ∈ ledger, entry.2 = 0 ∨ entry.1 ≤ period
  exact_of_current : period = current → total = sumOn current ledger

/-- A period later than every nonzero entry has the sum zero. -/
theorem sum_on_later {ledger : List (Period × Amount)} {period later : Period}
    (past : ∀ entry ∈ ledger, entry.2 = 0 ∨ entry.1 ≤ period) (after : period < later) :
    sumOn later ledger = 0 := by
  induction ledger with
  | nil => rfl
  | cons entry rest inductionHypothesis =>
    have remaining := inductionHypothesis fun other member =>
      past other (List.mem_cons_of_mem entry member)
    by_cases same : entry.1 = later
    · obtain zero | before := past entry List.mem_cons_self
      · simp [sumOn, same, zero, remaining]
      · exact absurd (same ▸ before) (not_le_of_gt after)
    · simp [sumOn, same, remaining]

section Tracking

variable {ledger : List (Period × Amount)} {current period : Period} {total : Amount}

/-- An empty ledger is tracked by zero. -/
theorem tracks_nil (current : Period) : Tracks ([] : List (Period × Amount)) current current 0 :=
  ⟨le_refl current, by simp, fun _ => rfl⟩

/-- Time that passes makes a total at most stale. -/
theorem Tracks.wait (tracks : Tracks ledger current period total) {later : Period}
    (passes : current ≤ later) : Tracks ledger later period total where
  reached := tracks.reached.trans passes
  past := tracks.past
  exact_of_current same := by
    have unmoved : current = later := le_antisymm passes (same ▸ tracks.reached)
    exact unmoved ▸ tracks.exact_of_current (same.trans unmoved.symm)

/-- Clearing a stale total makes it track the current period. -/
theorem Tracks.roll (tracks : Tracks ledger current period total) (stale : current ≠ period) :
    Tracks ledger current current 0 where
  reached := le_refl current
  past entry member := (tracks.past entry member).imp_right fun before =>
    before.trans tracks.reached
  exact_of_current _ :=
    (sum_on_later tracks.past (lt_of_le_of_ne tracks.reached stale.symm)).symm

/-- An amount may be entered in the ledger, in the total, in both or in none of them: the
total still tracks the ledger when the amount is zero, or when the ledger has it exactly
if the total has it in the current period. -/
theorem Tracks.enter (tracks : Tracks ledger current period total) (amount : Amount)
    (confirmed booked : Bool)
    (regular : amount = 0 ∨ (confirmed = true ↔ booked = true ∧ period = current)) :
    Tracks (if confirmed then (current, amount) :: ledger else ledger) current period
      (if booked then total + amount else total) := by
  refine ⟨tracks.reached, ?_, ?_⟩
  · intro entry member
    cases confirmed with
    | false => exact tracks.past entry member
    | true =>
      obtain rfl | member := List.mem_cons.mp member
      · exact regular.imp_right fun both => ((both.mp rfl).2).ge
      · exact tracks.past entry member
  · intro same
    have before := tracks.exact_of_current same
    obtain zero | both := regular
    · cases confirmed <;> cases booked <;> simp [sumOn, zero, before]
    · cases booked with
      | true =>
        rw [both.mpr ⟨rfl, same⟩]
        simp [sumOn, before]
      | false =>
        have unconfirmed : confirmed = false := by
          cases confirmed with
          | false => rfl
          | true => exact absurd (both.mp rfl).1 (by decide)
        simp [unconfirmed, before]

end Tracking

section Histories

variable {Event : Type}

/-- Every event of a history has a property together with what came before it. -/
def Throughout (holds : Event → List Event → Prop) : List Event → Prop
  | [] => True
  | event :: earlier => holds event earlier ∧ Throughout holds earlier

instance throughoutDecidable (holds : Event → List Event → Prop)
    [∀ event earlier, Decidable (holds event earlier)] :
    (history : List Event) → Decidable (Throughout holds history)
  | [] => isTrue trivial
  | _ :: earlier =>
    have := throughoutDecidable holds earlier
    inferInstanceAs (Decidable (_ ∧ _))

/-- What holds throughout a history holds throughout its past. -/
theorem Throughout.of_suffix {holds : Event → List Event → Prop} {history past : List Event}
    (all : Throughout holds history) (suffix : past <:+ history) : Throughout holds past := by
  obtain ⟨later, rfl⟩ := suffix
  induction later with
  | nil => exact all
  | cons event rest inductionHypothesis => exact inductionHypothesis all.2

end Histories

end PeriodTotals
