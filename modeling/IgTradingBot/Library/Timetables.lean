import Mathlib.Data.Int.ModEq
import Mathlib.Order.Bounds.Basic
import Mathlib.Tactic.Linarith

/-!
# Timetables

A timetable opens at the same times of every period. It is given by the spans of a period in which
it is open; a span contains its start and not its stop. The first opening that is not before a given
time is this time itself, or the nearest start of a span: whoever waits for the nearest start misses
no opening, for an opening that is still to come has its start still to come.
-/

namespace Timetables

/-- Spans of a period, each with its start and its stop. -/
structure Timetable where
  period : ℤ
  spans : List (ℤ × ℤ)
  positive : 0 < period
  ordered : ∀ span ∈ spans, 0 ≤ span.1 ∧ span.1 < span.2 ∧ span.2 ≤ period

namespace Timetable

variable (table : Timetable)

/-- Where a time stands in its period. -/
def phase (time : ℤ) : ℤ := time % table.period

/-- The timetable is open at a time. -/
def Opens (time : ℤ) : Prop :=
  ∃ span ∈ table.spans, span.1 ≤ table.phase time ∧ table.phase time < span.2

instance (time : ℤ) : Decidable (table.Opens time) :=
  inferInstanceAs (Decidable (∃ span ∈ table.spans, _))

/-- How long it is from a time to the next start of a span. -/
def wait (time : ℤ) (span : ℤ × ℤ) : ℤ := (span.1 - time) % table.period

variable {table} {time opening : ℤ} {span : ℤ × ℤ}

/-- Time goes on within a period. -/
theorem phase_add {distance : ℤ} (fromZero : 0 ≤ table.phase time + distance)
    (within : table.phase time + distance < table.period) :
    table.phase (time + distance) = table.phase time + distance := by
  rw [phase, ← Int.emod_add_emod]
  exact Int.emod_eq_of_lt fromZero within

/-- The wait depends on where the time stands in its period. -/
theorem wait_eq : table.wait time span = (span.1 - table.phase time) % table.period := by
  rw [wait, phase, Int.sub_emod_emod]

theorem wait_nonneg : 0 ≤ table.wait time span := Int.emod_nonneg _ table.positive.ne'

/-- After the wait for a span it is its start. -/
theorem phase_after_wait (known : span ∈ table.spans) :
    table.phase (time + table.wait time span) = span.1 := by
  obtain ⟨fromZero, nonempty, within⟩ := table.ordered span known
  rw [phase, wait, Int.add_emod_emod, add_sub_cancel]
  exact Int.emod_eq_of_lt fromZero (nonempty.trans_le within)

/-- The timetable is open after the wait for a span. -/
theorem opens_after_wait (known : span ∈ table.spans) :
    table.Opens (time + table.wait time span) := by
  refine ⟨span, known, ?_⟩
  rw [phase_after_wait known]
  exact ⟨le_rfl, (table.ordered span known).2.1⟩

/-- No time at which it is the start of a span comes before the wait for the span is over. -/
theorem wait_le_of_start {start : ℤ} (later : time ≤ start) (starts : table.phase start = span.1) :
    time + table.wait time span ≤ start := by
  have left : table.wait time span = (start - time) % table.period := by
    rw [wait, ← starts, phase, Int.emod_sub_emod]
  have division := Int.emod_add_mul_ediv (start - time) table.period
  have whole : 0 ≤ table.period * ((start - time) / table.period) :=
    mul_nonneg table.positive.le (Int.ediv_nonneg (by linarith) table.positive.le)
  linarith

/-- An opening that is still to come has its start still to come: from a time at which the timetable
is closed, no later time in a span comes before the wait for the span is over. -/
theorem wait_le_of_later (closed : ¬table.Opens time) (later : time ≤ opening)
    (known : span ∈ table.spans) (started : span.1 ≤ table.phase opening)
    (notEnded : table.phase opening < span.2) : time + table.wait time span ≤ opening := by
  obtain ⟨fromZero, _, within⟩ := table.ordered span known
  have starts : table.phase (opening + (span.1 - table.phase opening)) = span.1 := by
    rw [phase_add (by linarith) (by linarith), add_sub_cancel]
  generalize opened : opening + (span.1 - table.phase opening) = start at starts
  by_cases begun : time ≤ start
  · have waited := wait_le_of_start begun starts
    linarith
  · -- the span had started before, so that the timetable was open
    refine absurd ⟨span, known, ?_⟩ closed
    have stands : table.phase (start + (time - start)) = span.1 + (time - start) := by
      rw [phase_add (by linarith) (by linarith), starts]
    rw [add_sub_cancel] at stands
    rw [stands]
    constructor <;> linarith

/-- The first opening from a time at which the timetable is closed: it is the end of the wait for
some span, and of no longer wait than that for any other. -/
theorem isLeast_opening_of_closed (closed : ¬table.Opens time)
    (reached : ∃ span ∈ table.spans, opening = time + table.wait time span)
    (nearest : ∀ span ∈ table.spans, opening ≤ time + table.wait time span) :
    IsLeast {later | time ≤ later ∧ table.Opens later} opening := by
  obtain ⟨span, known, rfl⟩ := reached
  have waits : 0 ≤ table.wait time span := wait_nonneg
  refine ⟨⟨by linarith, opens_after_wait known⟩, ?_⟩
  rintro later ⟨notBefore, other, among, started, notEnded⟩
  exact (nearest other among).trans (wait_le_of_later closed notBefore among started notEnded)

/-- While the timetable is open, the first opening is now. -/
theorem isLeast_opening_of_opens (opens : table.Opens time) :
    IsLeast {later | time ≤ later ∧ table.Opens later} time :=
  ⟨⟨le_rfl, opens⟩, fun _ later => later.1⟩

end Timetable

end Timetables
