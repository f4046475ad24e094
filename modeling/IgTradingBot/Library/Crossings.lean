import Mathlib.Data.List.Basic

/-!
# Alerts of crossings

A level is high or low, and low at first. An alert is raised when it is high after it was low, or low
after it was high, and says which. The alerts then alternate, the first one is a rise, and the last
one tells the level.
-/

namespace Crossings

/-- Signs alternate, from a first one on. -/
def Alternates : Bool → List Bool → Prop
  | _, [] => True
  | first, sign :: rest => sign = first ∧ Alternates (!first) rest

instance decidableAlternates : ∀ (first : Bool) (signs : List Bool),
    Decidable (Alternates first signs)
  | _, [] => inferInstanceAs (Decidable True)
  | first, _ :: rest =>
    have := decidableAlternates (!first) rest
    inferInstanceAs (Decidable (_ ∧ _))

/-- The alert of a change: none where the level stays, else the new level. -/
def crossing (wasHigh isHigh : Bool) : List Bool := if wasHigh = isHigh then [] else [isHigh]

/-- Alerts follow a level: they alternate, and the last one tells it. -/
structure Follows (alerts : List Bool) (high : Bool) : Prop where
  alternates : Alternates true alerts
  last : alerts.getLast?.getD false = high

section Laws

variable {first : Bool} {signs : List Bool}

/-- A sign that differs from the last one goes on alternating. The induction is on the signs. -/
theorem alternates_concat (alternates : Alternates first signs) {next : Bool}
    (differs : next ≠ signs.getLast?.getD (!first)) : Alternates first (signs ++ [next]) := by
  induction signs generalizing first with
  | nil => exact ⟨by simpa using differs, trivial⟩
  | cons sign rest inductionHypothesis =>
    obtain ⟨rfl, alternatesRest⟩ := alternates
    refine ⟨rfl, inductionHypothesis alternatesRest ?_⟩
    rw [List.getLast?_cons] at differs
    simpa using differs

/-- Without alerts the level is low. -/
theorem follows_nil : Follows [] false := ⟨trivial, rfl⟩

/-- The alert of a change follows the level. -/
theorem Follows.crossing {alerts : List Bool} {wasHigh : Bool} (follows : Follows alerts wasHigh)
    (isHigh : Bool) : Follows (alerts ++ Crossings.crossing wasHigh isHigh) isHigh := by
  unfold Crossings.crossing
  split_ifs with same
  · rw [List.append_nil, ← same]
    exact follows
  · refine ⟨alternates_concat follows.alternates ?_, by simp⟩
    rw [Bool.not_true, follows.last]
    exact fun reached => same reached.symm

/-- The last alert is a rise exactly where the level is high. -/
theorem Follows.last_iff {alerts : List Bool} {high : Bool} (follows : Follows alerts high) :
    alerts.getLast? = some true ↔ high = true := by
  rw [← follows.last]
  cases alerts.getLast? with
  | none => simp
  | some last => simp

end Laws

end Crossings
