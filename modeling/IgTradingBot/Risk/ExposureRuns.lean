import IgTradingBot.Library.Machines
import IgTradingBot.Risk.ExposureManager

/-!
# Runs of the exposure manager

A run updates regional scores and proposes positions, in any order. Every proposal is
checked against the positions accepted before it, with the stored scores or with a table of
its own, and joins them if the check allows it. The configured limits do not change.
-/

namespace IgTradingBot

/-- The manager with the positions it has accepted. -/
structure ExposureBook where
  manager : ExposureManager
  accepted : List ExposurePosition := []

/-- What happens to the manager. -/
inductive ExposureMove where
  | scored (region : String) (score : ℤ)
  | proposed (position : ExposurePosition)
      (explicitScores : Option (AList (fun _ : String => ℚ)))

/-- A position lies in a region when it names one; a blank name is none. -/
def ExposurePosition.InRegion (position : ExposurePosition) (region : String) : Prop :=
  position.region = some region ∧ region ≠ ""

namespace ExposureBook

open ExposureManager

/-- The scores that a proposal is checked with. -/
def scoresFor (book : ExposureBook) (explicitScores : Option (AList (fun _ : String => ℚ))) :
    AList (fun _ : String => ℚ) :=
  explicitScores.getD book.manager.geoRiskScores

/-- The check allows a proposal. -/
def Accepts (book : ExposureBook) (accountEquity : ℚ) (position : ExposurePosition)
    (explicitScores : Option (AList (fun _ : String => ℚ))) : Prop :=
  (book.manager.checkExposure position book.accepted accountEquity explicitScores).allowed = true

instance (book : ExposureBook) (accountEquity : ℚ) (position : ExposurePosition)
    (explicitScores : Option (AList (fun _ : String => ℚ))) :
    Decidable (book.Accepts accountEquity position explicitScores) :=
  inferInstanceAs (Decidable (_ = true))

/-- One move, at a fixed equity. -/
def step (accountEquity : ℚ) (book : ExposureBook) : ExposureMove → ExposureBook
  | .scored region score => { book with manager := book.manager.updateGeoRisk region score }
  | .proposed position explicitScores =>
    if book.Accepts accountEquity position explicitScores then
      { book with accepted := position :: book.accepted }
    else book

/-- The accepted positions respect both configured limits. Before any is accepted there is
nothing to bound. -/
structure WithinLimits (maxPerClass maxTotal accountEquity : ℚ) (book : ExposureBook) :
    Prop where
  samePerClass : book.manager.maxPerClass = maxPerClass
  sameTotal : book.manager.maxTotal = maxTotal
  classes : book.accepted ≠ [] → ∀ assetClass,
    getClassExposure assetClass book.accepted accountEquity ≤ maxPerClass
  total : book.accepted ≠ [] → getTotalExposure book.accepted accountEquity ≤ maxTotal

section Exposures

variable {book : ExposureBook} {accountEquity maxPerClass maxTotal : ℚ}
  {position : ExposurePosition} {explicitScores : Option (AList (fun _ : String => ℚ))}

/-- A position leaves the exposure of the other classes as it is. -/
theorem class_exposure_of_other {assetClass : AssetClass}
    (other : position.assetClass ≠ assetClass) (positions : List ExposurePosition) :
    getClassExposure assetClass (position :: positions) accountEquity =
      getClassExposure assetClass positions accountEquity := by
  simp [getClassExposure, other]

/-- An accepted position makes its class respect the limit that its region leaves. -/
theorem accepted_class_exposure (accepts : book.Accepts accountEquity position explicitScores) :
    getClassExposure position.assetClass (position :: book.accepted) accountEquity ≤
      book.manager.getEffectiveClassLimit position.region (book.scoresFor explicitScores) :=
  (check_exposure_allowed _ _ _ _ _ accepts).2.1

/-- An accepted position shows that the configured class limit is not negative, and makes its
class respect it. -/
theorem accepted_within_class_limit
    (accepts : book.Accepts accountEquity position explicitScores) :
    0 ≤ book.manager.maxPerClass ∧
      getClassExposure position.assetClass (position :: book.accepted) accountEquity ≤
        book.manager.maxPerClass := by
  have bounded := accepted_class_exposure accepts
  have nonneg := (class_exposure_nonneg position.assetClass (position :: book.accepted)
    accountEquity).trans bounded
  have limit := effective_limit_le_of_nonneg _ _ _ nonneg
  exact ⟨nonneg.trans limit, bounded.trans limit⟩

/-- The limit is halved for a region whose score exceeds the threshold. -/
theorem effective_limit_halved {region : String} {score : ℚ} (manager : ExposureManager)
    (scores : AList (fun _ : String => ℚ)) (inRegion : position.InRegion region)
    (scored : scores.lookup region = some score) (elevated : geopoliticalRiskThreshold < score) :
    manager.getEffectiveClassLimit position.region scores = manager.maxPerClass / 2 := by
  have known : scores.keys ≠ [] := by
    intro noKeys
    have present : region ∈ scores.keys := AList.mem_keys.mp
      (AList.lookup_isSome.mp (by rw [scored]; rfl))
    rw [noKeys] at present
    exact List.not_mem_nil present
  simp only [getEffectiveClassLimit, inRegion.1, inRegion.2, known, or_self, if_false, scored,
    Option.getD_some, elevated, if_true]

end Exposures

section Steps

variable {maxPerClass maxTotal accountEquity : ℚ}

/-- An accepted position keeps the other classes' exposures and makes its own class and the
total respect their limits. -/
theorem WithinLimits.accept {book : ExposureBook}
    (within : book.WithinLimits maxPerClass maxTotal accountEquity)
    {position : ExposurePosition} {explicitScores : Option (AList (fun _ : String => ℚ))}
    (accepts : book.Accepts accountEquity position explicitScores) :
    WithinLimits maxPerClass maxTotal accountEquity
      { book with accepted := position :: book.accepted } := by
  obtain ⟨nonneg, ownClass⟩ := accepted_within_class_limit accepts
  constructor
  · exact within.samePerClass
  · exact within.sameTotal
  · intro _ assetClass
    by_cases own : position.assetClass = assetClass
    · rw [← own, ← within.samePerClass]
      exact ownClass
    · rw [class_exposure_of_other own]
      by_cases first : book.accepted = []
      · rw [first, ← within.samePerClass]
        simpa [getClassExposure, notionalOf] using nonneg
      · exact within.classes first assetClass
  · intro _
    rw [← within.sameTotal]
    exact (check_exposure_allowed _ _ _ _ _ accepts).2.2

/-- Every move keeps the accepted positions within the limits. -/
theorem WithinLimits.step {book : ExposureBook} {move : ExposureMove}
    (within : book.WithinLimits maxPerClass maxTotal accountEquity) :
    (book.step accountEquity move).WithinLimits maxPerClass maxTotal accountEquity := by
  cases move with
  | scored region score =>
    exact ⟨within.samePerClass, within.sameTotal, within.classes, within.total⟩
  | proposed position explicitScores =>
    by_cases accepts : book.Accepts accountEquity position explicitScores
    · simp only [ExposureBook.step, if_pos accepts]
      exact within.accept accepts
    · simp only [ExposureBook.step, if_neg accepts]
      exact within

/-- Every run from a manager without positions keeps them within the limits. -/
theorem run_within_limits (manager : ExposureManager) (moves : List ExposureMove) :
    (Machines.after (step accountEquity) ⟨manager, []⟩ moves).WithinLimits
      manager.maxPerClass manager.maxTotal accountEquity := by
  apply Machines.after_keeps_always fun _ _ => WithinLimits.step
  exact ⟨rfl, rfl, fun nonempty => absurd rfl nonempty, fun nonempty => absurd rfl nonempty⟩

end Steps

/-- The exposure limits are inductive. After every run every class exposure and the total
respect the configured limits, once a position has been accepted; before that they are zero,
which respects the limits that are not negative. A position that is accepted next, in a region
whose score exceeds the threshold, leaves its class with at most half of the limit. -/
theorem accepted_positions_within_limits (manager : ExposureManager) (accountEquity : ℚ)
    (moves : List ExposureMove) :
    let book := Machines.after (step accountEquity) ⟨manager, []⟩ moves
    (book.accepted ≠ [] ∨ 0 ≤ manager.maxPerClass → ∀ assetClass,
        getClassExposure assetClass book.accepted accountEquity ≤ manager.maxPerClass) ∧
      (book.accepted ≠ [] ∨ 0 ≤ manager.maxTotal →
        getTotalExposure book.accepted accountEquity ≤ manager.maxTotal) ∧
      ∀ (position : ExposurePosition) (explicitScores : Option (AList (fun _ : String => ℚ)))
        (region : String) (score : ℚ),
        book.Accepts accountEquity position explicitScores → position.InRegion region →
          (book.scoresFor explicitScores).lookup region = some score →
          geopoliticalRiskThreshold < score →
            getClassExposure position.assetClass (position :: book.accepted) accountEquity ≤
              manager.maxPerClass / 2 := by
  intro book
  have within : book.WithinLimits manager.maxPerClass manager.maxTotal accountEquity :=
    run_within_limits manager moves
  refine ⟨?_, ?_, ?_⟩
  · intro bounded assetClass
    by_cases first : book.accepted = []
    · rw [first]
      simpa [getClassExposure, notionalOf] using bounded.resolve_left (not_not.mpr first)
    · exact within.classes first assetClass
  · intro bounded
    by_cases first : book.accepted = []
    · rw [first]
      simpa [getTotalExposure, notionalOf] using bounded.resolve_left (not_not.mpr first)
    · exact within.total first
  · intro position explicitScores region score accepts inRegion scored elevated
    have bounded := accepted_class_exposure accepts
    rw [effective_limit_halved book.manager _ inRegion scored elevated,
      within.samePerClass] at bounded
    exact bounded

end ExposureBook

end IgTradingBot
