import IgTradingBot.Config.Constants
import IgTradingBot.Library.Retries

/-!
# Closing everything

`KillSwitch.close_all_positions` of `src/risk/kill_switch.py`: every position is
closed by a function of the caller, which may answer true or false, time out or
raise at each attempt. The function acts on a state of its caller that the model
leaves arbitrary, so its behaviour may depend on everything that went before.
Next to its report the model keeps the calls that were made, position by
position.
-/

namespace IgTradingBot

/-- What one call of the close function comes to within its time. -/
inductive CloseOutcome where
  | returned (closed : Bool)
  | timedOut
  | raised (message : String)
  deriving DecidableEq, Repr

namespace CloseOutcome

/-- Only a true answer is a success. -/
def succeeds : CloseOutcome → Bool
  | .returned closed => closed
  | .timedOut => false
  | .raised _ => false

end CloseOutcome

/-- A position as the switch sees it: an object with an identifier, a dictionary
with one, or anything else, known by its text. -/
inductive ClosablePosition where
  | withAttribute (id : String)
  | withKey (id : String)
  | plain (text : String)
  deriving DecidableEq, Repr

/-- Report on one position. -/
structure PositionCloseResult where
  positionId : String
  success : Bool
  attempts : ℕ
  error : Option String := none
  deriving DecidableEq, Repr

/-- Report on all positions. -/
structure CloseAllResult where
  totalPositions : ℕ
  closedSuccessfully : ℕ
  failedPositions : List PositionCloseResult := []
  deriving DecidableEq, Repr

/-- The attributes of the switch that decide how positions are closed. -/
structure CloseSettings where
  closeTimeoutSeconds : ℕ := Constants.killSwitchCloseTimeoutSeconds
  retryCount : ℕ := 3
  deriving DecidableEq, Repr

/-- One position after its attempts: the report, the outcomes of the calls in
their order, and the state of the caller. -/
structure PositionClosing (State : Type*) where
  result : PositionCloseResult
  outcomes : List CloseOutcome
  state : State

/-- All positions after their attempts: the report, the calls by position, and
the state of the caller. -/
structure CloseAllRun (State : Type*) where
  result : CloseAllResult
  calls : List (ClosablePosition × List CloseOutcome)
  state : State

namespace CloseAll

variable {State : Type*}

/-- Identifier of a position. -/
def getPositionId : ClosablePosition → String
  | .withAttribute id => id
  | .withKey id => id
  | .plain text => text

/-- The first attempt and the retries. -/
def maxAttempts (settings : CloseSettings) : ℕ := 1 + settings.retryCount

/-- Error that an attempt leaves behind. -/
def attemptError (settings : CloseSettings) (attempt : ℕ) : CloseOutcome → String
  | .returned _ => "close_fn returned False"
  | .timedOut => s!"Timeout after {settings.closeTimeoutSeconds}s on attempt {attempt}"
  | .raised message => s!"Error on attempt {attempt}: {message}"

/-- The loop over the attempts that are left, from a numbered attempt on. -/
def attemptClose (settings : CloseSettings)
    (closeFn : ClosablePosition → State → CloseOutcome × State) (position : ClosablePosition) :
    ℕ → ℕ → Option String → State → PositionClosing State
  | 0, _, lastError, state =>
    ⟨⟨getPositionId position, false, maxAttempts settings, lastError⟩, [], state⟩
  | remaining + 1, attempt, _, state =>
    let called := closeFn position state
    if called.1.succeeds then
      ⟨⟨getPositionId position, true, attempt, none⟩, [called.1], called.2⟩
    else
      let rest := attemptClose settings closeFn position remaining (attempt + 1)
        (some (attemptError settings attempt called.1)) called.2
      ⟨rest.result, called.1 :: rest.outcomes, rest.state⟩

/-- Attempts are made until one succeeds, at most the allowed number of them. -/
def closeSinglePosition (settings : CloseSettings)
    (closeFn : ClosablePosition → State → CloseOutcome × State) (position : ClosablePosition)
    (state : State) : PositionClosing State :=
  attemptClose settings closeFn position (maxAttempts settings) 1 none state

/-- The loop over the positions: the reports and the calls in the order of the
positions. -/
def closeEach (settings : CloseSettings)
    (closeFn : ClosablePosition → State → CloseOutcome × State) :
    List ClosablePosition → State →
      List PositionCloseResult × List (ClosablePosition × List CloseOutcome) × State
  | [], state => ([], [], state)
  | position :: others, state =>
    let closing := closeSinglePosition settings closeFn position state
    let rest := closeEach settings closeFn others closing.state
    (closing.result :: rest.1, (position, closing.outcomes) :: rest.2.1, rest.2.2)

/-- Close all positions and count what was closed. -/
def closeAllPositions (settings : CloseSettings)
    (closeFn : ClosablePosition → State → CloseOutcome × State)
    (positions : List ClosablePosition) (state : State) : CloseAllRun State :=
  if positions.isEmpty then ⟨⟨0, 0, []⟩, [], state⟩
  else
    let closings := closeEach settings closeFn positions state
    let closed := closings.1.filter fun result => result.success
    let failed := closings.1.filter fun result => !result.success
    ⟨⟨positions.length, closed.length, failed⟩, closings.2.1, closings.2.2⟩

section Attempts

variable (settings : CloseSettings) (closeFn : ClosablePosition → State → CloseOutcome × State)

/-- The calls of the loop are the answers of bounded attempts that end with the
first success. -/
theorem attempt_close_outcomes (position : ClosablePosition) (remaining attempt : ℕ)
    (lastError : Option String) (state : State) :
    (attemptClose settings closeFn position remaining attempt lastError state).outcomes =
      (Retries.answers (closeFn position) CloseOutcome.succeeds remaining state).1 := by
  induction remaining generalizing attempt lastError state with
  | zero => rfl
  | succ remaining inductionHypothesis =>
    cases succeeded : (closeFn position state).1.succeeds with
    | true =>
      rw [Retries.answers_ended _ _ succeeded]
      simp only [attemptClose, succeeded, if_true]
    | false =>
      rw [Retries.answers_continued _ _ succeeded]
      simp only [attemptClose, succeeded, Bool.false_eq_true, if_false, inductionHypothesis]

/-- A position is reported as closed exactly when one of its calls has succeeded. -/
theorem attempt_close_success (position : ClosablePosition) (remaining attempt : ℕ)
    (lastError : Option String) (state : State) :
    (attemptClose settings closeFn position remaining attempt lastError state).result.success =
      (attemptClose settings closeFn position remaining attempt lastError state).outcomes.any
        CloseOutcome.succeeds := by
  induction remaining generalizing attempt lastError state with
  | zero => rfl
  | succ remaining inductionHypothesis =>
    cases succeeded : (closeFn position state).1.succeeds with
    | true => simp [attemptClose, succeeded]
    | false =>
      simp only [attemptClose, succeeded, Bool.false_eq_true, if_false, List.any_cons,
        Bool.false_or, inductionHypothesis]

/-- The report names the position; a failure comes with the allowed number of attempts. -/
theorem attempt_close_report (position : ClosablePosition) (remaining attempt : ℕ)
    (lastError : Option String) (state : State) :
    let closing := attemptClose settings closeFn position remaining attempt lastError state
    closing.result.positionId = getPositionId position ∧
      (closing.result.success = false → closing.result.attempts = maxAttempts settings) := by
  induction remaining generalizing attempt lastError state with
  | zero => exact ⟨rfl, fun _ => rfl⟩
  | succ remaining inductionHypothesis =>
    cases succeeded : (closeFn position state).1.succeeds with
    | true => simp [attemptClose, succeeded]
    | false =>
      simp only [attemptClose, succeeded, Bool.false_eq_true, if_false]
      exact inductionHypothesis _ _ _

/-- What the calls for one position are like: at least one and at most the
allowed number, and none after a success. -/
def Bounded (settings : CloseSettings) (outcomes : List CloseOutcome) : Prop :=
  1 ≤ outcomes.length ∧ outcomes.length ≤ maxAttempts settings ∧
    ∀ earlier ∈ outcomes.dropLast, earlier ≠ .returned true

/-- The calls for one position are bounded and stop with the first success. -/
theorem close_single_position_bounded (position : ClosablePosition) (state : State) :
    Bounded settings (closeSinglePosition settings closeFn position state).outcomes := by
  have first : maxAttempts settings = settings.retryCount + 1 := Nat.add_comm 1 _
  rw [Bounded, closeSinglePosition, attempt_close_outcomes]
  refine ⟨?_, Retries.answers_length_le _ _ _ _, ?_⟩
  · rw [first]
    exact Retries.answers_length_pos _ _ _ _
  · intro earlier listed success
    have unsuccessful := Retries.answers_before_last _ _ _ _ earlier listed
    rw [success] at unsuccessful
    exact absurd unsuccessful (by simp [CloseOutcome.succeeds])

/-- The loop over the positions calls the close function for each of them, in
their order, and reports on each. -/
theorem close_each_positions (positions : List ClosablePosition) (state : State) :
    (closeEach settings closeFn positions state).2.1.map Prod.fst = positions ∧
      (closeEach settings closeFn positions state).1.map PositionCloseResult.positionId =
        positions.map getPositionId := by
  induction positions generalizing state with
  | nil => exact ⟨rfl, rfl⟩
  | cons position others inductionHypothesis =>
    obtain ⟨called, reported⟩ :=
      inductionHypothesis (closeSinglePosition settings closeFn position state).state
    have named := (attempt_close_report settings closeFn position (maxAttempts settings) 1 none
      state).1
    constructor
    · simp only [closeEach, List.map_cons, called]
    · simp only [closeEach, List.map_cons, reported]
      rw [closeSinglePosition, named]

/-- The calls for every position are bounded and stop with the first success. -/
theorem close_each_bounded (positions : List ClosablePosition) (state : State) :
    ∀ call ∈ (closeEach settings closeFn positions state).2.1, Bounded settings call.2 := by
  induction positions generalizing state with
  | nil =>
    intro call listed
    exact absurd listed (List.not_mem_nil)
  | cons position others inductionHypothesis =>
    intro call listed
    simp only [closeEach, List.mem_cons] at listed
    rcases listed with rfl | listed
    · exact close_single_position_bounded settings closeFn position state
    · exact inductionHypothesis _ call listed

/-- A failure is listed exactly for the positions without a successful call, in
their order, and each of them has had the allowed number of attempts. -/
theorem close_each_failures (positions : List ClosablePosition) (state : State) :
    let closings := closeEach settings closeFn positions state
    (closings.1.filter fun result => !result.success).map
        (fun result => (result.positionId, result.attempts)) =
      (closings.2.1.filter fun call => !call.2.any CloseOutcome.succeeds).map
        fun call => (getPositionId call.1, maxAttempts settings) := by
  induction positions generalizing state with
  | nil => rfl
  | cons position others inductionHypothesis =>
    have success : (closeSinglePosition settings closeFn position state).result.success =
        (closeSinglePosition settings closeFn position state).outcomes.any
          CloseOutcome.succeeds := attempt_close_success settings closeFn position _ 1 none state
    obtain ⟨named, allowed⟩ :=
      attempt_close_report settings closeFn position (maxAttempts settings) 1 none state
    have rest := inductionHypothesis (closeSinglePosition settings closeFn position state).state
    simp only [closeEach, List.filter_cons, ← success]
    cases closed : (closeSinglePosition settings closeFn position state).result.success with
    | true => simpa using rest
    | false =>
      have attempts := allowed closed
      simp only [Bool.not_false, if_true, List.map_cons]
      rw [← rest]
      exact congrArg (· :: _) (Prod.ext named attempts)

end Attempts

/-- Every position is attempted at least once and at most the allowed number of
times, attempts on it stop after the first success, and the closed positions and
the listed failures together are all positions. -/
theorem close_all_positions_accounts (settings : CloseSettings)
    (closeFn : ClosablePosition → State → CloseOutcome × State)
    (positions : List ClosablePosition) (state : State) :
    let run := closeAllPositions settings closeFn positions state
    run.calls.map Prod.fst = positions ∧
      (∀ call ∈ run.calls, 1 ≤ call.2.length ∧ call.2.length ≤ maxAttempts settings ∧
        ∀ earlier ∈ call.2.dropLast, earlier ≠ .returned true) ∧
      run.result.closedSuccessfully + run.result.failedPositions.length = positions.length := by
  cases positions with
  | nil => simp [closeAllPositions]
  | cons position others =>
    have attempted := close_each_positions settings closeFn (position :: others) state
    have reports := congrArg List.length attempted.2
    rw [List.length_map, List.length_map] at reports
    refine ⟨attempted.1, close_each_bounded settings closeFn (position :: others) state, ?_⟩
    -- every report is of a closed position or of a failure
    have parts := (closeEach settings closeFn (position :: others) state).1.length_eq_length_filter_add
      (fun result => result.success)
    simp only [closeAllPositions, List.isEmpty_cons, Bool.false_eq_true, if_false]
    omega

/-- The listed failures are exactly the positions that no call has closed, each
after the allowed number of attempts. -/
theorem close_all_positions_failures (settings : CloseSettings)
    (closeFn : ClosablePosition → State → CloseOutcome × State)
    (positions : List ClosablePosition) (state : State) :
    let run := closeAllPositions settings closeFn positions state
    run.result.failedPositions.map (fun result => (result.positionId, result.attempts)) =
      (run.calls.filter fun call => !call.2.any CloseOutcome.succeeds).map
        fun call => (getPositionId call.1, maxAttempts settings) := by
  cases positions with
  | nil => rfl
  | cons position others => exact close_each_failures settings closeFn (position :: others) state

end CloseAll

end IgTradingBot
